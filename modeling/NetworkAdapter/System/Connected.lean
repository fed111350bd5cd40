import NetworkAdapter.Client.TaskQueue
import NetworkAdapter.Server.Order
import NetworkAdapter.System.Pipeline

/-!
# What both sides of a connection agree on

The pipes hold the messages that were written and not read, the connections the server
serves are ones its clients opened, and a client reads from one it opened. Every event
keeps this, connections that go down included.
-/

namespace NetworkAdapter.Pipeline

open ClientConnectServer (Ordered EntriesOwned)

/-- Every message sent is one the library sends undamaged. -/
def Trusted (json : JsonText) (pipeline : Pipeline) : Prop :=
  ∀ message ∈ pipeline.sent, json.Whole message

/-- The streams hold what was sent, and both sides agree on the connections. -/
structure Connected (json : JsonText) (pipeline : Pipeline) : Prop where
  down : ∀ clientIp connection, Pipe.Flows json (pipeline.toClient clientIp connection)
  up : ∀ clientIp connection, Pipe.Flows json (pipeline.toServer clientIp connection)
  downSent : ∀ clientIp connection, (pipeline.toClient clientIp connection).unread ⊆ pipeline.sent
  upSent : ∀ clientIp connection, (pipeline.toServer clientIp connection).unread ⊆ pipeline.sent
  peers : pipeline.server.peers = pipeline.accepted.map Prod.fst
  distinct : pipeline.accepted.Nodup
  ordered : Ordered pipeline.server
  owned : EntriesOwned pipeline.server
  opened : ∀ clientIp connection, (clientIp, connection) ∈ pipeline.accepted →
    connection < (pipeline.clients clientIp).connections
  reader : ∀ clientIp connection, (pipeline.clients clientIp).reader = some connection →
    connection < (pipeline.clients clientIp).connections
  unopened : ∀ clientIp connection, (pipeline.clients clientIp).connections ≤ connection →
    (pipeline.toClient clientIp connection).unread = []

variable {json : JsonText} {pipeline : Pipeline}

@[simp] theorem changeAt_self (clientIp : String) (connection : Nat) (change : Pipe → Pipe)
    (pipes : String → Nat → Pipe) :
    changeAt clientIp connection change pipes clientIp connection =
      change (pipes clientIp connection) := by
  simp [changeAt]

/-- What holds of every pipe holds of the pipes with one of them changed. -/
theorem changeAt_forall (holds : Pipe → Prop) {clientIp : String} {connection : Nat}
    {change : Pipe → Pipe} {pipes : String → Nat → Pipe}
    (changed : holds (change (pipes clientIp connection)))
    (others : ∀ client number, holds (pipes client number)) (client : String) (number : Nat) :
    holds (changeAt clientIp connection change pipes client number) := by
  unfold changeAt
  split
  · next same =>
      obtain ⟨rfl, rfl⟩ := same
      exact changed
  · exact others client number

/-- The lines of a client change what is under way to the server, and nothing else. -/
theorem carriesUp (clientIp : String) (lines : List SentLine) (pipeline : Pipeline) :
    let after := lines.foldl (carryToServer json clientIp) pipeline
    after = { pipeline with toServer := after.toServer, sent := after.sent } := by
  induction lines generalizing pipeline with
  | nil => rfl
  | cons line rest inductionHypothesis =>
      have later := inductionHypothesis (carryToServer json clientIp pipeline line)
      simp only [List.foldl_cons] at later ⊢
      rw [later]
      rfl

section

variable (clientIp : String) (event : Client.Event) (pipeline : Pipeline)

theorem clientStep_eq :
    clientStep json clientIp event pipeline =
      { pipeline with
        clients := Function.update pipeline.clients clientIp
          (Client.step json.codec (pipeline.clients clientIp) event)
        toServer := (clientStep json clientIp event pipeline).toServer
        sent := (clientStep json clientIp event pipeline).sent } :=
  carriesUp clientIp _ _

@[simp] theorem clientStep_server :
    (clientStep json clientIp event pipeline).server = pipeline.server := by
  rw [clientStep_eq]

@[simp] theorem clientStep_clients :
    (clientStep json clientIp event pipeline).clients =
      Function.update pipeline.clients clientIp
        (Client.step json.codec (pipeline.clients clientIp) event) := by
  rw [clientStep_eq]

@[simp] theorem clientStep_toClient :
    (clientStep json clientIp event pipeline).toClient = pipeline.toClient := by
  rw [clientStep_eq]

@[simp] theorem clientStep_accepted :
    (clientStep json clientIp event pipeline).accepted = pipeline.accepted := by
  rw [clientStep_eq]

@[simp] theorem clientStep_executed :
    (clientStep json clientIp event pipeline).executed = pipeline.executed := by
  rw [clientStep_eq]

@[simp] theorem clientStep_returned :
    (clientStep json clientIp event pipeline).returned = pipeline.returned := by
  rw [clientStep_eq]

end

/-- The lines of the server change what is under way to the clients, and nothing else. -/
theorem carriesDown (lines : List Written) (pipeline : Pipeline) :
    let after := lines.foldl (carryToClient json) pipeline
    after = { pipeline with toClient := after.toClient, sent := after.sent } := by
  induction lines generalizing pipeline with
  | nil => rfl
  | cons line rest inductionHypothesis =>
      have later := inductionHypothesis (carryToClient json pipeline line)
      simp only [List.foldl_cons] at later ⊢
      rw [later]
      unfold carryToClient
      split <;> rfl

section

variable (event : ClientConnectServer.Event) (pipeline : Pipeline)

theorem serverStep_eq :
    serverStep json event pipeline =
      { pipeline with
        server := ClientConnectServer.step json.codec pipeline.server event
        toClient := (serverStep json event pipeline).toClient
        sent := (serverStep json event pipeline).sent } :=
  carriesDown _ _

@[simp] theorem serverStep_server :
    (serverStep json event pipeline).server =
      ClientConnectServer.step json.codec pipeline.server event := by
  rw [serverStep_eq]

@[simp] theorem serverStep_clients :
    (serverStep json event pipeline).clients = pipeline.clients := by
  rw [serverStep_eq]

@[simp] theorem serverStep_toServer :
    (serverStep json event pipeline).toServer = pipeline.toServer := by
  rw [serverStep_eq]

@[simp] theorem serverStep_accepted :
    (serverStep json event pipeline).accepted = pipeline.accepted := by
  rw [serverStep_eq]

@[simp] theorem serverStep_executed :
    (serverStep json event pipeline).executed = pipeline.executed := by
  rw [serverStep_eq]

end

/-- An event of the server that writes nothing. -/
theorem serverStep_silent {event : ClientConnectServer.Event}
    (silent : (ClientConnectServer.step json.codec pipeline.server event).wire =
      pipeline.server.wire) :
    serverStep json event pipeline =
      { pipeline with server := ClientConnectServer.step json.codec pipeline.server event } := by
  simp [serverStep, silent]

/-- Only a new connection brings a new peer. -/
theorem server_peers (codec : TextCodec) (server : ClientConnectServer)
    (event : ClientConnectServer.Event)
    (noOpening : ∀ clientIp clientPort now, event ≠ .connectionOpened clientIp clientPort now) :
    (ClientConnectServer.step codec server event).peers = server.peers := by
  by_cases read : ∃ connection read now writes, event = .lineRead connection read now writes
  · obtain ⟨connection, read, now, writes, rfl⟩ := read
    simp only [ClientConnectServer.step]
    split
    · next handler found =>
        have done := ClientConnectServer.readConnection_done codec handler read now writes server
        generalize ClientConnectServer.readConnection codec handler read now writes server = after
          at done
        obtain ⟨clients, equation, _⟩ := ClientConnectServer.endHandler_eq handler server
        cases done with
        | malformed => rw [equation]
        | unregistered => rw [equation]
        | taskResult => cases writes <;> rfl
        | _ => rfl
    · rfl
  · push Not at read
    exact (ClientConnectServer.step_sameClients codec server event noOpening read).peers

/-- Only a dequeue writes. -/
theorem server_wire (codec : TextCodec) (server : ClientConnectServer)
    {event : ClientConnectServer.Event} (noDequeue : ∀ now writes, event ≠ .taskTaken now writes) :
    (ClientConnectServer.step codec server event).wire = server.wire := by
  cases event with
  | createTask taskData taskId writes =>
      simp only [ClientConnectServer.step, ClientConnectServer.createTask_leaves,
        ClientConnectServer.recorded]
      split <;> split <;> rfl
  | taskTaken now writes => exact absurd rfl (noDequeue now writes)
  | drainDone drained =>
      simp only [ClientConnectServer.step]
      split
      · rw [ClientConnectServer.finishDrain_leaves]
        cases drained <;> rfl
      · rfl
  | _ =>
      exact (ClientConnectServer.step_sameTasks codec server _ (by simp) (by simp) (by simp)).wire

theorem write_unread (message : Json) (line : List UInt8) (pipe : Pipe) :
    (pipe.write message line).unread ⊆ pipe.unread ++ [message] := by
  unfold Pipe.write
  split
  · exact List.Subset.refl _
  · exact List.subset_append_left _ _

/-- Every line of a client goes out whole and is recorded. -/
theorem carriesUp_flows (clientIp : String) (lines : List SentLine) {pipeline : Pipeline}
    (flows : ∀ client number, Pipe.Flows json (pipeline.toServer client number))
    (sent : ∀ client number, (pipeline.toServer client number).unread ⊆ pipeline.sent) :
    let after := lines.foldl (carryToServer json clientIp) pipeline
    (∀ client number, Pipe.Flows json (after.toServer client number)) ∧
      (∀ client number, (after.toServer client number).unread ⊆ after.sent) ∧
        pipeline.sent ⊆ after.sent := by
  induction lines generalizing pipeline with
  | nil => exact ⟨flows, sent, List.Subset.refl _⟩
  | cons line rest inductionHypothesis =>
      let next := carryToServer json clientIp pipeline line
      have written : ∀ client number, Pipe.Flows json (next.toServer client number) :=
        changeAt_forall _ ((flows _ _).write line.content.message) flows
      have grows : pipeline.sent ⊆ next.sent := List.subset_append_left _ _
      have recorded : ∀ client number, (next.toServer client number).unread ⊆ next.sent := by
        refine changeAt_forall (fun pipe => pipe.unread ⊆ next.sent) ?_
          fun client number => List.Subset.trans (sent client number) grows
        exact List.Subset.trans (write_unread _ _ _) (List.append_subset.mpr
          ⟨List.Subset.trans (sent _ _) grows, List.subset_append_right _ _⟩)
      obtain ⟨later, kept, more⟩ := inductionHypothesis written recorded
      exact ⟨later, kept, List.Subset.trans grows more⟩

namespace Connected

/-- The pipes of a direction may change where nothing new comes into them. -/
theorem changeToClient (connected : Connected json pipeline) (clientIp : String) (connection : Nat)
    (change : Pipe → Pipe)
    (flows : Pipe.Flows json (change (pipeline.toClient clientIp connection)))
    (fewer : (change (pipeline.toClient clientIp connection)).unread ⊆
      (pipeline.toClient clientIp connection).unread) :
    Connected json
      { pipeline with toClient := changeAt clientIp connection change pipeline.toClient } :=
  { connected with
    down := changeAt_forall _ flows connected.down
    downSent := changeAt_forall (fun pipe => pipe.unread ⊆ pipeline.sent)
      (List.Subset.trans fewer (connected.downSent _ _)) connected.downSent
    unopened := by
      intro client number beyond
      have none := connected.unopened client number beyond
      simp only [changeAt]
      split
      · next same =>
          obtain ⟨rfl, rfl⟩ := same
          rw [none] at fewer
          exact List.subset_nil.mp fewer
      · exact none }

theorem changeToServer (connected : Connected json pipeline) (clientIp : String) (connection : Nat)
    (change : Pipe → Pipe)
    (flows : Pipe.Flows json (change (pipeline.toServer clientIp connection)))
    (fewer : (change (pipeline.toServer clientIp connection)).unread ⊆
      (pipeline.toServer clientIp connection).unread) :
    Connected json
      { pipeline with toServer := changeAt clientIp connection change pipeline.toServer } :=
  { connected with
    up := changeAt_forall _ flows connected.up
    upSent := changeAt_forall (fun pipe => pipe.unread ⊆ pipeline.sent)
      (List.Subset.trans fewer (connected.upSent _ _)) connected.upSent }

/-- An event of the server that writes nothing and opens nothing. -/
theorem serverStep (connected : Connected json pipeline) (event : ClientConnectServer.Event)
    (noDequeue : ∀ now writes, event ≠ .taskTaken now writes)
    (noOpening : ∀ clientIp clientPort now, event ≠ .connectionOpened clientIp clientPort now) :
    Connected json (serverStep json event pipeline) := by
  rw [serverStep_silent (server_wire json.codec pipeline.server noDequeue)]
  exact { connected with
    peers := (server_peers json.codec pipeline.server event noOpening).trans connected.peers
    ordered := ClientConnectServer.step_ordered json.codec _ event connected.ordered connected.owned
    owned := ClientConnectServer.step_entriesOwned json.codec _ event connected.owned }

/-- An event of a client, which stays with its connection or opens a new one. -/
theorem clientStep (connected : Connected json pipeline) {clientIp : String} {event : Client.Event}
    {stepped : Client}
    (steps : Client.step json.codec (pipeline.clients clientIp) event = stepped)
    (passes : stepped.reader = (pipeline.clients clientIp).reader ∧
        stepped.connections = (pipeline.clients clientIp).connections ∨
      stepped.reader = some (pipeline.clients clientIp).connections ∧
        stepped.connections = (pipeline.clients clientIp).connections + 1) :
    Connected json (clientStep json clientIp event pipeline) := by
  obtain ⟨up, upSent, grows⟩ :
      (∀ client number, Pipe.Flows json
        ((Pipeline.clientStep json clientIp event pipeline).toServer client number)) ∧
      (∀ client number, ((Pipeline.clientStep json clientIp event pipeline).toServer client
        number).unread ⊆ (Pipeline.clientStep json clientIp event pipeline).sent) ∧
      pipeline.sent ⊆ (Pipeline.clientStep json clientIp event pipeline).sent :=
    carriesUp_flows clientIp _ connected.up connected.upSent
  -- Connections only get more.
  have more (client : String) : (pipeline.clients client).connections ≤
      (Function.update pipeline.clients clientIp stepped client).connections := by
    by_cases same : client = clientIp
    · subst same
      rw [Function.update_self]
      rcases passes with ⟨_, same⟩ | ⟨_, one⟩ <;> omega
    · rw [Function.update_of_ne same]
  refine ⟨?_, up, ?_, upSent, ?_, ?_, ?_, ?_, ?_, ?_, ?_⟩
  · rw [clientStep_toClient]
    exact connected.down
  · intro client number
    rw [clientStep_toClient]
    exact List.Subset.trans (connected.downSent client number) grows
  · rw [clientStep_server, clientStep_accepted]
    exact connected.peers
  · rw [clientStep_accepted]
    exact connected.distinct
  · rw [clientStep_server]
    exact connected.ordered
  · rw [clientStep_server]
    exact connected.owned
  · intro client number member
    rw [clientStep_accepted] at member
    rw [clientStep_clients, steps]
    exact Nat.lt_of_lt_of_le (connected.opened client number member) (more client)
  · intro client number reader
    rw [clientStep_clients, steps] at reader ⊢
    by_cases same : client = clientIp
    · subst same
      rw [Function.update_self] at reader ⊢
      rcases passes with ⟨same, still⟩ | ⟨new, one⟩
      · rw [still]
        exact connected.reader client number (same ▸ reader)
      · cases new.symm.trans reader
        omega
    · rw [Function.update_of_ne same] at reader ⊢
      exact connected.reader client number reader
  · intro client number beyond
    rw [clientStep_clients, steps] at beyond
    rw [clientStep_toClient]
    exact connected.unopened client number (Nat.le_trans (more client) beyond)

/-- A line of the server goes into the pipe of its connection. -/
theorem carryToClient (connected : Connected json pipeline) (line : Written) :
    Connected json (carryToClient json pipeline line) := by
  unfold Pipeline.carryToClient
  split
  · next clientIp connection accepted =>
      have grows : pipeline.sent ⊆ pipeline.sent ++ [line.task.message] :=
        List.subset_append_left _ _
      refine { connected with down := ?_, downSent := ?_, upSent := ?_, unopened := ?_ }
      · exact changeAt_forall _ ((connected.down _ _).write line.task.message) connected.down
      · refine changeAt_forall (fun pipe => pipe.unread ⊆ _) ?_
          fun client number => List.Subset.trans (connected.downSent client number) grows
        exact List.Subset.trans (write_unread _ _ _) (List.append_subset.mpr
          ⟨List.Subset.trans (connected.downSent _ _) grows, List.subset_append_right _ _⟩)
      · exact fun client number => List.Subset.trans (connected.upSent client number) grows
      · intro client number beyond
        have open' := connected.opened clientIp connection (List.mem_of_getElem? accepted)
        have other : ¬ (client = clientIp ∧ number = connection) := by
          rintro ⟨rfl, rfl⟩
          exact Nat.lt_irrefl _ (Nat.lt_of_lt_of_le open' beyond)
        simp only [changeAt, if_neg other]
        exact connected.unopened client number beyond
  · exact connected

/-- The next connection is accepted. -/
theorem accept (connected : Connected json pipeline) {clientIp : String} {connection : Nat}
    (opened : connection < (pipeline.clients clientIp).connections)
    (fresh : (clientIp, connection) ∉ pipeline.accepted) (clientPort now : Nat) :
    Connected json
      { Pipeline.serverStep json (.connectionOpened clientIp clientPort now) pipeline with
        accepted := pipeline.accepted ++ [(clientIp, connection)] } := by
  have ordered := ClientConnectServer.step_ordered json.codec _
    (.connectionOpened clientIp clientPort now) connected.ordered connected.owned
  have owned := ClientConnectServer.step_entriesOwned json.codec _
    (.connectionOpened clientIp clientPort now) connected.owned
  rw [serverStep_silent (server_wire json.codec pipeline.server (by simp))]
  refine { connected with
    peers := ?_, distinct := ?_, ordered := ordered, owned := owned, opened := ?_ }
  · simp [ClientConnectServer.step, ClientConnectServer.openConnection, connected.peers]
  · exact List.nodup_append.mpr ⟨connected.distinct, List.nodup_singleton _, by
      rintro _ earlier _ new rfl
      exact fresh (List.mem_singleton.mp new ▸ earlier)⟩
  · intro client number member
    rcases List.mem_append.mp member with earlier | new
    · exact connected.opened client number earlier
    · cases List.mem_singleton.mp new
      exact opened

end Connected

/-- What `distribute_tasks` does next: nothing, or it takes the first task and writes it to its
client, or to nobody. -/
inductive Distributed (json : JsonText) (pipeline : Pipeline) : Pipeline → Prop where
  | resting : Distributed json pipeline pipeline
  | sent {task : QueuedTask} {rest : List QueuedTask} {clientIp : String} {info : ClientInfo}
      {server : ClientConnectServer} (queue : pipeline.server.taskQueue = task :: rest)
      (forHost : task.forSwitch = false) (addressed : task.clientIp? = some clientIp)
      (found : pipeline.server.connectedClients.get? clientIp = some info)
      (left : server.taskQueue = rest) (enqueued : server.enqueued = pipeline.server.enqueued) :
      Distributed json pipeline
        (carryToClient json { pipeline with server := server } ⟨info.writer, task, false⟩)
  | withheld {task : QueuedTask} {rest : List QueuedTask} {server : ClientConnectServer}
      (queue : pipeline.server.taskQueue = task :: rest)
      (unsent : ∀ clientIp info, task.forSwitch = false → task.clientIp? = some clientIp →
        pipeline.server.connectedClients.get? clientIp = some info →
          info.writer ∈ pipeline.server.closing)
      (left : server.taskQueue = rest) (enqueued : server.enqueued = pipeline.server.enqueued) :
      Distributed json pipeline { pipeline with server := server }

theorem serverStep_distributed (connected : Connected json pipeline) (now : Nat) (writes : Bool) :
    Distributed json pipeline (serverStep json (.taskTaken now writes) pipeline) ∧
      Connected json (serverStep json (.taskTaken now writes) pipeline) := by
  have ordered := ClientConnectServer.step_ordered json.codec _ (.taskTaken now writes)
    connected.ordered connected.owned
  have owned := ClientConnectServer.step_entriesOwned json.codec _ (.taskTaken now writes)
    connected.owned
  have peers := (server_peers json.codec pipeline.server (.taskTaken now writes)
    (by simp)).trans connected.peers
  have after : Connected json { pipeline with
      server := ClientConnectServer.step json.codec pipeline.server (.taskTaken now writes) } :=
    { connected with peers := peers, ordered := ordered, owned := owned }
  clear ordered owned peers
  simp only [serverStep]
  generalize steps : ClientConnectServer.step json.codec pipeline.server (.taskTaken now writes) =
    server at after ⊢
  simp only [ClientConnectServer.step] at steps
  split at steps
  · next task rest waiting queue =>
      have taken := ClientConnectServer.takeTask_taken task now writes
        { pipeline.server with taskQueue := rest }
      have silent : ∀ entries : List Written,
          entries = pipeline.server.wire → entries.drop pipeline.server.wire.length = [] := by
        rintro _ rfl
        simp
      rw [steps] at taken
      cases taken with
      | switch forSwitch =>
          rw [silent _ rfl]
          refine ⟨.withheld queue (fun clientIp info forHost => ?_) rfl rfl, after⟩
          simp [forSwitch] at forHost
      | unusable forHost noText =>
          rw [silent _ rfl]
          refine ⟨.withheld queue (fun clientIp info _ addressed => ?_) rfl rfl, after⟩
          simp [noText] at addressed
      | skipped forHost addressed found shut =>
          rw [silent _ rfl]
          refine ⟨.withheld queue (fun clientIp info _ addressed' found' => ?_) rfl rfl, after⟩
          cases addressed.symm.trans addressed'
          cases found.symm.trans found'
          exact shut
      | sent forHost addressed found alive =>
          have written : ∀ entry : Written,
              (pipeline.server.wire ++ [entry]).drop pipeline.server.wire.length = [entry] := by
            simp
          simp only [ClientConnectServer.handedOver, written, List.foldl_cons,
            List.foldl_nil] at after ⊢
          exact ⟨.sent queue forHost addressed found rfl rfl, after.carryToClient _⟩
      | @absent missed forHost addressed missing =>
          have kept := ClientConnectServer.stored_sameTasks writes now
            (ClientConnectServer.undeliverable task.data missed) (.str task.taskId)
            { pipeline.server with taskQueue := rest }
          rw [silent _ kept.wire]
          refine ⟨.withheld queue (fun clientIp info _ addressed' found => ?_) kept.taskQueue
            kept.enqueued, after⟩
          cases addressed.symm.trans addressed'
          cases missing.symm.trans found
  · subst steps
    exact ⟨by simpa using Distributed.resting, by simpa using after⟩

end NetworkAdapter.Pipeline
