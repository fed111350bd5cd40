import NetworkAdapter.System.AtMostOnce
import NetworkAdapter.System.Calm

/-!
# A calm run keeps a client served

Other clients may come and go, send what they like and lose their connections. As long as
the connection of one client holds, the server writes down what it reads from it and all of
its tasks name an action, the client stays served.
-/

namespace NetworkAdapter

namespace ClientConnectServer

/-- Only the loss of a transport closes one. -/
theorem step_closing (codec : TextCodec) (server : ClientConnectServer) {event : Event}
    (noLoss : ∀ connection, event ≠ .transportClosing connection)
    (noRead : ∀ connection read now writes, event ≠ .lineRead connection read now writes) :
    (step codec server event).closing = server.closing := by
  cases event with
  | createTask taskData taskId writes =>
      simp only [step, createTask_leaves, recorded]
      split <;> split <;> rfl
  | connectionOpened => rfl
  | lineRead connection read now writes => exact absurd rfl (noRead connection read now writes)
  | transportClosing connection => exact absurd rfl (noLoss connection)
  | taskTaken now writes =>
      simp only [step]
      split
      · next task rest _ _ =>
          have taken := takeTask_taken task now writes { server with taskQueue := rest }
          generalize takeTask task now writes { server with taskQueue := rest } = after at taken
          cases taken with
          | absent => cases writes <;> rfl
          | _ => rfl
      · rfl
  | drainDone drained =>
      simp only [step]
      split
      · rw [finishDrain_leaves]
        cases drained <;> rfl
      · rfl

theorem messageOf_report (object : JsonObject) (now : Nat) :
    messageOf [("type", .str "task_result"), ("data", .obj object), ("timestamp", .number now)] =
      (Fields.get? object "task_id").map (.taskResult object) := by
  simp [messageOf, JsonObject.get, Fields.get?, Json.equals]

theorem messageOf_heartbeat (now : Nat) :
    messageOf [("type", .str "heartbeat"), ("timestamp", .number now)] = some .heartbeat := by
  simp [messageOf, JsonObject.get, Fields.get?, Json.equals]

/-- What is read is what was sent. -/
theorem received_of_loads {codec : TextCodec} {read : Readline} {fields : JsonObject}
    (loads : read.result.bind codec.parse = .ok (.obj fields)) :
    received codec read = messageOf fields := by
  rw [received, loads]

/-- A read of any connection, a well-formed one if it is the client's own. -/
theorem Attends.step_lineRead {clientIp : String} {number : Nat} {server : ClientConnectServer}
    (attends : Attends clientIp number server) (codec : TextCodec) {which : Nat} {read : Readline}
    (delivers : which = number → (received codec read).isSome) (now : Nat) (writes : Bool) :
    Attends clientIp number (step codec server (.lineRead which read now writes)) := by
  simp only [step]
  split
  · next handler found =>
      have member := List.mem_of_find?_eq_some found
      have reads : handler.connection = which := by simpa using List.find?_some found
      by_cases same : which = number
      · obtain ⟨own, handles, whose⟩ := attends.handled
        rw [same, handles] at found
        cases found
        exact attends.readOwn whose (delivers same) now writes
      · exact attends.readOther member (fun own => same (reads ▸ own)) codec read now writes
  · exact attends

end ClientConnectServer

/-- There is a report of every task that is an object. -/
theorem Execution.report_of_object (execution : Execution) {fields : JsonObject}
    (own : execution.task = .obj fields) : ∃ data, execution.report = some data := by
  rw [Execution.report, own]
  cases execution.outcome with
  | ok processed => exact ⟨processed, rfl⟩
  | error text => exact ⟨_, rfl⟩

/-- The report of an execution carries the id of its task. -/
theorem Execution.reports_own {execution : Execution} {fields : JsonObject}
    (genuine : execution.Genuine)
    (own : execution.task = .obj fields) (names : NamesAction fields) :
    ∃ object, execution.report = some (.obj object) ∧
      Fields.get? object "task_id" = Fields.get? fields "task_id" := by
  obtain ⟨controller, genuine⟩ := genuine
  have outcome : execution.outcome = controller.outcome execution.platform execution.task :=
    congrArg Execution.outcome genuine
  obtain ⟨data, reports⟩ := execution.report_of_object own
  have same := reports
  rw [Execution.report, outcome, own] at same
  rcases TaskController.report_of_outcome same with ⟨_, unnamed⟩ | ⟨object, rfl, sameId⟩
  · exact absurd names unnamed
  · exact ⟨object, reports, sameId⟩

namespace Pipeline

/-- Every host task created for the client names an action. -/
def Actionable (clientIp : String) (pipeline : Pipeline) : Prop :=
  ∀ task ∈ pipeline.server.enqueued, task.forSwitch = false → task.clientIp? = some clientIp →
    NamesAction task.data

/-- The client has one open connection, registered under its number and read by the server. -/
structure Served (clientIp : String) (connection number : Nat) (pipeline : Pipeline) : Prop where
  attending : Client.Attending connection (pipeline.clients clientIp)
  accepted : pipeline.accepted[number]? = some (clientIp, connection)
  attends : ClientConnectServer.Attends clientIp number pipeline.server
  down : (pipeline.toClient clientIp connection).ending = none
  up : (pipeline.toServer clientIp connection).ending = none

/-- The connection holds, no drain over it fails, the server opens no other one of the client
and writes down what it reads from this one. -/
def Calm (clientIp : String) (connection number : Nat) (pipeline : Pipeline) : Event → Prop
  | .drained (.error _) =>
      ∀ task, pipeline.server.distributor = .draining task → task.clientIp? ≠ some clientIp
  | .accepted other _ _ _ => other ≠ clientIp
  | .serverRead which _ writes => which = number → writes = true
  | .serverClosing which => which ≠ number
  | .client other event => other = clientIp → Client.Undisturbed connection event
  | .cutToClient other which _ => ¬ (clientIp = other ∧ connection = which)
  | .cutToServer other which _ => ¬ (clientIp = other ∧ connection = which)
  | _ => True

variable {json : JsonText} {pipeline : Pipeline} {clientIp : String} {connection number : Nat}

@[simp] theorem write_ending (message : Json) (line : List UInt8) (pipe : Pipe) :
    (pipe.write message line).ending = pipe.ending := by
  unfold Pipe.write
  split <;> rfl

theorem next_ending {pipe rest : Pipe} {read : Readline} (next : pipe.next = some (read, rest)) :
    rest.ending = pipe.ending := by
  unfold Pipe.next at next
  split at next
  · cases next
    rfl
  · split at next
    · cases next
      rfl
    · split at next
      · cases next
        rfl
      · cases next

/-- Changing another pipe. -/
theorem changeAt_other {other : String} {which : Nat}
    (apart : ¬ (clientIp = other ∧ connection = which)) (change : Pipe → Pipe)
    (pipes : String → Nat → Pipe) :
    changeAt other which change pipes clientIp connection = pipes clientIp connection := by
  simp [changeAt, apart]

/-- Lines end no pipe. -/
theorem carryToClient_ending (lines : List Written) (pipeline : Pipeline) :
    ((lines.foldl (carryToClient json) pipeline).toClient clientIp connection).ending =
      (pipeline.toClient clientIp connection).ending := by
  induction lines generalizing pipeline with
  | nil => rfl
  | cons line rest inductionHypothesis =>
      rw [List.foldl_cons, inductionHypothesis]
      unfold carryToClient
      split
      · simp only [changeAt]
        split
        · exact write_ending _ _ _
        · rfl
      · rfl

theorem carryToServer_ending (sender : String) (lines : List SentLine) (pipeline : Pipeline) :
    ((lines.foldl (carryToServer json sender) pipeline).toServer clientIp connection).ending =
      (pipeline.toServer clientIp connection).ending := by
  induction lines generalizing pipeline with
  | nil => rfl
  | cons line rest inductionHypothesis =>
      rw [List.foldl_cons, inductionHypothesis]
      simp only [carryToServer, changeAt]
      split
      · exact write_ending _ _ _
      · rfl

/-- The lines of another client go elsewhere. -/
theorem carryToServer_other {sender : String} (apart : clientIp ≠ sender) (lines : List SentLine)
    (pipeline : Pipeline) :
    (lines.foldl (carryToServer json sender) pipeline).toServer clientIp connection =
      pipeline.toServer clientIp connection := by
  induction lines generalizing pipeline with
  | nil => rfl
  | cons line rest inductionHypothesis =>
      rw [List.foldl_cons, inductionHypothesis, carryToServer]
      exact changeAt_other (fun same => apart same.1) _ _

@[simp] theorem serverStep_ending (event : ClientConnectServer.Event) :
    ((serverStep json event pipeline).toClient clientIp connection).ending =
      (pipeline.toClient clientIp connection).ending :=
  carryToClient_ending _ _

@[simp] theorem clientStep_ending (sender : String) (event : Client.Event) :
    ((clientStep json sender event pipeline).toServer clientIp connection).ending =
      (pipeline.toServer clientIp connection).ending :=
  carryToServer_ending _ _ _

/-- What a client executes is a task of the server for it, and is reported under its id. -/
theorem Orderly.reports (orderly : Orderly json pipeline) (reported : Reported pipeline)
    (actionable : Actionable clientIp pipeline) {execution : Execution}
    (member : execution ∈ pipeline.executed) (whose : execution.client = clientIp) :
    ∃ task ∈ pipeline.server.enqueued, execution.task = .obj task.data ∧
      ∃ object, execution.report = some (.obj object) ∧
        Fields.get? object "task_id" = some (.str task.taskId) := by
  obtain ⟨task, enqueued, data, forHost, addressed⟩ := orderly.atMostOnce.own execution member
  have names := actionable task enqueued forHost (whose ▸ addressed)
  obtain ⟨object, reports, sameId⟩ :=
    Execution.reports_own (reported.genuine execution member) data names
  exact ⟨task, enqueued, data, object, reports, sameId.trans task.identified⟩

/-- A task a client is at is an object. -/
theorem Orderly.inHand (orderly : Orderly json pipeline) {task : Json}
    (stands : (pipeline.clients clientIp).inHand = some task) : ∃ fields, task = .obj fields := by
  have has : task ∈ pipeline.custody.has clientIp := by
    have working : pipeline.custody.working clientIp = some task := stands
    simp [Custody.has, working]
  obtain ⟨created, _⟩ := orderly.2.own clientIp task has
  obtain ⟨queued, _, same⟩ := List.mem_map.mp created
  exact ⟨queued.data, same.symm⟩

/-- The server can read every message of the client. -/
theorem Orderly.readable (orderly : Orderly json pipeline) (reported : Reported pipeline)
    (actionable : Actionable clientIp pipeline) {message : Json}
    (underway : message ∈ (pipeline.toServer clientIp connection).unread) :
    ∃ fields, message = .obj fields ∧ (ClientConnectServer.messageOf fields).isSome := by
  rcases reported.underway clientIp connection message underway with
    ⟨now, rfl⟩ | ⟨execution, member, whose, data, now, reports, rfl⟩
  · exact ⟨_, rfl, by rw [ClientConnectServer.messageOf_heartbeat]; rfl⟩
  · obtain ⟨task, _, _, object, same, named⟩ :=
      orderly.reports reported actionable member whose
    cases reports.symm.trans same
    exact ⟨_, rfl, by rw [ClientConnectServer.messageOf_report, named]; rfl⟩

/-- From a live connection the message that has waited longest is read. -/
theorem reads_of_live {pipe rest : Pipe} (flows : Pipe.Flows json pipe)
    (trusted : Trusted json pipeline) (sent : pipe.unread ⊆ pipeline.sent)
    (rejects : json.RejectsEmpty) (live : pipe.ending = none) {read : Readline}
    (next : pipe.next = some (read, rest)) :
    ∃ message, pipe.unread = message :: rest.unread ∧
      read.result.bind json.codec.parse = .ok message := by
  have whole : ∀ message ∈ pipe.unread, json.Whole message :=
    fun message member => trusted message (sent member)
  cases (flows.next whole rejects next).2 with
  | message waiting loads => exact ⟨_, waiting, loads⟩
  | nothing _ _ _ ended => exact absurd live ended

namespace Served

/-- An event of the server that keeps the entry of the client. -/
theorem serverStep (served : Served clientIp connection number pipeline)
    {event : ClientConnectServer.Event}
    (attends : ClientConnectServer.Attends clientIp number
      (ClientConnectServer.step json.codec pipeline.server event)) :
    Served clientIp connection number (serverStep json event pipeline) :=
  ⟨by simpa using served.attending, by simpa using served.accepted, by simpa using attends,
    by simpa using served.down, by simpa using served.up⟩

/-- An event of the server that opens and reads no connection. -/
theorem serverStep_same (served : Served clientIp connection number pipeline)
    {event : ClientConnectServer.Event}
    (noOpening : ∀ clientIp clientPort now, event ≠ .connectionOpened clientIp clientPort now)
    (noRead : ∀ connection read now writes, event ≠ .lineRead connection read now writes)
    (noLoss : ∀ connection, event ≠ .transportClosing connection) :
    Served clientIp connection number (Pipeline.serverStep json event pipeline) :=
  served.serverStep (served.attends.of_same
    (ClientConnectServer.step_sameClients json.codec pipeline.server event noOpening noRead)
    (ClientConnectServer.step_closing json.codec pipeline.server noLoss noRead))

/-- An event of a client that leaves the coroutines of the served one in their loops. -/
theorem clientStep (served : Served clientIp connection number pipeline) {sender : String}
    {event : Client.Event} (attending : sender = clientIp →
      Client.Attending connection (Client.step json.codec (pipeline.clients clientIp) event)) :
    Served clientIp connection number (clientStep json sender event pipeline) := by
  refine ⟨?_, by simpa using served.accepted, by simpa using served.attends,
    by simpa using served.down, by simpa using served.up⟩
  rw [clientStep_clients]
  by_cases same : sender = clientIp
  · subst same
    rw [Function.update_self]
    exact attending rfl
  · rw [Function.update_of_ne (Ne.symm same)]
    exact served.attending

/-- A pipe that is not cut. -/
theorem changeToClient (served : Served clientIp connection number pipeline) (other : String)
    (which : Nat) (change : Pipe → Pipe)
    (live : clientIp = other ∧ connection = which →
      (change (pipeline.toClient clientIp connection)).ending = none) :
    Served clientIp connection number
      { pipeline with toClient := changeAt other which change pipeline.toClient } := by
  refine { served with down := ?_ }
  simp only [changeAt]
  split
  · next same => exact live same
  · exact served.down

theorem changeToServer (served : Served clientIp connection number pipeline) (other : String)
    (which : Nat) (change : Pipe → Pipe)
    (live : clientIp = other ∧ connection = which →
      (change (pipeline.toServer clientIp connection)).ending = none) :
    Served clientIp connection number
      { pipeline with toServer := changeAt other which change pipeline.toServer } := by
  refine { served with up := ?_ }
  simp only [changeAt]
  split
  · next same => exact live same
  · exact served.up

/-- The client reads from the connection the server writes its tasks to. -/
theorem linked (served : Served clientIp connection number pipeline) :
    Linked clientIp connection pipeline := by
  obtain ⟨info, found, writer⟩ := served.attends.registered
  exact ⟨served.attending.reader, served.down, info, found, writer ▸ served.attends.alive,
    writer ▸ served.accepted⟩

/-- A calm event keeps the client served. -/
theorem step (served : Served clientIp connection number pipeline)
    (orderly : Orderly json pipeline) (reported : Reported pipeline)
    (trusted : Trusted json pipeline) (rejects : json.RejectsEmpty)
    (actionable : Actionable clientIp pipeline) {event : Event}
    (calm : Calm clientIp connection number pipeline event) :
    Served clientIp connection number (step json pipeline event) := by
  cases event with
  | created => exact served.serverStep_same (by simp) (by simp) (by simp)
  | distributed => exact served.serverStep_same (by simp) (by simp) (by simp)
  | drained result =>
      have after : Served clientIp connection number
          (Pipeline.serverStep json (.drainDone result) pipeline) :=
        served.serverStep_same (by simp) (by simp) (by simp)
      simp only [Pipeline.step]
      split
      · exact { after with }
      · exact after
  | accepted other which clientPort now =>
      simp only [Pipeline.step]
      split
      · have after : Served clientIp connection number
            (Pipeline.serverStep json (.connectionOpened other clientPort now) pipeline) :=
          served.serverStep (served.attends.open calm clientPort now)
        refine { after with accepted := ?_ }
        have bound := (List.getElem?_eq_some_iff.mp served.accepted).1
        rw [List.getElem?_append_left bound]
        exact served.accepted
      · exact served
  | serverRead which now writes =>
      simp only [Pipeline.step]
      split
      · next other otherConnection accepted =>
          split
          · next read rest next =>
              split
              · have moved : Served clientIp connection number { pipeline with
                    toServer := changeAt other otherConnection (fun _ => rest)
                      pipeline.toServer } := by
                  refine served.changeToServer _ _ _ fun same => ?_
                  obtain ⟨rfl, rfl⟩ := same
                  exact (next_ending next).trans served.up
                refine moved.serverStep (served.attends.step_lineRead json.codec ?_ now writes)
                rintro rfl
                cases served.accepted.symm.trans accepted
                obtain ⟨message, waiting, loads⟩ := reads_of_live (orderly.1.up _ _) trusted
                  (orderly.1.upSent _ _) rejects served.up next
                obtain ⟨fields, rfl, readable⟩ := orderly.readable reported actionable
                  (waiting ▸ List.mem_cons_self)
                rw [ClientConnectServer.received_of_loads loads]
                exact readable
              · exact served
          · exact served
      · exact served
  | serverClosing which =>
      refine served.serverStep ?_
      refine { served.attends with alive := ?_ }
      simpa [ClientConnectServer.step] using ⟨Ne.symm calm, served.attends.alive⟩
  | client sender event =>
      simp only [Pipeline.step]
      split
      · exact served
      · exact served
      · next noRead noEnd =>
          refine served.clientStep fun same => ?_
          subst same
          exact (served.attending.step json.codec (calm rfl) noRead noEnd).1
  | clientRead sender =>
      simp only [Pipeline.step]
      split
      · next which reads =>
          split
          · next read rest next =>
              have moved : Served clientIp connection number { pipeline with
                  toClient := changeAt sender which (fun _ => rest) pipeline.toClient } := by
                refine served.changeToClient _ _ _ fun same => ?_
                obtain ⟨rfl, rfl⟩ := same
                exact (next_ending next).trans served.down
              refine moved.clientStep fun same => ?_
              subst same
              obtain rfl : connection = which := by
                simpa [reading, served.attending.gathering, served.attending.receiving,
                  served.attending.reader] using reads
              obtain ⟨message, _, loads⟩ := reads_of_live (orderly.1.down _ _) trusted
                (orderly.1.downSent _ _) rejects served.down next
              show Client.Attending _ (Client.step json.codec (pipeline.clients sender) _)
              rw [Client.step_lineRead json.codec served.attending.gathering
                served.attending.receiving served.attending.reader]
              cases raw : read.result with
              | ok bytes => exact served.attending.receive json.codec bytes
              | error error => simp [raw, Except.bind] at loads
          · exact served
      · exact served
  | executed sender platform now =>
      simp only [Pipeline.step]
      split
      · next task runs =>
          obtain ⟨gathering, stands⟩ := executing_eq_some.mp runs
          have after : Served clientIp connection number (Pipeline.clientStep json sender
              (.executed (TaskController.outcome platform task (pipeline.controllers sender)) now)
              pipeline) := by
            refine served.clientStep fun same => ?_
            subst same
            have inHand : (pipeline.clients sender).inHand = some task := by
              simp [Client.inHand, stands]
            obtain ⟨fields, rfl⟩ := orderly.inHand inHand
            obtain ⟨data, reports⟩ := Execution.report_of_object
              ((pipeline.controllers sender).execution sender platform (.obj fields)) rfl
            rw [Client.step_executed json.codec gathering stands]
            exact served.attending.finishTask reports now
          exact { after with }
      · exact served
  | arrivedAtClient other which count => exact served.changeToClient _ _ _ fun _ => served.down
  | arrivedAtServer other which count => exact served.changeToServer _ _ _ fun _ => served.up
  | cutToClient other which ending => exact served.changeToClient _ _ _ fun same => absurd same calm
  | cutToServer other which ending => exact served.changeToServer _ _ _ fun same => absurd same calm

end Served
end Pipeline
end NetworkAdapter
