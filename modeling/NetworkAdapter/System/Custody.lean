import NetworkAdapter.System.Connected

/-!
# A pipeline hands over tasks

What server, clients and connections do to tasks, seen as custody: the queue of the server,
the task lines a client has not read of the connection it reads from, its own queue, the
task it executes and those it has executed. Every event of the pipeline is one proper move.
-/

namespace NetworkAdapter

/-- The data of a message that is a task. -/
def Json.task? : Json → Option Json
  | .obj fields =>
      if (JsonObject.get fields "type").equals (.str "task") then Fields.get? fields "data"
      else none
  | _ => none

/-- The client a task is to be sent to. -/
def Json.addressee : Json → Option String
  | .obj fields =>
      if (JsonObject.get fields "client_type").equals (.str "switch") then none
      else
        match JsonObject.get fields "client_ip" with
        | .str clientIp => some clientIp
        | _ => none
  | _ => none

theorem QueuedTask.addressee_data (task : QueuedTask) :
    (Json.obj task.data).addressee = if task.forSwitch then none else task.clientIp? := rfl

theorem QueuedTask.task?_message (task : QueuedTask) :
    task.message.task? = some (.obj task.data) := by
  simp [QueuedTask.message, Json.task?, JsonObject.get, Fields.get?, Json.equals]

theorem TextCodec.task?_eq (codec : TextCodec) (raw : List UInt8) :
    codec.task? raw =
      match codec.parse raw with
      | .ok message => message.task?
      | .error _ => none := by
  unfold TextCodec.task? Json.task?
  cases codec.parse raw with
  | error error => rfl
  | ok message => cases message <;> rfl

/-- A message that loads comes into the queue if it is a task. -/
theorem Client.receive_loads {codec : TextCodec} {read : Except PyError (List UInt8)}
    {message : Json} (loads : read.bind codec.parse = .ok message) (client : Client) :
    (Client.receive codec read client).taskQueue =
      client.taskQueue ++ message.task?.toList := by
  cases read with
  | error error => simp [Except.bind] at loads
  | ok raw =>
      have parsed : codec.parse raw = .ok message := loads
      rw [Client.receive_line, TextCodec.task?_eq, parsed]

theorem Client.receive_nothing {codec : TextCodec} {read : Except PyError (List UInt8)}
    {error : PyError} (loads : read.bind codec.parse = .error error) (client : Client) :
    (Client.receive codec read client).taskQueue = client.taskQueue := by
  cases read with
  | error failure => rw [Client.receive_failed]
  | ok raw =>
      have parsed : codec.parse raw = .error error := loads
      simp [Client.receive_line, TextCodec.task?_eq, parsed]

namespace Pipeline

/-- The messages a client has not read of the connection it reads from. -/
def unread (clientIp : String) (pipeline : Pipeline) : List Json :=
  match (pipeline.clients clientIp).reader with
  | some connection => (pipeline.toClient clientIp connection).unread
  | none => []

def custody (pipeline : Pipeline) : Custody String Json where
  created := pipeline.server.enqueued.map fun task => .obj task.data
  returned := pipeline.returned.map fun task => .obj task.data
  queued := pipeline.server.taskQueue.map fun task => .obj task.data
  inbox clientIp := (pipeline.unread clientIp).filterMap Json.task?
  waiting clientIp := (pipeline.clients clientIp).taskQueue
  working clientIp := (pipeline.clients clientIp).inHand
  done := pipeline.executed.map fun execution => (execution.client, execution.task)

variable {json : JsonText} {pipeline : Pipeline}

/-- The client reads from a live connection, which is the one the server writes its tasks to. -/
structure Linked (clientIp : String) (connection : Nat) (pipeline : Pipeline) : Prop where
  reader : (pipeline.clients clientIp).reader = some connection
  live : (pipeline.toClient clientIp connection).ending = none
  registered : ∃ info, pipeline.server.connectedClients.get? clientIp = some info ∧
    info.writer ∉ pipeline.server.closing ∧
      pipeline.accepted[info.writer]? = some (clientIp, connection)

/-- An event makes one proper move. It loses no task of a linked client that goes on reading
from its connection. -/
structure Advances (json : JsonText) (before after : Pipeline) : Prop where
  connected : Connected json after
  moves : ∃ move, Custody.Proper Json.addressee before.custody move ∧
    after.custody = before.custody.step move ∧
      ∀ clientIp connection, Linked clientIp connection before →
        (after.clients clientIp).reader = some connection →
          Custody.Keeps Json.addressee clientIp before.custody move

/-- An event that moves no task. -/
theorem Advances.idle {after : Pipeline} (connected : Connected json after)
    (same : after.custody = pipeline.custody) : Advances json pipeline after :=
  ⟨connected, .idle, trivial, same, fun _ _ _ _ => trivial⟩

/-- The messages unread in the pipe a client reads from. -/
def unreadOf (pipes : String → Nat → Pipe) (clientIp : String) (reader : Option Nat) : List Json :=
  match reader with
  | some connection => (pipes clientIp connection).unread
  | none => []

theorem custody_clientStep (pipeline : Pipeline) {clientIp : String} {event : Client.Event}
    {stepped : Client}
    (steps : Client.step json.codec (pipeline.clients clientIp) event = stepped) :
    (clientStep json clientIp event pipeline).custody =
      { pipeline.custody with
        inbox := Function.update pipeline.custody.inbox clientIp
          ((unreadOf pipeline.toClient clientIp stepped.reader).filterMap Json.task?)
        waiting := Function.update pipeline.custody.waiting clientIp stepped.taskQueue
        working := Function.update pipeline.custody.working clientIp stepped.inHand } := by
  refine Custody.ext ?_ ?_ ?_ ?_ ?_ ?_ ?_
  · simp [custody]
  · simp [custody]
  · simp [custody]
  · funext client
    simp only [custody, unread, clientStep_clients, clientStep_toClient, steps]
    by_cases same : client = clientIp
    · subst same
      simp only [Function.update_self]
      rfl
    · simp [Function.update_of_ne same]
  · funext client
    simp only [custody, clientStep_clients, steps]
    exact Function.apply_update (fun _ => Client.taskQueue) _ _ _ _
  · funext client
    simp only [custody, clientStep_clients, steps]
    exact Function.apply_update (fun _ => Client.inHand) _ _ _ _
  · simp [custody]

/-- Changing a pipe changes the inbox of the client that reads from it. -/
theorem custody_changeAt (clientIp : String) (connection : Nat) (change : Pipe → Pipe)
    (pipeline : Pipeline) :
    ({ pipeline with
        toClient := changeAt clientIp connection change pipeline.toClient } : Pipeline).custody =
      if (pipeline.clients clientIp).reader = some connection then
        { pipeline.custody with
          inbox := Function.update pipeline.custody.inbox clientIp
            ((change (pipeline.toClient clientIp connection)).unread.filterMap Json.task?) }
      else pipeline.custody := by
  split
  · next reads =>
      refine Custody.ext rfl rfl rfl ?_ rfl rfl rfl
      funext client
      by_cases same : client = clientIp
      · subst same
        simp [custody, unread, reads]
      · simp only [custody, unread, Function.update_of_ne same]
        cases (pipeline.clients client).reader <;> simp [changeAt, same]
  · next elsewhere =>
      refine Custody.ext rfl rfl rfl ?_ rfl rfl rfl
      funext client
      simp only [custody, unread]
      cases reads : (pipeline.clients client).reader with
      | none => rfl
      | some number =>
          have other : ¬ (client = clientIp ∧ number = connection) := by
            rintro ⟨rfl, rfl⟩
            exact elsewhere reads
          simp [changeAt, other]

/-- What leaves the unread messages of a pipe alone moves no task. -/
theorem custody_changeAt_same (clientIp : String) (connection : Nat) {change : Pipe → Pipe}
    (same : (change (pipeline.toClient clientIp connection)).unread =
      (pipeline.toClient clientIp connection).unread) :
    ({ pipeline with
        toClient := changeAt clientIp connection change pipeline.toClient } : Pipeline).custody =
      pipeline.custody := by
  rw [custody_changeAt]
  split
  · next reads =>
      refine Custody.ext rfl rfl rfl ?_ rfl rfl rfl
      rw [Function.update_eq_iff, same]
      exact ⟨by simp [custody, unread, reads], fun _ _ => rfl⟩
  · rfl

/-- The inboxes depend on the clients and what is under way to them. -/
theorem inbox_eq {first second : Pipeline} (clients : second.clients = first.clients)
    (toClient : second.toClient = first.toClient) :
    second.custody.inbox = first.custody.inbox := by
  funext clientIp
  simp only [custody, unread, clients, toClient]

/-- A server with the same tasks. -/
theorem custody_server {server : ClientConnectServer}
    (enqueued : server.enqueued = pipeline.server.enqueued)
    (taskQueue : server.taskQueue = pipeline.server.taskQueue) :
    ({ pipeline with server := server } : Pipeline).custody = pipeline.custody :=
  Custody.ext (congrArg (List.map _) enqueued) rfl (congrArg (List.map _) taskQueue) rfl rfl rfl rfl

/-- An event of a client that is no read and neither begins nor ends an execution. -/
theorem client_advances (connected : Connected json pipeline) (clientIp : String)
    {event : Client.Event} (noRead : ∀ read, event ≠ .lineRead read)
    (noEnd : ∀ outcome now, event ≠ .executed outcome now) :
    Advances json pipeline (clientStep json clientIp event pipeline) := by
  by_cases taking : event = .taskTaken
  · subst taking
    generalize steps : Client.step json.codec (pipeline.clients clientIp) .taskTaken = stepped
    have taken := Client.step_taskTaken json.codec (pipeline.clients clientIp)
    rw [steps] at taken
    rcases taken with ⟨task, rest, idle, queue, rfl⟩ | rfl
    · have after := connected.clientStep steps (.inl ⟨rfl, rfl⟩)
      refine ⟨after, .start clientIp, trivial, ?_, fun _ _ _ _ => trivial⟩
      have idle' : pipeline.custody.working clientIp = none := idle
      have queue' : pipeline.custody.waiting clientIp = task :: rest := queue
      simp only [custody_clientStep _ steps, Custody.step, idle', queue']
      refine Custody.ext rfl rfl rfl ?_ rfl rfl rfl
      exact Function.update_eq_self _ _
    · have after := connected.clientStep steps (.inl ⟨rfl, rfl⟩)
      refine .idle after ?_
      rw [custody_clientStep _ steps]
      exact Custody.ext rfl rfl rfl (Function.update_eq_self _ _) (Function.update_eq_self _ _)
        (Function.update_eq_self _ _) rfl
  · generalize steps : Client.step json.codec (pipeline.clients clientIp) event = stepped
    have passes := Client.step_passes json.codec (pipeline.clients clientIp) noRead taking noEnd
    rw [steps] at passes
    cases passes with
    | kept keeps =>
        have after :=
          connected.clientStep steps (.inl ⟨keeps.reader, keeps.connections⟩)
        refine .idle after ?_
        rw [custody_clientStep _ steps]
        refine Custody.ext rfl rfl rfl ?_ ?_ ?_ rfl
        · rw [keeps.reader]
          exact Function.update_eq_self _ _
        · rw [keeps.taskQueue]
          exact Function.update_eq_self _ _
        · rw [Client.inHand, keeps.processing]
          exact Function.update_eq_self _ _
    | opened taskQueue processing reader connections =>
        -- Nothing has been written to the new connection, and the old one is left unread.
        have after := connected.clientStep steps (.inr ⟨reader, connections⟩)
        refine ⟨after, .lose clientIp (pipeline.custody.inbox clientIp).length, trivial, ?_,
          fun client connection linked reads same => ?_⟩
        · have fresh := connected.unopened clientIp _ (Nat.le_refl _)
          rw [custody_clientStep _ steps]
          refine Custody.ext rfl rfl rfl ?_ ?_ ?_ rfl
          · simp [Custody.step, reader, unreadOf, fresh]
          · rw [taskQueue]
            exact Function.update_eq_self _ _
          · rw [Client.inHand, processing]
            exact Function.update_eq_self _ _
        · subst same
          rw [clientStep_clients, steps, Function.update_self, reader] at reads
          cases reads
          exact Nat.lt_irrefl _ (connected.reader _ _ linked.reader)

theorem reading_eq_some {client : Client} {connection : Nat} :
    reading client = some connection ↔ client.running = .gathering ∧
      client.receiving = .reading ∧ client.reader = some connection := by
  unfold reading
  split
  · next gathering stands => simp [gathering, stands]
  · next none =>
      refine ⟨nofun, fun reads => ?_⟩
      exact (none reads.1 reads.2.1).elim

/-- What a read leaves in the inbox and puts into the queue. -/
theorem custody_read (json : JsonText) {clientIp : String} {connection : Nat}
    (reads : reading (pipeline.clients clientIp) = some connection) (read : Readline)
    (rest : Pipe) :
    (clientStep json clientIp (.lineRead read) { pipeline with
      toClient := changeAt clientIp connection (fun _ => rest) pipeline.toClient }).custody =
      { pipeline.custody with
        inbox := Function.update pipeline.custody.inbox clientIp (rest.unread.filterMap Json.task?)
        waiting := Function.update pipeline.custody.waiting clientIp
          (Client.receive json.codec read.result (pipeline.clients clientIp)).taskQueue } := by
  obtain ⟨gathering, stands, reader⟩ := reading_eq_some.mp reads
  obtain ⟨sameReader, _, sameTask⟩ :=
    Client.receive_kept json.codec read.result (pipeline.clients clientIp)
  have steps := Client.step_lineRead json.codec gathering stands reader read
  refine (custody_clientStep { pipeline with
    toClient := changeAt clientIp connection (fun _ => rest) pipeline.toClient } steps).trans ?_
  refine Custody.ext rfl rfl rfl ?_ rfl ?_ rfl
  · rw [custody_changeAt, if_pos reader, sameReader, reader]
    simp [unreadOf]
  · rw [sameTask]
    exact Function.update_eq_self _ _

/-- The task read is the one that has waited longest, or the connection has gone down. -/
theorem read_advances (connected : Connected json pipeline) (trusted : Trusted json pipeline)
    (rejects : json.RejectsEmpty) {clientIp : String} {connection : Nat}
    (reads : reading (pipeline.clients clientIp) = some connection) {read : Readline} {rest : Pipe}
    (next : (pipeline.toClient clientIp connection).next = some (read, rest)) :
    Advances json pipeline (clientStep json clientIp (.lineRead read)
      { pipeline with
        toClient := changeAt clientIp connection (fun _ => rest) pipeline.toClient }) := by
  have whole : ∀ message ∈ (pipeline.toClient clientIp connection).unread, json.Whole message :=
    fun message member => trusted message (connected.downSent _ _ member)
  obtain ⟨flows, yields⟩ := (connected.down clientIp connection).next whole rejects next
  have fewer : rest.unread ⊆ (pipeline.toClient clientIp connection).unread := by
    cases yields with
    | message waiting => exact waiting ▸ List.subset_cons_self _ _
    | nothing _ lost => exact lost.subset
  obtain ⟨gathering, stands, reader⟩ := reading_eq_some.mp reads
  obtain ⟨sameReader, sameConnections, _⟩ :=
    Client.receive_kept json.codec read.result (pipeline.clients clientIp)
  have after := (connected.changeToClient clientIp connection (fun _ => rest) flows
    fewer).clientStep (Client.step_lineRead json.codec gathering stands reader read)
      (.inl ⟨sameReader, sameConnections⟩)
  have shape := custody_read json reads read rest
  have inbox : pipeline.custody.inbox clientIp =
      (pipeline.toClient clientIp connection).unread.filterMap Json.task? := by
    simp [custody, unread, reader]
  cases yields with
  | @message message waiting loads raw =>
      rw [Client.receive_loads loads] at shape
      cases found : message.task? with
      | none =>
          refine .idle after (shape.trans ?_)
          refine Custody.ext rfl rfl rfl ?_ ?_ rfl rfl
          · rw [Function.update_eq_iff, inbox]
            exact ⟨by simp [waiting, found], fun _ _ => rfl⟩
          · rw [found, Option.toList_none, List.append_nil]
            exact Function.update_eq_self _ _
      | some task =>
          refine ⟨after, .receive clientIp, trivial, shape.trans ?_, fun _ _ _ _ => trivial⟩
          have head : (pipeline.custody.inbox clientIp).head? = some task := by
            simp [inbox, waiting, found]
          refine Custody.ext rfl rfl rfl ?_ ?_ rfl rfl
          · simp [Custody.step, inbox, waiting, found]
          · simp only [Custody.step, head, found]
            rfl
  | nothing error lost loads ended =>
      obtain ⟨gone, lostOnes⟩ := lost
      rw [Client.receive_nothing loads] at shape
      refine ⟨after, .lose clientIp (gone.filterMap Json.task?).length, trivial,
        shape.trans ?_, fun client number linked reads same => ?_⟩
      · refine Custody.ext rfl rfl rfl ?_ ?_ rfl rfl
        · simp [Custody.step, inbox, ← lostOnes]
        · exact Function.update_eq_self _ _
      · subst same
        cases linked.reader.symm.trans reader
        exact ended linked.live

/-- An event of the server which neither creates nor takes nor puts back a task. -/
theorem server_idle (connected : Connected json pipeline) (event : ClientConnectServer.Event)
    (noCreation : ∀ taskData taskId writes, event ≠ .createTask taskData taskId writes)
    (noDequeue : ∀ now writes, event ≠ .taskTaken now writes)
    (noAnswer : ∀ drained, event ≠ .drainDone drained)
    (noOpening : ∀ clientIp clientPort now, event ≠ .connectionOpened clientIp clientPort now) :
    Connected json (serverStep json event pipeline) ∧
      (serverStep json event pipeline).custody = pipeline.custody := by
  have same := ClientConnectServer.step_sameTasks json.codec pipeline.server event noCreation
    noDequeue noAnswer
  have after := connected.serverStep event noDequeue noOpening
  rw [serverStep_silent same.wire] at after ⊢
  exact ⟨after, custody_server same.enqueued same.taskQueue⟩

/-- A created task comes into the queue if it names a player. -/
theorem created_advances (connected : Connected json pipeline) (taskData : JsonObject)
    (taskId : String) (writes : Bool) :
    Advances json pipeline (serverStep json (.createTask taskData taskId writes) pipeline) := by
  have after := connected.serverStep (.createTask taskData taskId writes) (by simp)
    (by simp)
  rw [serverStep_silent (server_wire json.codec pipeline.server (by simp))] at after ⊢
  simp only [ClientConnectServer.step, ClientConnectServer.createTask_leaves] at after ⊢
  have same : ClientConnectServer.SameTasks pipeline.server (ClientConnectServer.recorded writes
      (ClientConnectServer.createdData taskData taskId) pipeline.server) := by
    cases writes <;> exact ⟨rfl, rfl, rfl, rfl, rfl, List.prefix_rfl⟩
  by_cases named : (Fields.get? taskData "player").isSome = true
  · rw [if_pos named] at after ⊢
    refine ⟨after, .create (.obj (ClientConnectServer.nextTask taskData taskId
      pipeline.server).data), trivial, ?_, fun _ _ _ _ => trivial⟩
    exact Custody.ext (by simp [custody, Custody.step]) rfl (by simp [custody, Custody.step])
      rfl rfl rfl rfl
  · rw [if_neg named] at after ⊢
    exact .idle after (custody_server same.enqueued same.taskQueue)

/-- A failed drain puts its task back. -/
theorem drained_advances (connected : Connected json pipeline) (result : Except PyError Unit) :
    Advances json pipeline (step json pipeline (.drained result)) := by
  have after := connected.serverStep (.drainDone result) (by simp) (by simp)
  simp only [step]
  rw [serverStep_silent (server_wire json.codec pipeline.server (by simp))] at after ⊢
  cases stands : pipeline.server.distributor with
  | draining task =>
      cases result with
      | ok value =>
          refine .idle after ?_
          simp only [ClientConnectServer.step, stands, ClientConnectServer.finishDrain_leaves]
          rfl
      | error error =>
          refine ⟨{ after with }, .putBack (.obj task.data), ?_, ?_,
            fun _ _ _ _ => trivial⟩
          · exact List.mem_map_of_mem (connected.ordered.held task stands).1
          · simp only [ClientConnectServer.step, stands, ClientConnectServer.finishDrain_leaves]
            exact Custody.ext rfl (by simp [custody, Custody.step])
              (by simp [custody, Custody.step]) rfl rfl rfl rfl
  | _ =>
      refine .idle after ?_
      simp only [ClientConnectServer.step, stands]

/-- A task written to a live connection its client reads from comes into its inbox. -/
theorem inbox_written {task : QueuedTask} {server : ClientConnectServer} {writer : Nat}
    {clientIp : String} {connection : Nat}
    (accepted : pipeline.accepted[writer]? = some (clientIp, connection))
    (reader : (pipeline.clients clientIp).reader = some connection)
    (live : (pipeline.toClient clientIp connection).ending = none) :
    (carryToClient json { pipeline with server := server } ⟨writer, task, false⟩).custody.inbox =
      Function.update pipeline.custody.inbox clientIp
        (pipeline.custody.inbox clientIp ++ [.obj task.data]) := by
  have shape := custody_changeAt clientIp connection (Pipe.write task.message
    (ClientConnectServer.lineBytes json task.message)) pipeline
  rw [if_pos reader] at shape
  simp only [carryToClient, accepted]
  refine ((inbox_eq rfl rfl).trans (congrArg Custody.inbox shape)).trans ?_
  simp [Pipe.write, live, custody, unread, reader, QueuedTask.task?_message]

/-- A task written to any other connection comes into no inbox. -/
theorem inbox_unreached {task : QueuedTask} {server : ClientConnectServer} {writer : Nat}
    (unreached : ∀ clientIp connection, pipeline.accepted[writer]? = some (clientIp, connection) →
      (pipeline.clients clientIp).reader = some connection →
        (pipeline.toClient clientIp connection).ending ≠ none) :
    (carryToClient json { pipeline with server := server } ⟨writer, task, false⟩).custody.inbox =
      pipeline.custody.inbox := by
  unfold carryToClient
  split
  · next clientIp connection accepted =>
      have shape := custody_changeAt clientIp connection (Pipe.write task.message
        (ClientConnectServer.lineBytes json task.message)) pipeline
      refine ((inbox_eq rfl rfl).trans (congrArg Custody.inbox shape)).trans ?_
      split
      · next reader =>
          rw [Function.update_eq_iff]
          refine ⟨?_, fun _ _ => rfl⟩
          cases ends : (pipeline.toClient clientIp connection).ending with
          | none => exact absurd ends (unreached clientIp connection accepted reader)
          | some ending => simp [Pipe.write, ends, custody, unread, reader]
      · rfl
  · rfl

/-- A line written takes its task from the queue and changes inboxes, if anything. -/
theorem custody_carryToClient (json : JsonText) {task : QueuedTask} {rest : List QueuedTask}
    {server : ClientConnectServer} (queue : pipeline.server.taskQueue = task :: rest)
    (left : server.taskQueue = rest) (enqueued : server.enqueued = pipeline.server.enqueued)
    (line : Written) :
    (carryToClient json { pipeline with server := server } line).custody =
      { pipeline.custody with
        queued := pipeline.custody.queued.tail
        inbox := (carryToClient json { pipeline with server := server } line).custody.inbox } := by
  have others : ∀ carried, carried = carryToClient json { pipeline with server := server } line →
      carried.server = server ∧ carried.clients = pipeline.clients ∧
        carried.executed = pipeline.executed ∧ carried.returned = pipeline.returned := by
    rintro _ rfl
    unfold carryToClient
    split <;> exact ⟨rfl, rfl, rfl, rfl⟩
  obtain ⟨sameServer, sameClients, sameExecuted, sameReturned⟩ := others _ rfl
  refine Custody.ext ?_ ?_ ?_ rfl ?_ ?_ ?_
  · simp [custody, sameServer, enqueued]
  · simp [custody, sameReturned]
  · simp [custody, sameServer, left, queue]
  · simp [custody, sameClients]
  · simp [custody, sameClients]
  · simp [custody, sameExecuted]

/-- The first task of the queue goes to its client, or nowhere. -/
theorem distributed_advances (connected : Connected json pipeline) (now : Nat) (writes : Bool) :
    Advances json pipeline (serverStep json (.taskTaken now writes) pipeline) := by
  obtain ⟨distributed, after⟩ := serverStep_distributed connected now writes
  generalize serverStep json (.taskTaken now writes) pipeline = reached at distributed after
  cases distributed with
  | resting => exact .idle after rfl
  | @withheld task rest server queue unsent left enqueued =>
      refine ⟨after, .withdraw, trivial, ?_,
        fun clientIp connection linked _ => ?_⟩
      · exact Custody.ext (congrArg (List.map _) enqueued) rfl
          (by simp [custody, Custody.step, left, queue]) rfl rfl rfl rfl
      · obtain ⟨info, found, alive, _⟩ := linked.registered
        intro head first
        obtain rfl : head = .obj task.data := by simpa [custody, queue] using first.symm
        rw [QueuedTask.addressee_data]
        split
        · simp
        · next forHost =>
            intro addressed
            exact alive (unsent clientIp info (by simpa using forHost) addressed found)
  | @sent task rest clientIp info server queue forHost addressed found left enqueued =>
      have head : pipeline.custody.queued.head? = some (.obj task.data) := by
        simp [custody, queue]
      have whose : (Json.obj task.data).addressee = some clientIp := by
        simp [QueuedTask.addressee_data, forHost, addressed]
      have shape := custody_carryToClient json queue left enqueued
        ⟨info.writer, task, false⟩
      -- Whether the line reaches the inbox or a pipe nobody reads.
      by_cases reaches : ∃ connection,
          pipeline.accepted[info.writer]? = some (clientIp, connection) ∧
          (pipeline.clients clientIp).reader = some connection ∧
            (pipeline.toClient clientIp connection).ending = none
      · obtain ⟨connection, accepted, reader, live⟩ := reaches
        refine ⟨after, .send clientIp, ?_, ?_, fun _ _ _ _ => trivial⟩
        · intro first member
          rw [head] at member
          cases member
          exact whose
        · rw [shape, inbox_written accepted reader live, Custody.step, head]
          rfl
      · refine ⟨after, .withdraw, trivial, ?_, fun client connection linked _ => ?_⟩
        · rw [shape, inbox_unreached]
          · rfl
          · intro client connection accepted reader live
            have peer := connected.owned clientIp info found
            rw [connected.peers, List.getElem?_map, accepted] at peer
            obtain rfl : client = clientIp := Option.some.inj peer
            exact reaches ⟨connection, accepted, reader, live⟩
        · intro first member
          rw [head] at member
          cases member
          rw [whose]
          rintro ⟨rfl⟩
          obtain ⟨entry, found', _, accepted⟩ := linked.registered
          cases found.symm.trans found'
          exact reaches ⟨connection, accepted, linked.reader, linked.live⟩

theorem executing_eq_some {client : Client} {task : Json} :
    executing client = some task ↔
      client.running = .gathering ∧ client.processing = .executing task := by
  unfold executing
  split
  · next gathering stands => simp [gathering, stands]
  · next none =>
      refine ⟨nofun, fun runs => ?_⟩
      exact (none _ runs.1 runs.2).elim

/-- An execution comes to its end. -/
theorem executed_advances (connected : Connected json pipeline) {clientIp : String} {task : Json}
    (runs : executing (pipeline.clients clientIp) = some task) (platform : Platform) (now : Nat) :
    Advances json pipeline (step json pipeline (.executed clientIp platform now)) := by
  obtain ⟨gathering, stands⟩ := executing_eq_some.mp runs
  simp only [step, runs]
  generalize recorded : (pipeline.controllers clientIp).execution clientIp platform task = execution
  have ran : execution.client = clientIp ∧ execution.task = task := by
    rw [← recorded]
    exact ⟨rfl, rfl⟩
  generalize execution.outcome = outcome
  have steps := Client.step_executed json.codec gathering stands outcome now
  have done := Client.finishTask_done task outcome now (pipeline.clients clientIp)
  generalize Client.finishTask task outcome now (pipeline.clients clientIp) = stepped at steps done
  obtain ⟨idle, queue, reader, connections, _⟩ := done
  have after := connected.clientStep steps (.inl ⟨reader, connections⟩)
  have shape := custody_clientStep _ steps
  have working : pipeline.custody.working clientIp = some task := by
    simp [custody, Client.inHand, stands]
  refine ⟨{ after with }, .finish clientIp, trivial, ?_, fun _ _ _ _ => trivial⟩
  simp only [Custody.step, working]
  show ({ (clientStep json clientIp (.executed outcome now) pipeline).custody with
    done := List.map (fun execution : Execution => (execution.client, execution.task))
      (pipeline.executed ++ [execution]) } : Custody String Json) = _
  rw [shape, reader, queue, idle]
  refine Custody.ext rfl rfl rfl ?_ ?_ rfl ?_
  · exact Function.update_eq_self _ _
  · exact Function.update_eq_self _ _
  · simp [custody, ran]

/-- A read of the server moves no task. -/
theorem serverRead_advances (connected : Connected json pipeline) (trusted : Trusted json pipeline)
    (rejects : json.RejectsEmpty) {number : Nat} {clientIp : String} {connection : Nat}
    {read : Readline} {rest : Pipe}
    (next : (pipeline.toServer clientIp connection).next = some (read, rest)) (now : Nat)
    (writes : Bool) :
    Advances json pipeline (serverStep json (.lineRead number read now writes)
      { pipeline with
        toServer := changeAt clientIp connection (fun _ => rest) pipeline.toServer }) := by
  have whole : ∀ message ∈ (pipeline.toServer clientIp connection).unread, json.Whole message :=
    fun message member => trusted message (connected.upSent _ _ member)
  obtain ⟨flows, yields⟩ := (connected.up clientIp connection).next whole rejects next
  have fewer : rest.unread ⊆ (pipeline.toServer clientIp connection).unread := by
    cases yields with
    | message waiting => exact waiting ▸ List.subset_cons_self _ _
    | nothing _ lost => exact lost.subset
  have moved := connected.changeToServer clientIp connection (fun _ => rest) flows fewer
  obtain ⟨after, same⟩ := server_idle moved (.lineRead number read now writes) (by simp)
    (by simp) (by simp) (by simp)
  exact .idle after same

/-- Every event of the pipeline makes one proper move. -/
theorem step_advances (connected : Connected json pipeline) (trusted : Trusted json pipeline)
    (rejects : json.RejectsEmpty) (event : Event) :
    Advances json pipeline (step json pipeline event) := by
  have nothing : Advances json pipeline pipeline := .idle connected rfl
  cases event with
  | created taskData taskId writes => exact created_advances connected taskData taskId writes
  | distributed now writes => exact distributed_advances connected now writes
  | drained result => exact drained_advances connected result
  | accepted clientIp connection clientPort now =>
      simp only [step]
      split
      · next opens =>
          have after := connected.accept opens.1 opens.2 clientPort now
          have same := ClientConnectServer.step_sameTasks json.codec pipeline.server
            (.connectionOpened clientIp clientPort now) (by simp) (by simp) (by simp)
          rw [serverStep_silent same.wire] at after ⊢
          exact .idle after (custody_server same.enqueued same.taskQueue)
      · exact nothing
  | serverRead number now writes =>
      simp only [step]
      split
      · split
        · next next =>
            split
            · exact serverRead_advances connected trusted rejects next now writes
            · exact nothing
        · exact nothing
      · exact nothing
  | serverClosing number =>
      obtain ⟨after, same⟩ := server_idle connected (.transportClosing number) (by simp)
        (by simp) (by simp) (by simp)
      exact .idle after same
  | client clientIp event =>
      simp only [step]
      split
      · exact nothing
      · exact nothing
      · next noRead noEnd => exact client_advances connected clientIp noRead noEnd
  | clientRead clientIp =>
      simp only [step]
      split
      · next connection reads =>
          split
          · next next => exact read_advances connected trusted rejects reads next
          · exact nothing
      · exact nothing
  | executed clientIp platform now =>
      cases runs : executing (pipeline.clients clientIp) with
      | some task => exact executed_advances connected runs platform now
      | none =>
          simp only [step, runs]
          exact nothing
  | arrivedAtClient clientIp connection count =>
      exact .idle (connected.changeToClient _ _ _ ((connected.down _ _).arrive count)
        (List.Subset.refl _)) (custody_changeAt_same _ _ rfl)
  | arrivedAtServer clientIp connection count =>
      exact .idle (connected.changeToServer _ _ _ ((connected.up _ _).arrive count)
        (List.Subset.refl _)) rfl
  | cutToClient clientIp connection ending =>
      exact .idle (connected.changeToClient _ _ _ ((connected.down _ _).cut ending)
        (List.Subset.refl _)) (custody_changeAt_same _ _ rfl)
  | cutToServer clientIp connection ending =>
      exact .idle (connected.changeToServer _ _ _ ((connected.up _ _).cut ending)
        (List.Subset.refl _)) rfl

end Pipeline
end NetworkAdapter
