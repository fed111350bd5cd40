import NetworkAdapter.Server.Filing
import NetworkAdapter.System.Service

/-!
# What becomes of the outcome of a task

The report of an execution waits with the client, is on its way to the server, or is filed.
Nothing else is ever filed under the id of the task: the id belongs to one task of one client,
which executes it at most once.
-/

namespace NetworkAdapter

/-- An event enqueues a new task at most. -/
theorem ClientConnectServer.step_enqueued (codec : TextCodec) (server : ClientConnectServer)
    (event : ClientConnectServer.Event) :
    (ClientConnectServer.step codec server event).enqueued = server.enqueued ∨
      ∃ taskData taskId, (ClientConnectServer.step codec server event).enqueued =
        server.enqueued ++ [nextTask taskData taskId server] := by
  cases event with
  | createTask taskData taskId writes =>
      simp only [step, createTask_leaves]
      split
      · exact .inr ⟨taskData, taskId, rfl⟩
      · cases writes <;> exact .inl rfl
  | taskTaken now writes =>
      simp only [step]
      split
      · next task rest _ _ =>
          have taken := takeTask_taken task now writes { server with taskQueue := rest }
          generalize takeTask task now writes { server with taskQueue := rest } = after at taken
          cases taken with
          | absent => cases writes <;> exact .inl rfl
          | _ => exact .inl rfl
      · exact .inl rfl
  | drainDone drained =>
      simp only [step]
      split
      · rw [finishDrain_leaves]
        cases drained <;> exact .inl rfl
      · exact .inl rfl
  | _ => exact .inl (step_sameTasks codec server _ (by simp) (by simp) (by simp)).enqueued

namespace Pipeline

open Execution

variable {json : JsonText} {pipeline : Pipeline} {clientIp taskId : String}
  {connection number : Nat}

/-- The server makes one step of its own, or none, and it reads what a pipe holds. -/
theorem step_server (json : JsonText) (pipeline : Pipeline) (event : Event) :
    (step json pipeline event).server = pipeline.server ∨
      ∃ served, (step json pipeline event).server =
          ClientConnectServer.step json.codec pipeline.server served ∧
        ∀ number read now writes, served = .lineRead number read now writes →
          ∃ sender which rest, (pipeline.toServer sender which).next = some (read, rest) := by
  have unread {served : ClientConnectServer.Event} {after : Pipeline}
      (steps : after.server = ClientConnectServer.step json.codec pipeline.server served)
      (noRead : ∀ number read now writes, served ≠ .lineRead number read now writes) :
      after.server = pipeline.server ∨
        ∃ served, after.server = ClientConnectServer.step json.codec pipeline.server served ∧
          ∀ number read now writes, served = .lineRead number read now writes →
            ∃ sender which rest, (pipeline.toServer sender which).next = some (read, rest) :=
    .inr ⟨served, steps, fun _ _ _ _ reads => absurd reads (noRead _ _ _ _)⟩
  cases event with
  | created => exact unread (serverStep_server _ _) (by simp)
  | distributed => exact unread (serverStep_server _ _) (by simp)
  | serverClosing => exact unread (serverStep_server _ _) (by simp)
  | drained result =>
      simp only [step]
      split <;> exact unread (serverStep_server _ _) (by simp)
  | accepted =>
      simp only [step]
      split
      · exact unread (serverStep_server _ _) (by simp)
      · exact .inl rfl
  | serverRead number now writes =>
      simp only [step]
      split
      · next sender which _ =>
          split
          · next read rest next =>
              split
              · refine .inr ⟨_, serverStep_server _ _, fun _ _ _ _ reads => ?_⟩
                cases reads
                exact ⟨sender, which, rest, next⟩
              · exact .inl rfl
          · exact .inl rfl
      · exact .inl rfl
  | client =>
      simp only [step]
      split
      · exact .inl rfl
      · exact .inl rfl
      · exact .inl (clientStep_server _ _ _)
  | clientRead =>
      simp only [step]
      split
      · split
        · exact .inl (clientStep_server _ _ _)
        · exact .inl rfl
      · exact .inl rfl
  | executed =>
      simp only [step]
      split
      · exact .inl (clientStep_server _ _ _)
      · exact .inl rfl
  | _ => exact .inl rfl

theorem step_enqueued (json : JsonText) (pipeline : Pipeline) (event : Event) :
    (step json pipeline event).server.enqueued = pipeline.server.enqueued ∨
      ∃ taskData taskId, (step json pipeline event).server.enqueued = pipeline.server.enqueued ++
        [ClientConnectServer.nextTask taskData taskId pipeline.server] := by
  rcases step_server json pipeline event with same | ⟨served, steps, _⟩
  · exact .inl (by rw [same])
  · rw [steps]
    exact ClientConnectServer.step_enqueued json.codec pipeline.server served

/-- No event takes back what was enqueued. -/
theorem run_enqueued (json : JsonText) (pipeline : Pipeline) (events : List Event) :
    pipeline.server.enqueued <+: (run (step json) pipeline events).server.enqueued := by
  induction events generalizing pipeline with
  | nil => exact List.prefix_rfl
  | cons event rest inductionHypothesis =>
      refine List.IsPrefix.trans ?_ (inductionHypothesis (step json pipeline event))
      rcases step_enqueued json pipeline event with same | ⟨taskData, taskId, enqueues⟩
      · rw [same]
      · rw [enqueues]
        exact List.prefix_append _ _

/-- All that is sent arrives undamaged, the tasks of the client can be executed, and the id
belongs to one host task of this client. -/
structure Promised (json : JsonText) (clientIp taskId : String) (pipeline : Pipeline) : Prop where
  trusted : Trusted json pipeline
  actionable : Actionable clientIp pipeline
  own : ∀ task ∈ pipeline.server.enqueued, task.taskId = taskId →
    task.forSwitch = false ∧ task.clientIp? = some clientIp
  single : (pipeline.server.enqueued.countP fun task => task.taskId = taskId) ≤ 1

/-- What is promised of the end of a run holds all along it. -/
theorem Promised.before (events : List Event)
    (promised : Promised json clientIp taskId (run (step json) pipeline events)) :
    Promised json clientIp taskId pipeline := by
  have enqueued := run_enqueued json pipeline events
  exact {
    trusted := fun message member => promised.trusted message (run_sent pipeline events member)
    actionable := fun task member => promised.actionable task (enqueued.subset member)
    own := fun task member => promised.own task (enqueued.subset member)
    single := Nat.le_trans enqueued.countP_le promised.single }

/-- The messages of a client that the server has not read. -/
def owed (clientIp : String) (connection : Nat) (pipeline : Pipeline) : List Json :=
  (pipeline.toServer clientIp connection).unread ++
    (pipeline.clients clientIp).taskResultQueue.map QueuedResult.message

/-- The record is the report of an execution of the task. -/
structure Outcome (clientIp taskId : String) (record : JsonObject) (execution : Execution) :
    Prop where
  whose : execution.client = clientIp
  named : execution.task.taskId? = some taskId
  reports : execution.report = some (.obj record)

/-- Every outcome of the task is owed to the server or filed. -/
def Settled (clientIp : String) (connection : Nat) (taskId : String) (pipeline : Pipeline) : Prop :=
  ∀ execution ∈ pipeline.executed, ∀ record, Outcome clientIp taskId record execution →
    (∃ now, Client.taskResult (.obj record) now ∈ pipeline.owed clientIp connection) ∨
      pipeline.server.operationTaskData.Files taskId record

/-- What a client executes under the id is executed by the one it belongs to. -/
theorem Orderly.ownId (orderly : Orderly json pipeline)
    (own : ∀ task ∈ pipeline.server.enqueued, task.taskId = taskId →
      task.forSwitch = false ∧ task.clientIp? = some clientIp)
    {execution : Execution} (member : execution ∈ pipeline.executed)
    (named : execution.task.taskId? = some taskId) : execution.client = clientIp := by
  obtain ⟨task, enqueued, data, _, addressed⟩ := orderly.atMostOnce.own execution member
  have same : task.taskId = taskId := by
    simpa [data, Json.taskId?, task.identified] using named
  have addressed' := (own task enqueued same).2
  rw [addressed] at addressed'
  exact Option.some.inj addressed'

/-- Two executions of one task are the same. -/
theorem Orderly.sameOutcome (orderly : Orderly json pipeline)
    (single : (pipeline.server.enqueued.countP fun task => task.taskId = taskId) ≤ 1)
    (unreturned : ∀ task ∈ pipeline.returned, task.taskId ≠ taskId)
    {first second : Execution} (member : first ∈ pipeline.executed)
    (member' : second ∈ pipeline.executed) (whose : first.client = clientIp)
    (whose' : second.client = clientIp) (named : first.task.taskId? = some taskId)
    (named' : second.task.taskId? = some taskId) : first = second := by
  have few := orderly.atMostOnce.few clientIp taskId
  have none : pipeline.returned.countP (QueuedTask.isFor clientIp taskId) = 0 := by
    rw [List.countP_eq_zero]
    intro task returned counts
    simp only [QueuedTask.isFor, decide_eq_true_eq] at counts
    exact unreturned task returned counts.2.2
  have less : pipeline.server.enqueued.countP (QueuedTask.isFor clientIp taskId) ≤
      pipeline.server.enqueued.countP fun task => task.taskId = taskId :=
    List.countP_mono_left fun task _ counts => by
      simp only [QueuedTask.isFor, decide_eq_true_eq] at counts
      simpa using counts.2.2
  rw [List.countP_append] at few
  unfold begun at few
  have once : (pipeline.executed.countP fun execution =>
      execution.client = clientIp ∧ execution.task.taskId? = some taskId) ≤ 1 := by omega
  exact Occurrences.eq_of_countP_le_one once member member' (by simp [whose, named])
    (by simp [whose', named'])

theorem changeAt_unread (change : Pipe → Pipe)
    (same : ∀ pipe, (change pipe).unread = pipe.unread) (other : String) (which : Nat)
    (pipes : String → Nat → Pipe) :
    (changeAt other which change pipes clientIp connection).unread =
      (pipes clientIp connection).unread := by
  unfold changeAt
  split
  · exact same _
  · rfl

/-- Nothing that matters to the outcomes has happened but that more is owed. -/
theorem Settled.of_same (settled : Settled clientIp connection taskId pipeline) {after : Pipeline}
    (executed : after.executed = pipeline.executed)
    (owed : ∀ data now, Client.taskResult data now ∈ pipeline.owed clientIp connection →
      Client.taskResult data now ∈ after.owed clientIp connection)
    (files : ∀ execution ∈ pipeline.executed, ∀ record, Outcome clientIp taskId record execution →
      pipeline.server.operationTaskData.Files taskId record →
        after.server.operationTaskData.Files taskId record) :
    Settled clientIp connection taskId after := by
  intro execution member record outcome
  rw [executed] at member
  rcases settled execution member record outcome with ⟨now, waits⟩ | filed
  · exact .inl ⟨now, owed _ _ waits⟩
  · exact .inr (files execution member record outcome filed)

/-- No task of the id is queued for a client that is not connected. -/
theorem Promised.registered (promised : Promised json clientIp taskId pipeline)
    (served : Served clientIp connection number pipeline) (orderly : Orderly json pipeline) :
    ∀ task ∈ pipeline.server.taskQueue, ∀ client, task.clientIp? = some client →
      pipeline.server.connectedClients.get? client = none → task.taskId ≠ taskId := by
  intro task queued client addressed missing same
  have mine := (promised.own task (orderly.1.ordered.queued task queued) same).2
  rw [addressed] at mine
  obtain ⟨info, registered, _⟩ := served.attends.registered
  rw [Option.some.inj mine, registered] at missing
  cases missing

/-- An event of the server that is no read. -/
theorem Settled.serverStep (settled : Settled clientIp connection taskId pipeline)
    (served : Served clientIp connection number pipeline) (orderly : Orderly json pipeline)
    (promised : Promised json clientIp taskId pipeline) {event : ClientConnectServer.Event}
    (noRead : ∀ connection read now writes, event ≠ .lineRead connection read now writes) :
    Settled clientIp connection taskId (serverStep json event pipeline) := by
  refine settled.of_same (by simp) (fun data now => by simp [owed]) ?_
  intro execution member record outcome filed
  rw [serverStep_server]
  exact (ClientConnectServer.step_files json.codec pipeline.server event).keeps filed
    (promised.registered served orderly) fun _ _ _ _ reads _ => absurd reads (noRead _ _ _ _)

/-- What is filed under the id is the outcome of an execution under it. -/
theorem Orderly.reportId (orderly : Orderly json pipeline) (reported : Reported pipeline)
    {execution : Execution} (member : execution ∈ pipeline.executed) {record : JsonObject}
    (reports : execution.report = some (.obj record)) :
    ∃ taskId, execution.task.taskId? = some taskId ∧
      Fields.get? record "task_id" = some (.str taskId) := by
  obtain ⟨task, _, data, _⟩ := orderly.atMostOnce.own execution member
  obtain ⟨controller, genuine⟩ := reported.genuine execution member
  have outcome : execution.outcome = controller.outcome execution.platform execution.task :=
    congrArg Execution.outcome genuine
  rw [Execution.report, outcome, data] at reports
  rcases TaskController.report_of_outcome reports with ⟨null, _⟩ | ⟨object, same, sameId⟩
  · cases null
  · cases same
    refine ⟨task.taskId, ?_, sameId.trans task.identified⟩
    simp [data, Json.taskId?, task.identified]

/-- The result in a message is the data that was put into it. -/
theorem messageOf_data {data : Json} {now : Nat} {result : JsonObject} {value : Json}
    (delivers : ClientConnectServer.messageOf [("type", .str "task_result"), ("data", data),
      ("timestamp", .number now)] = some (.taskResult result value)) :
    data = .obj result ∧ Fields.get? result "task_id" = some value := by
  cases data with
  | obj object =>
      rw [ClientConnectServer.messageOf_report] at delivers
      obtain ⟨found, named, same⟩ := Option.map_eq_some_iff.mp delivers
      cases same
      exact ⟨rfl, named⟩
  | _ => simp [ClientConnectServer.messageOf, JsonObject.get, Fields.get?, Json.equals] at delivers

/-- A result that is read is the outcome of an execution. -/
theorem Orderly.resultRead (orderly : Orderly json pipeline) (reported : Reported pipeline)
    {sender : String} {which : Nat} {message : Json}
    (underway : message ∈ (pipeline.toServer sender which).unread) {read : Readline}
    (loads : read.result.bind json.codec.parse = .ok message) {result : JsonObject}
    (delivers : ClientConnectServer.received json.codec read =
      some (.taskResult result (.str taskId))) :
    ∃ execution ∈ pipeline.executed, Outcome sender taskId result execution := by
  rcases reported.underway sender which message underway with
    ⟨now, rfl⟩ | ⟨execution, member, whose, data, now, reports, rfl⟩
  · rw [ClientConnectServer.received_of_loads loads, ClientConnectServer.messageOf_heartbeat]
      at delivers
    cases delivers
  · rw [ClientConnectServer.received_of_loads loads] at delivers
    obtain ⟨rfl, named⟩ := messageOf_data delivers
    obtain ⟨own, ownId, sameId⟩ := orderly.reportId reported member reports
    cases named.symm.trans sameId
    exact ⟨execution, member, whose, ownId, reports⟩

/-- What another client does. -/
theorem Settled.clientStep_other (settled : Settled clientIp connection taskId pipeline)
    {sender : String} (apart : clientIp ≠ sender) (event : Client.Event) :
    Settled clientIp connection taskId (clientStep json sender event pipeline) := by
  refine settled.of_same (by simp) (fun data now waits => ?_) (by simp)
  have same : (clientStep json sender event pipeline).toServer clientIp connection =
      pipeline.toServer clientIp connection := carryToServer_other apart _ _
  simpa [owed, same, Function.update_of_ne apart] using waits

/-- A message that goes to the server or is left in the queue is still owed. -/
theorem mem_owed_clientStep (live : (pipeline.toServer clientIp connection).ending = none)
    {event : Client.Event}
    (writes : Client.Writes connection (pipeline.clients clientIp)
      (Client.step json.codec (pipeline.clients clientIp) event)) {message : Json}
    (waits : message ∈ pipeline.owed clientIp connection) :
    message ∈ (clientStep json clientIp event pipeline).owed clientIp connection := by
  have clients : (clientStep json clientIp event pipeline).clients clientIp =
      Client.step json.codec (pipeline.clients clientIp) event := by simp
  rw [owed, clients]
  unfold owed at waits
  cases writes with
  | nothing queue wire =>
      have silent : (clientStep json clientIp event pipeline).toServer = pipeline.toServer := by
        simp [clientStep, wire]
      rw [silent, queue]
      exact waits
  | heartbeat now queue wire =>
      have unread :
          ((clientStep json clientIp event pipeline).toServer clientIp connection).unread =
            (pipeline.toServer clientIp connection).unread ++
              [(Outgoing.heartbeat now).message] := by
        simp [clientStep, wire, carryToServer, Pipe.write, live]
      rw [unread, queue]
      simp only [List.mem_append] at waits ⊢
      exact waits.imp_left .inl
  | result result queue wire =>
      have unread :
          ((clientStep json clientIp event pipeline).toServer clientIp connection).unread =
            (pipeline.toServer clientIp connection).unread ++
              [(Outgoing.result result).message] := by
        simp [clientStep, wire, carryToServer, Pipe.write, live]
      rw [unread]
      rw [queue] at waits
      simpa [Outgoing.message, or_assoc] using waits

/-- What the client itself does between reads and executions. -/
theorem Settled.clientStep_own (settled : Settled clientIp connection taskId pipeline)
    (live : (pipeline.toServer clientIp connection).ending = none) {event : Client.Event}
    (writes : Client.Writes connection (pipeline.clients clientIp)
      (Client.step json.codec (pipeline.clients clientIp) event)) :
    Settled clientIp connection taskId (clientStep json clientIp event pipeline) :=
  settled.of_same (by simp) (fun _ _ waits => mem_owed_clientStep live writes waits) (by simp)

/-- An execution of the client comes to its end, and its report is owed. -/
theorem Settled.executed (settled : Settled clientIp connection taskId pipeline)
    (execution : Execution) (whose : execution.client = clientIp)
    (controllers : String → TaskController) {now : Nat}
    (steps : Client.step json.codec (pipeline.clients execution.client)
        (.executed execution.outcome now) =
      Client.finishTask execution.task execution.outcome now (pipeline.clients execution.client)) :
    Settled clientIp connection taskId
      { Pipeline.clientStep json execution.client (.executed execution.outcome now) pipeline with
        controllers := controllers
        executed := pipeline.executed ++ [execution] } := by
  subst whose
  obtain ⟨wire, _, queue⟩ :=
    Client.finishTask_reports execution now (pipeline.clients execution.client)
  rw [← steps] at wire queue
  have silent : (Pipeline.clientStep json execution.client (.executed execution.outcome now)
      pipeline).toServer = pipeline.toServer := by
    simp [Pipeline.clientStep, wire]
  intro other member record outcome
  simp only [owed, silent, clientStep_clients, Function.update_self, queue, clientStep_server]
  rcases List.mem_append.mp member with earlier | new
  · rcases settled other earlier record outcome with ⟨now, waits⟩ | filed
    · refine .inl ⟨now, ?_⟩
      unfold owed at waits
      simp only [List.map_append, List.mem_append] at waits ⊢
      exact waits.imp_right .inl
    · exact .inr filed
  · obtain rfl := List.mem_singleton.mp new
    refine .inl ⟨now, ?_⟩
    simp [outcome.reports]

/-- A report of the client that the server reads is filed. -/
theorem files_read {server : ClientConnectServer}
    (attends : ClientConnectServer.Attends clientIp number server) {codec : TextCodec}
    {read : Readline} {record : JsonObject}
    (delivers : ClientConnectServer.received codec read =
      some (.taskResult record (.str taskId))) (now : Nat) :
    (ClientConnectServer.step codec server
      (.lineRead number read now true)).operationTaskData.Files taskId record := by
  obtain ⟨handler, handles, _⟩ := attends.handled
  have done := ClientConnectServer.readConnection_done codec handler read now true server
  simp only [ClientConnectServer.step, handles]
  generalize ClientConnectServer.readConnection codec handler read now true server = after at done
  cases done with
  | taskResult same =>
      cases delivers.symm.trans same
      exact .of_upsert (ClientConnectServer.received_taskResult delivers) _ now
  | malformed nothing => simp [nothing] at delivers
  | unregistered heartbeat => simp [heartbeat] at delivers
  | heartbeat heartbeat => simp [heartbeat] at delivers
  | other other => simp [other] at delivers

/-- A read of the server: what it takes from the client it files. -/
theorem Settled.serverRead (settled : Settled clientIp connection taskId pipeline)
    (served : Served clientIp connection number pipeline) (orderly : Orderly json pipeline)
    (reported : Reported pipeline) (promised : Promised json clientIp taskId pipeline)
    (rejects : json.RejectsEmpty) (unreturned : ∀ task ∈ pipeline.returned, task.taskId ≠ taskId)
    {which : Nat} {sender : String} {other : Nat}
    (accepted : pipeline.accepted[which]? = some (sender, other)) {read : Readline} {rest : Pipe}
    (next : (pipeline.toServer sender other).next = some (read, rest)) (now : Nat) {writes : Bool}
    (stores : which = number → writes = true) :
    Settled clientIp connection taskId (Pipeline.serverStep json (.lineRead which read now writes)
      { pipeline with toServer := changeAt sender other (fun _ => rest) pipeline.toServer }) := by
  have whole : ∀ message ∈ (pipeline.toServer sender other).unread, json.Whole message :=
    fun message member => promised.trusted message (orderly.1.upSent _ _ member)
  have yields := ((orderly.1.up sender other).next whole rejects next).2
  intro execution member record outcome
  simp only [serverStep_executed] at member
  -- A result of the id can only be this outcome.
  have ours (which' : Nat) (read' : Readline) (now' : Nat) (result : JsonObject)
      (reads : ClientConnectServer.Event.lineRead which read now writes =
        .lineRead which' read' now' true)
      (delivers : ClientConnectServer.received json.codec read' =
        some (.taskResult result (.str taskId))) : result = record := by
    cases reads
    cases yields with
    | nothing error lost loads =>
        rw [ClientConnectServer.received, loads] at delivers
        cases delivers
    | message waiting loads =>
        obtain ⟨execution', member', found⟩ := orderly.resultRead reported
          (waiting ▸ List.mem_cons_self) loads delivers
        have mine := orderly.ownId promised.own member' found.named
        cases orderly.sameOutcome promised.single unreturned member member' outcome.whose mine
          outcome.named found.named
        cases outcome.reports.symm.trans found.reports
        rfl
  rcases settled execution member record outcome with ⟨sentAt, waits⟩ | filed
  · by_cases own : clientIp = sender ∧ connection = other
    · obtain ⟨rfl, rfl⟩ := own
      obtain rfl : which = number :=
        (List.getElem?_inj (List.getElem?_eq_some_iff.mp accepted).1 orderly.1.distinct).mp
          (accepted.trans served.accepted.symm)
      cases yields with
      | nothing error lost loads ended => exact absurd served.up ended
      | @message message waiting loads =>
          unfold owed at waits
          rw [waiting, List.cons_append, List.mem_cons] at waits
          rcases waits with rfl | later
          · obtain ⟨ownId, named, sameId⟩ := orderly.reportId reported member outcome.reports
            obtain rfl : ownId = taskId := Option.some.inj (named.symm.trans outcome.named)
            right
            rw [serverStep_server, stores rfl]
            refine files_read served.attends ?_ now
            rw [ClientConnectServer.received_of_loads loads, ClientConnectServer.messageOf_report,
              sameId]
            rfl
          · exact .inl ⟨sentAt, by simpa [owed] using later⟩
    · exact .inl ⟨sentAt, by simpa [owed, changeAt_other own] using waits⟩
  · right
    rw [serverStep_server]
    exact (ClientConnectServer.step_files json.codec pipeline.server _).keeps filed
      (promised.registered served orderly) ours

/-- A calm event leaves every outcome of the task owed or filed. -/
theorem Settled.step (settled : Settled clientIp connection taskId pipeline)
    (served : Served clientIp connection number pipeline) (orderly : Orderly json pipeline)
    (reported : Reported pipeline) (promised : Promised json clientIp taskId pipeline)
    (rejects : json.RejectsEmpty) (unreturned : ∀ task ∈ pipeline.returned, task.taskId ≠ taskId)
    {event : Event} (calm : Calm clientIp connection number pipeline event) :
    Settled clientIp connection taskId (step json pipeline event) := by
  have others (event : ClientConnectServer.Event)
      (noRead : ∀ connection read now writes, event ≠ .lineRead connection read now writes) :
      Settled clientIp connection taskId (Pipeline.serverStep json event pipeline) :=
    settled.serverStep served orderly promised noRead
  cases event with
  | created => exact others _ (by simp)
  | distributed => exact others _ (by simp)
  | serverClosing => exact others _ (by simp)
  | drained result =>
      have after := others (.drainDone result) (by simp)
      simp only [Pipeline.step]
      split <;> exact after
  | accepted other which clientPort now =>
      simp only [Pipeline.step]
      split
      · exact others (.connectionOpened other clientPort now) (by simp)
      · exact settled
  | serverRead which now writes =>
      simp only [Pipeline.step]
      split
      · next sender other accepted =>
          split
          · next read rest next =>
              split
              · exact settled.serverRead served orderly reported promised rejects unreturned
                  accepted next now calm
              · exact settled
          · exact settled
      · exact settled
  | client sender event =>
      simp only [Pipeline.step]
      split
      · exact settled
      · exact settled
      · next noRead noEnd =>
          by_cases same : clientIp = sender
          · subst same
            exact settled.clientStep_own served.up
              (served.attending.step json.codec (calm rfl) noRead noEnd).2
          · exact settled.clientStep_other same event
  | clientRead sender =>
      simp only [Pipeline.step]
      split
      · next which reads =>
          split
          · next read rest next =>
              have moved : Settled clientIp connection taskId { pipeline with
                  toClient := changeAt sender which (fun _ => rest) pipeline.toClient } :=
                settled.of_same rfl (fun _ _ waits => waits) fun _ _ _ _ filed => filed
              by_cases same : clientIp = sender
              · subst same
                refine moved.clientStep_own served.up ?_
                obtain ⟨gathering, stands, reader⟩ := reading_eq_some.mp reads
                show Client.Writes _ _ (Client.step json.codec (pipeline.clients clientIp) _)
                rw [Client.step_lineRead json.codec gathering stands reader]
                exact Client.receive_writes connection json.codec read.result _
              · exact moved.clientStep_other same _
          · exact settled
      · exact settled
  | executed sender platform now =>
      simp only [Pipeline.step]
      split
      · next task runs =>
          obtain ⟨gathering, stands⟩ := executing_eq_some.mp runs
          generalize recorded :
            (pipeline.controllers sender).execution sender platform task = execution
          have ran : execution.client = sender ∧ execution.task = task := by
            rw [← recorded]
            exact ⟨rfl, rfl⟩
          obtain ⟨rfl, rfl⟩ := ran
          have steps := Client.step_executed json.codec gathering stands execution.outcome now
          by_cases same : execution.client = clientIp
          · exact settled.executed execution same _ steps
          · have other : Settled clientIp connection taskId
                (Pipeline.clientStep json execution.client (.executed execution.outcome now)
                  pipeline) :=
              settled.clientStep_other (Ne.symm same) _
            intro recent member record outcome
            rcases List.mem_append.mp member with earlier | new
            · exact other recent (by simpa using earlier) record outcome
            · rw [List.mem_singleton.mp new] at outcome
              exact absurd outcome.whose same
      · exact settled
  | arrivedAtServer other which count =>
      refine settled.of_same rfl (fun data now waits => ?_) fun _ _ _ _ filed => filed
      show _ ∈ (changeAt other which (Pipe.arrive count) pipeline.toServer clientIp
        connection).unread ++ _
      rw [changeAt_unread (Pipe.arrive count) fun _ => rfl]
      exact waits
  | cutToServer other which ending =>
      refine settled.of_same rfl (fun data now waits => ?_) fun _ _ _ _ filed => filed
      show _ ∈ (changeAt other which (Pipe.cut ending) pipeline.toServer clientIp
        connection).unread ++ _
      rw [changeAt_unread (Pipe.cut ending) fun _ => rfl]
      exact waits
  | arrivedAtClient => exact settled
  | cutToClient => exact settled

end Pipeline
end NetworkAdapter
