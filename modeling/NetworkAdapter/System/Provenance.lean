import NetworkAdapter.System.Completion

/-!
# Where the rows of the table come from

A row of the table of tasks was there at the start, or its last record is a new task, a task
whose client was not connected, or the report of an execution. A task is created as running
and marked as failed when it cannot be sent, so a success is always one that a client reported.
Each execution records its platform and the actions the controller gained in it, so what stands
behind a success is what this execution did.
-/

namespace NetworkAdapter

namespace TaskController

variable {platform : Platform} {fields : JsonObject} {controller : TaskController}

/-- An execution adds to the actions that were performed before it. -/
theorem performed_leaves (platform : Platform) (fields : JsonObject)
    (controller : TaskController) :
    controller.performed <+:
      ((executeTask platform (.obj fields)).leaves controller).performed := by
  have comes := executeTask_comes platform fields controller
  unfold Effect.leaves
  generalize (executeTask platform (.obj fields)).run controller = result at comes
  cases comes with
  | raised idle => exact idle ▸ List.prefix_rfl
  | performed requested performs => exact performs ▸ List.prefix_append _ _
  | _ => exact List.prefix_rfl

/-- What an execution adds is what is recorded of it. -/
theorem leaves_performed (clientIp : String) (platform : Platform) (fields : JsonObject)
    (controller : TaskController) :
    ((executeTask platform (.obj fields)).leaves controller).performed =
      controller.performed ++
        (controller.execution clientIp platform (.obj fields)).performed := by
  obtain ⟨added, whole⟩ := performed_leaves platform fields controller
  rw [execution, ← whole, List.drop_left]

end TaskController

/-- What stands behind a success: the one action that was carried out is one the task asks for,
or the task is an attack that pretends, and nothing was done. -/
inductive Execution.Backed (execution : Execution) (fields : JsonObject) : Prop where
  | carriedOut {action : Action}
      (requested : TaskController.Requested execution.platform fields action)
      (performs : execution.performed = [action])
  | pretended (pretends : TaskController.Pretends execution.platform fields)
      (idle : execution.performed = [])

/-- A report of a running task with no other status than success is backed. -/
theorem Execution.Genuine.success {execution : Execution} (genuine : execution.Genuine)
    {fields : JsonObject} (own : execution.task = .obj fields)
    (running : Fields.get? fields "status" = some (.str "running")) {record : JsonObject}
    (reports : execution.report = some (.obj record))
    (success : ∀ status, Fields.get? record "status" = some status → status = .str "success") :
    ∃ result, record = TaskController.succeeded fields result ∧ execution.Backed fields := by
  obtain ⟨controller, genuine⟩ := genuine
  have outcome : execution.outcome = controller.outcome execution.platform (.obj fields) :=
    own ▸ congrArg Execution.outcome genuine
  have performed : execution.performed =
      ((TaskController.executeTask execution.platform (.obj fields)).leaves
        controller).performed.drop controller.performed.length :=
    own ▸ congrArg Execution.performed genuine
  have comes := TaskController.executeTask_comes execution.platform fields controller
  rw [Execution.report, own, outcome] at reports
  unfold Effect.leaves at performed
  unfold TaskController.outcome at reports
  generalize (TaskController.executeTask execution.platform (.obj fields)).run controller =
    result at comes performed reports
  cases comes with
  | raised =>
      cases reports
      have failed := success (.str "error") (by simp)
      simp at failed
  | nothing => cases reports
  | untouched =>
      cases reports
      have runs := success _ running
      simp at runs
  | @pretended result pretends =>
      cases reports
      exact ⟨result, rfl, .pretended pretends (by simp [performed])⟩
  | @performed result after action requested performs =>
      cases reports
      exact ⟨result, rfl, .carriedOut requested (by simp [performed, performs])⟩

namespace Pipeline

open Execution

variable {json : JsonText} {table : Table} {pipeline : Pipeline}

/-- What is stored under an id. -/
inductive Source (pipeline : Pipeline) (taskId : String) : JsonObject → Prop where
  | created (taskData : JsonObject) :
      Source pipeline taskId (ClientConnectServer.createdData taskData taskId)
  | undeliverable {task : QueuedTask} (enqueued : task ∈ pipeline.server.enqueued)
      (named : task.taskId = taskId) (clientIp : String) :
      Source pipeline taskId (ClientConnectServer.undeliverable task.data clientIp)
  | reported {execution : Execution} {record : JsonObject}
      (member : execution ∈ pipeline.executed) (named : execution.task.taskId? = some taskId)
      (reports : execution.report = some (.obj record)) : Source pipeline taskId record

/-- Every row with an id was there at the start or extends what was stored under the id last. -/
def Sourced (table : Table) (pipeline : Pipeline) : Prop :=
  ∀ row ∈ pipeline.server.operationTaskData, ∀ taskId,
    Fields.get? row.fields "task_id" = some (.str taskId) →
      row ∈ table ∨ ∃ record, Source pipeline taskId record ∧ row.fields.Extends record

/-- The actions a client performed in the run are those recorded of its executions, in order. -/
def Accounted (controllers : String → TaskController) (pipeline : Pipeline) : Prop :=
  ∀ clientIp, (pipeline.controllers clientIp).performed =
    (controllers clientIp).performed ++
      (pipeline.executed.filter (·.client = clientIp)).flatMap Execution.performed

/-- Tasks are enqueued as running. -/
def Running (pipeline : Pipeline) : Prop :=
  ∀ task ∈ pipeline.server.enqueued, Fields.get? task.data "status" = some (.str "running")

theorem Running.step (running : Running pipeline) (event : Event) :
    Running (step json pipeline event) := by
  intro task member
  rcases step_enqueued json pipeline event with same | ⟨taskData, taskId, enqueues⟩
  · exact running task (same ▸ member)
  · rw [enqueues] at member
    rcases List.mem_append.mp member with earlier | new
    · exact running task earlier
    · rw [List.mem_singleton.mp new]
      simp [ClientConnectServer.nextTask, ClientConnectServer.createdData]

/-- Only the end of an execution adds one, and leaves its controller where the execution does. -/
theorem step_executions (json : JsonText) (pipeline : Pipeline) (event : Event) :
    (step json pipeline event).executed = pipeline.executed ∧
        (step json pipeline event).controllers = pipeline.controllers ∨
      ∃ clientIp platform task,
        (pipeline.clients clientIp).inHand = some task ∧
        (step json pipeline event).executed = pipeline.executed ++
          [(pipeline.controllers clientIp).execution clientIp platform task] ∧
        (step json pipeline event).controllers = Function.update pipeline.controllers clientIp
          ((TaskController.executeTask platform task).leaves (pipeline.controllers clientIp)) := by
  have server (event : ClientConnectServer.Event) (before : Pipeline) :
      (serverStep json event before).executed = before.executed ∧
        (serverStep json event before).controllers = before.controllers := by
    rw [serverStep_eq]
    exact ⟨rfl, rfl⟩
  have client (clientIp : String) (event : Client.Event) (before : Pipeline) :
      (clientStep json clientIp event before).executed = before.executed ∧
        (clientStep json clientIp event before).controllers = before.controllers := by
    rw [clientStep_eq]
    exact ⟨rfl, rfl⟩
  cases event with
  | created => exact .inl (server _ _)
  | distributed => exact .inl (server _ _)
  | serverClosing => exact .inl (server _ _)
  | drained result =>
      simp only [step]
      split <;> exact .inl (server _ _)
  | accepted =>
      simp only [step]
      split
      · exact .inl (server _ _)
      · exact .inl ⟨rfl, rfl⟩
  | serverRead =>
      simp only [step]
      split
      · split
        · split
          · exact .inl (server _ _)
          · exact .inl ⟨rfl, rfl⟩
        · exact .inl ⟨rfl, rfl⟩
      · exact .inl ⟨rfl, rfl⟩
  | client =>
      simp only [step]
      split
      · exact .inl ⟨rfl, rfl⟩
      · exact .inl ⟨rfl, rfl⟩
      · exact .inl (client _ _ _)
  | clientRead =>
      simp only [step]
      split
      · split
        · exact .inl (client _ _ _)
        · exact .inl ⟨rfl, rfl⟩
      · exact .inl ⟨rfl, rfl⟩
  | executed clientIp platform now =>
      simp only [step]
      split
      · next task runs =>
          refine .inr ⟨clientIp, platform, task, ?_, rfl, rfl⟩
          rw [Client.inHand, (executing_eq_some.mp runs).2]
      · exact .inl ⟨rfl, rfl⟩
  | _ => exact .inl ⟨rfl, rfl⟩

theorem Accounted.step {controllers : String → TaskController}
    (accounted : Accounted controllers pipeline) (orderly : Orderly json pipeline) (event : Event) :
    Accounted controllers (step json pipeline event) := by
  intro client
  rcases step_executions json pipeline event with
    ⟨executed, same⟩ | ⟨clientIp, platform, task, stands, executed, moved⟩
  · rw [executed, same]
    exact accounted client
  · obtain ⟨fields, rfl⟩ := orderly.inHand stands
    rw [executed, moved, List.filter_append]
    by_cases own : client = clientIp
    · subst own
      rw [Function.update_self, TaskController.leaves_performed client, accounted client]
      simp [TaskController.execution]
    · rw [Function.update_of_ne own, accounted client]
      simp [TaskController.execution, Ne.symm own]

theorem Source.mono {after : Pipeline} {taskId : String} {record : JsonObject}
    (source : Source pipeline taskId record)
    (enqueued : pipeline.server.enqueued ⊆ after.server.enqueued)
    (executed : pipeline.executed ⊆ after.executed) : Source after taskId record := by
  cases source with
  | created taskData => exact .created taskData
  | undeliverable member named clientIp => exact .undeliverable (enqueued member) named clientIp
  | reported member named reports => exact .reported (executed member) named reports

/-- A row that is neither new nor changed has the source it had. -/
theorem Sourced.of_same (sourced : Sourced table pipeline) {after : Pipeline}
    (rows : after.server.operationTaskData = pipeline.server.operationTaskData)
    (enqueued : pipeline.server.enqueued ⊆ after.server.enqueued)
    (executed : pipeline.executed ⊆ after.executed) : Sourced table after := by
  intro row member taskId named
  refine (sourced row (rows ▸ member) taskId named).imp_right ?_
  rintro ⟨record, source, extends_⟩
  exact ⟨record, source.mono enqueued executed, extends_⟩

/-- What the server files has a source, if the results it reads were reported. -/
theorem Sourced.files (sourced : Sourced table pipeline) (orderly : Orderly json pipeline)
    {event : ClientConnectServer.Event} {after : Pipeline}
    (files : ClientConnectServer.Files json.codec pipeline.server event
      after.server.operationTaskData)
    (enqueued : pipeline.server.enqueued ⊆ after.server.enqueued)
    (executed : pipeline.executed ⊆ after.executed)
    (read : ∀ connection read now result taskId, event = .lineRead connection read now true →
      ClientConnectServer.received json.codec read = some (.taskResult result (.str taskId)) →
        Source pipeline taskId result) :
    Sourced table after := by
  have earlier (row : Row) (member : row ∈ pipeline.server.operationTaskData) (taskId : String)
      (named : Fields.get? row.fields "task_id" = some (.str taskId)) :
      row ∈ table ∨ ∃ record, Source after taskId record ∧ row.fields.Extends record := by
    refine (sourced row member taskId named).imp_right ?_
    rintro ⟨record, source, carries⟩
    exact ⟨record, source.mono enqueued executed, carries⟩
  -- A row that extends a record has its id.
  have sameId {row : Row} {record : JsonObject} {value : Json} {taskId : String}
      (carries : row.fields.Extends record) (identified : Fields.get? record "task_id" = some value)
      (named : Fields.get? row.fields "task_id" = some (.str taskId)) : value = .str taskId := by
    have also := carries "task_id" value (by simp) identified
    exact Option.some.inj (also.symm.trans named)
  intro row member taskId named
  generalize after.server.operationTaskData = rows at files member
  cases files with
  | nothing => exact earlier row member taskId named
  | created taskData newId =>
      rcases List.mem_append.mp member with old | new
      · exact earlier row old taskId named
      · have fields := List.mem_singleton.mp new
        subst fields
        rw [ClientConnectServer.createdData_identified] at named
        cases named
        exact .inr ⟨_, .created taskData, fun _ _ _ found => found⟩
  | @absent task clientIp queued =>
      rcases Table.mem_upsert member with old | carries
      · exact earlier row old taskId named
      · have same := sameId carries
          (ClientConnectServer.undeliverable_identified task.identified clientIp) named
        have source : Source pipeline taskId _ := .undeliverable
          (orderly.1.ordered.queued task queued) (Json.str.inj same) clientIp
        exact .inr ⟨_, source.mono enqueued executed, carries⟩
  | @result connection line now result value reads delivers =>
      rcases Table.mem_upsert member with old | carries
      · exact earlier row old taskId named
      · obtain rfl := sameId carries (ClientConnectServer.received_taskResult delivers) named
        have source := read connection line now result taskId reads delivers
        exact .inr ⟨_, source.mono enqueued executed, carries⟩

theorem Sourced.step (sourced : Sourced table pipeline) (orderly : Orderly json pipeline)
    (reported : Reported pipeline) (trusted : Trusted json pipeline) (rejects : json.RejectsEmpty)
    (event : Event) : Sourced table (Pipeline.step json pipeline event) := by
  have enqueued : pipeline.server.enqueued ⊆
      (Pipeline.step json pipeline event).server.enqueued :=
    (run_enqueued json pipeline [event]).subset
  have executed : pipeline.executed ⊆ (Pipeline.step json pipeline event).executed := by
    rcases step_executions json pipeline event with ⟨same, _⟩ | ⟨_, _, _, _, added, _⟩
    · rw [same]
      exact List.Subset.refl _
    · rw [added]
      exact List.subset_append_left _ _
  rcases step_server json pipeline event with same | ⟨served, steps, reads⟩
  · exact sourced.of_same (by rw [same]) enqueued executed
  · have files := ClientConnectServer.step_files json.codec pipeline.server served
    rw [← steps] at files
    refine sourced.files orderly files enqueued executed ?_
    intro number read now result taskId line delivers
    obtain ⟨sender, which, rest, next⟩ := reads number read now true line
    have whole : ∀ message ∈ (pipeline.toServer sender which).unread, json.Whole message :=
      fun message member => trusted message (orderly.1.upSent _ _ member)
    cases ((orderly.1.up sender which).next whole rejects next).2 with
    | nothing error lost loads =>
        rw [ClientConnectServer.received, loads] at delivers
        cases delivers
    | message waiting loads =>
        obtain ⟨execution, member, outcome⟩ := orderly.resultRead reported
          (waiting ▸ List.mem_cons_self) loads delivers
        exact .reported member outcome.named outcome.reports

/-- What holds of the rows all along a run. -/
structure Traced (json : JsonText) (table : Table) (controllers : String → TaskController)
    (pipeline : Pipeline) : Prop where
  orderly : Orderly json pipeline
  reported : Reported pipeline
  running : Running pipeline
  accounted : Accounted controllers pipeline
  sourced : Sourced table pipeline

theorem init_traced (json : JsonText) (table : Table) (controllers : String → TaskController) :
    Traced json table controllers (init table controllers) where
  orderly := init_orderly table controllers
  reported := init_reported table controllers
  running := by simp [Running, init, ClientConnectServer.init]
  accounted := by simp [Accounted, init]
  sourced := fun _ member _ _ => .inl member

theorem run_traced {controllers : String → TaskController} (rejects : json.RejectsEmpty)
    (traced : Traced json table controllers pipeline) {events : List Event}
    (trusted : Trusted json (run (step json) pipeline events)) :
    Traced json table controllers (run (step json) pipeline events) := by
  induction events generalizing pipeline with
  | nil => exact traced
  | cons event rest inductionHypothesis =>
      obtain ⟨orderly, reported, running, accounted, sourced⟩ := traced
      have now : Trusted json pipeline := fun message member =>
        trusted message (run_sent pipeline (event :: rest) member)
      have next : Trusted json (run (step json) pipeline [event]) := fun message member =>
        trusted message (run_sent (step json pipeline event) rest member)
      exact inductionHypothesis
        ⟨run_orderly rejects orderly next, reported.step event, running.step event,
          accounted.step orderly event, sourced.step orderly reported now rejects event⟩ trusted

/-- A row that came to say success in a run belongs to a task created for the host whose client
executed it and shows the result that this execution reported. In it the client carried out the
one action the task asks for, unless the task is an attack that pretends; and all it carried out
in the run, it carried out in its executions. -/
theorem successes_are_genuine (rejects : json.RejectsEmpty) (table : Table)
    (controllers : String → TaskController) (events : List Event) {final : Pipeline}
    (runs : run (step json) (init table controllers) events = final)
    (trusted : Trusted json final) {row : Row}
    (stored : row ∈ final.server.operationTaskData) (new : row ∉ table) {taskId : String}
    (named : Fields.get? row.fields "task_id" = some (.str taskId))
    (success : Fields.get? row.fields "status" = some (.str "success")) :
    Accounted controllers final ∧
    ∃ task ∈ final.server.enqueued, ∃ execution ∈ final.executed, ∃ result,
      task.taskId = taskId ∧ task.forSwitch = false ∧
        task.clientIp? = some execution.client ∧ execution.task = .obj task.data ∧
        execution.report = some (.obj (TaskController.succeeded task.data result)) ∧
        Fields.get? row.fields "result" = some result ∧ execution.Backed task.data := by
  have traced : Traced json table controllers final := by
    rw [← runs] at trusted ⊢
    exact run_traced rejects (init_traced json table controllers) trusted
  refine ⟨traced.accounted, ?_⟩
  obtain ⟨record, source, carries⟩ :=
    (traced.sourced row stored taskId named).resolve_left new
  have statusOf (status : Json) (found : Fields.get? record "status" = some status) :
      status = .str "success" := by
    have also := carries "status" status (by simp) found
    exact Option.some.inj (also.symm.trans success)
  cases source with
  | created taskData =>
      have running := statusOf (.str "running")
        (by simp [ClientConnectServer.createdData])
      simp at running
  | undeliverable enqueued same clientIp =>
      have failed := statusOf (.str "error")
        (by simp [ClientConnectServer.undeliverable])
      simp at failed
  | @reported execution record member ownId reports =>
      obtain ⟨task, enqueued, own, forHost, addressed⟩ :=
        traced.orderly.atMostOnce.own execution member
      obtain ⟨result, rfl, backed⟩ := (traced.reported.genuine execution member).success own
        (traced.running task enqueued) reports statusOf
      refine ⟨task, enqueued, execution, member, result, ?_, forHost, addressed, own, reports,
        carries "result" result (by simp) (by simp [TaskController.succeeded]), backed⟩
      simpa [own, Json.taskId?, task.identified] using ownId

/-- The scan that is in the table as a success was carried out. -/
theorem scan_carried_out :
    Accounted (fun _ => Client.idleController) scannedHost ∧
    ∃ task ∈ scannedHost.server.enqueued, ∃ execution ∈ scannedHost.executed, ∃ result,
      task.taskId = "t" ∧ task.forSwitch = false ∧
        task.clientIp? = some execution.client ∧ execution.task = .obj task.data ∧
        execution.report = some (.obj (TaskController.succeeded task.data result)) ∧
        Fields.get? scannedRow.fields "result" = some result ∧ execution.Backed task.data := by
  have rows := scannedHost_leaves.1.2.2
  have stored : scannedRow ∈ scannedHost.server.operationTaskData := by simp [rows]
  have runs : run (step scanJson) (init [] fun _ => Client.idleController) (connects ++ scanned) =
      scannedHost := by
    rw [run_append, ← connectedHost, ← scannedHost]
  exact successes_are_genuine scanJson_rejectsEmpty [] _ _ runs scannedHost_trusted stored
    (by simp) (by rfl) (by rfl)

end Pipeline
end NetworkAdapter
