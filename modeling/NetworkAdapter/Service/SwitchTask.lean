import NetworkAdapter.Server.Dispatch

/-!
# Switch tasks and the creation of tasks

`service/switch_task_service.py` over the table `operation_task_data`, and the
machine whose steps are the two ways a task is created: `create_task` for hosts
and `create_switch_task` for switches. Drawn ids, clock readings, the answers of
the controller and the success of the database writes are arguments.
-/

namespace NetworkAdapter

namespace SwitchTaskService

/-- `icmp_drop` once the controller has answered; no answer is `None`. -/
def icmpDrop (dropIcmpResult : Json) : Except PyError (Json × Json) := do
  let status ← dropIcmpResult.subscript "status"
  let data ← dropIcmpResult.subscript "data"
  pure (status, data)

/-- `execute_switch_task`; `post` is the controller's answer to a datapath id and a protocol. -/
def executeSwitchTask (post : Json → Json → Json) (task : JsonObject) :
    Except PyError JsonObject := do
  let params ← (Json.obj task).subscript "params"
  let dpid ← params.subscript "dpid"
  let task := Fields.set task "status" (.str "error")
  if dpid.equals .null then
    pure task
  else
    let taskName ← (Json.obj task).subscript "task_name"
    if taskName.equals (.str "host_protocol_forbid") then
      let protocol ← params.subscript "protocol"
      if protocol.equals .null then
        pure task
      else
        let (status, result) ← icmpDrop (post dpid protocol)
        pure (Fields.set (Fields.set task "status" status) "result" result)
    else
      pure task

/-- `update_switch_task`. The log line after the `try` statement reads the id once more. -/
def updateSwitchTask (taskData : JsonObject) (now : Nat) (writes : Bool) :
    Effect PyError Table Unit := do
  tryCatch
    (do
      let taskId ← Effect.ofExcept ((Json.obj taskData).subscript "task_id")
      if writes then
        modify fun table => table.asyncUpsertByKey taskData "task_id" taskId now
      else throw .storageError)
    fun _ => pure ()
  let _ ← Effect.ofExcept ((Json.obj taskData).subscript "task_id")

/-- The object `create_switch_task` stores: the caller's, with id, status and time in it. -/
def createdData (taskData : JsonObject) (taskId : String) (now : Nat) : JsonObject :=
  Fields.set (Fields.set (Fields.set taskData "task_id" (.str taskId)) "status" (.str "running"))
    "timestamp" (.number now)

/-- What both handlers of `create_switch_task` store into the object. -/
def failed (message : PyError → String) (taskData : JsonObject) (error : PyError) : JsonObject :=
  Fields.set (Fields.set taskData "status" (.str "error")) "message" (.str (message error))

/-- The first `try` statement of `create_switch_task`: the object it leaves. -/
def storeTask (message : PyError → String) (data : JsonObject) (stores : Bool) :
    Effect PyError Table JsonObject :=
  tryCatch
    (do
      if stores then
        modify fun table => table.asyncWrite data
      else throw .storageError
      -- The log line names id and player.
      let _ ← Effect.ofExcept ((Json.obj data).subscript "task_id")
      let _ ← Effect.ofExcept ((Json.obj data).subscript "player")
      pure data)
    fun error => pure (failed message data error)

/-- The second `try` statement of `create_switch_task`: the object it leaves. -/
def attemptTask (message : PyError → String) (post : Json → Json → Json) (data : JsonObject) :
    JsonObject :=
  match executeSwitchTask post data with
  | .ok executed => executed
  | .error error => failed message data error

/-- `create_switch_task`, with the value `generate_task_id` returned; `message` is
`str` of an exception. -/
def createSwitchTask (message : PyError → String) (post : Json → Json → Json)
    (taskData : JsonObject) (taskId : String) (now : Nat) (stores : Bool) (updatedAt : Nat)
    (updates : Bool) : Effect PyError Table JsonObject := do
  let data ← storeTask message (createdData taskData taskId now) stores
  let data := attemptTask message post data
  updateSwitchTask data updatedAt updates
  -- The upsert stamped the object it was given.
  pure (Table.timestamped data updatedAt)

@[simp] theorem createdData_identified (taskData : JsonObject) (taskId : String) (now : Nat) :
    Fields.get? (createdData taskData taskId now) "task_id" = some (.str taskId) := by
  simp [createdData]

@[simp] theorem failed_identified (message : PyError → String) (taskData : JsonObject)
    (error : PyError) :
    Fields.get? (failed message taskData error) "task_id" = Fields.get? taskData "task_id" := by
  simp [failed]

/-- Executing a task stores a status, and possibly a result, and nothing else. -/
theorem executeSwitchTask_ok {post : Json → Json → Json} {task executed : JsonObject}
    (returned : executeSwitchTask post task = .ok executed) :
    executed = Fields.set task "status" (.str "error") ∨
      ∃ status result, executed =
        Fields.set (Fields.set (Fields.set task "status" (.str "error")) "status" status)
          "result" result := by
  obtain ⟨params, _, returned⟩ := ok_of_bind returned
  obtain ⟨dpid, _, returned⟩ := ok_of_bind returned
  split at returned
  · exact .inl (Except.ok.inj returned).symm
  · obtain ⟨taskName, _, returned⟩ := ok_of_bind returned
    split at returned
    · obtain ⟨protocol, _, returned⟩ := ok_of_bind returned
      split at returned
      · exact .inl (Except.ok.inj returned).symm
      · obtain ⟨⟨status, result⟩, _, returned⟩ := ok_of_bind returned
        exact .inr ⟨status, result, (Except.ok.inj returned).symm⟩
    · exact .inl (Except.ok.inj returned).symm

/-- Executing a task does not touch its id. -/
theorem executeSwitchTask_identified {post : Json → Json → Json} {task executed : JsonObject}
    (returned : executeSwitchTask post task = .ok executed) :
    Fields.get? executed "task_id" = Fields.get? task "task_id" := by
  rcases executeSwitchTask_ok returned with rfl | ⟨status, result, rfl⟩ <;> simp

theorem attemptTask_identified (message : PyError → String) (post : Json → Json → Json)
    (data : JsonObject) :
    Fields.get? (attemptTask message post data) "task_id" = Fields.get? data "task_id" := by
  unfold attemptTask
  split
  · next executed returned => exact executeSwitchTask_identified returned
  · exact failed_identified message data _

/-- The record is there if the write succeeded, whatever the log line then meets. -/
theorem storeTask_run (message : PyError → String) {data : JsonObject} {taskId : Json}
    (identified : Fields.get? data "task_id" = some taskId) (stores : Bool) (table : Table) :
    ∃ kept, (kept = data ∨ ∃ error, kept = failed message data error) ∧
      (storeTask message data stores).run table =
        .ok kept (if stores then table.asyncWrite data else table) := by
  cases stores with
  | false => exact ⟨_, .inr ⟨.storageError, rfl⟩, by simp [storeTask]⟩
  | true =>
      cases player : Fields.get? data "player" with
      | none =>
          exact ⟨_, .inr ⟨.keyError "player", rfl⟩,
            by simp [storeTask, Json.subscript, identified, player]⟩
      | some name =>
          exact ⟨data, .inl rfl, by simp [storeTask, Json.subscript, identified, player]⟩

theorem updateSwitchTask_run {taskData : JsonObject} {taskId : Json}
    (identified : Fields.get? taskData "task_id" = some taskId) (now : Nat) (writes : Bool)
    (table : Table) :
    (updateSwitchTask taskData now writes).run table =
      .ok () (if writes then table.asyncUpsertByKey taskData "task_id" taskId now else table) := by
  cases writes <;> simp [updateSwitchTask, Json.subscript, identified]

/-- The call returns. The record is stored if the first write succeeds, and updated if the
second one does, by an upsert of the object which the attempt leaves. -/
theorem createSwitchTask_returns (message : PyError → String) (post : Json → Json → Json)
    (taskData : JsonObject) (taskId : String) (now : Nat) (stores : Bool) (updatedAt : Nat)
    (updates : Bool) (table : Table) :
    let created := createdData taskData taskId now
    ∃ kept, (kept = created ∨ ∃ error, kept = failed message created error) ∧
      (createSwitchTask message post taskData taskId now stores updatedAt updates).run table =
        .ok (Table.timestamped (attemptTask message post kept) updatedAt)
          (let after := if stores then table.asyncWrite created else table
          if updates then
            after.asyncUpsertByKey (attemptTask message post kept) "task_id" (.str taskId) updatedAt
          else after) := by
  intro created
  obtain ⟨kept, from_created, stored⟩ :=
    storeTask_run message (createdData_identified taskData taskId now) stores table
  have identified : Fields.get? kept "task_id" = some (.str taskId) := by
    rcases from_created with rfl | ⟨error, rfl⟩ <;> simp
  have attempted : Fields.get? (attemptTask message post kept) "task_id" = some (.str taskId) := by
    rw [attemptTask_identified, identified]
  refine ⟨kept, from_created, ?_⟩
  simp [createSwitchTask, stored, updateSwitchTask_run attempted, created]

/-- In particular the object of the update still has the id it was given. -/
theorem createSwitchTask_run (message : PyError → String) (post : Json → Json → Json)
    (taskData : JsonObject) (taskId : String) (now : Nat) (stores : Bool) (updatedAt : Nat)
    (updates : Bool) (table : Table) :
    ∃ data, Fields.get? data "task_id" = some (.str taskId) ∧
      (createSwitchTask message post taskData taskId now stores updatedAt updates).run table =
        .ok (Table.timestamped data updatedAt)
          (let after :=
            if stores then table.asyncWrite (createdData taskData taskId now) else table
          if updates then after.asyncUpsertByKey data "task_id" (.str taskId) updatedAt
          else after) := by
  obtain ⟨kept, from_created, returned⟩ := createSwitchTask_returns message post taskData taskId
    now stores updatedAt updates table
  refine ⟨attemptTask message post kept, ?_, returned⟩
  rcases from_created with rfl | ⟨error, rfl⟩ <;> simp [attemptTask_identified]

theorem createSwitchTask_leaves (message : PyError → String) (post : Json → Json → Json)
    (taskData : JsonObject) (taskId : String) (now : Nat) (stores : Bool) (updatedAt : Nat)
    (updates : Bool) (table : Table) :
    ∃ data, Fields.get? data "task_id" = some (.str taskId) ∧
      (createSwitchTask message post taskData taskId now stores updatedAt updates).leaves table =
        let after :=
          if stores then table.asyncWrite (createdData taskData taskId now) else table
        if updates then after.asyncUpsertByKey data "task_id" (.str taskId) updatedAt
        else after := by
  obtain ⟨data, identified, returned⟩ := createSwitchTask_run message post taskData taskId now
    stores updatedAt updates table
  exact ⟨data, identified, Effect.leaves_of_ok returned⟩

end SwitchTaskService
end NetworkAdapter
