import NetworkAdapter.Server.Delivery
import NetworkAdapter.Store.Upsert

/-!
# What is filed under a task

Three things reach the table of tasks: new tasks, the tasks of absent clients, and results.
An upsert merges what it writes into the rows of the same id, so what one result has written
stays there until another record with this id comes.
-/

namespace NetworkAdapter

/-- The first has every field of the second, but for its time stamp. -/
def JsonObject.Extends (fields record : JsonObject) : Prop :=
  ∀ key value, key ≠ "timestamp" → Fields.get? record key = some value →
    Fields.get? fields key = some value

/-- A row of the task extends the record. -/
def Table.Files (taskId : String) (record : JsonObject) (table : Table) : Prop :=
  ∃ row ∈ table, Fields.get? row.fields "task_id" = some (.str taskId) ∧ row.fields.Extends record

namespace Table

theorem extends_timestamped (data : JsonObject) (now : Nat) :
    (timestamped data now).Extends data := by
  intro key value stampless found
  simp [Ne.symm stampless, found]

theorem extends_merge (fields data : JsonObject) (now : Nat) :
    JsonObject.Extends (Fields.merge fields (timestamped data now)) data := by
  intro key value stampless found
  simp [Ne.symm stampless, found]

/-- A row after an upsert was there before it, or extends what is stored. -/
theorem mem_upsert {table : Table} {row : Row} {data : JsonObject} {fieldName : String}
    {value : Json} {now : Nat} (member : row ∈ table.asyncUpsertByKey data fieldName value now) :
    row ∈ table ∨ row.fields.Extends data := by
  unfold asyncUpsertByKey at member
  split at member
  · obtain ⟨before, earlier, rfl⟩ := List.mem_map.mp member
    split
    · exact .inr (extends_merge before.fields data now)
    · exact .inl earlier
  · rcases List.mem_append.mp member with earlier | new
    · exact .inl earlier
    · rw [List.mem_singleton.mp new]
      exact .inr (extends_timestamped data now)

namespace Files

variable {taskId : String} {record : JsonObject} {table : Table}

theorem insert (files : Files taskId record table) (data : JsonObject) :
    Files taskId record (table.insert data) := by
  obtain ⟨row, member, rest⟩ := files
  exact ⟨row, mem_insert_of_mem member data, rest⟩

/-- A record with another id, and the same record again, leave it filed. -/
theorem upsert (files : Files taskId record table) {data : JsonObject} {value : Json}
    (identified : Fields.get? data "task_id" = some value)
    (same : value = .str taskId → data = record) (now : Nat) :
    Files taskId record (table.asyncUpsertByKey data "task_id" value now) := by
  obtain ⟨row, member, named, carries⟩ := files
  obtain ⟨after, remains, _, kept⟩ := upsert_keeps member data "task_id" value now
  refine ⟨after, remains, ?_⟩
  rcases kept with unchanged | ⟨matched, merged⟩
  · rw [unchanged]
    exact ⟨named, carries⟩
  · have own : value = .str taskId := by
      simpa only [Row.matchesField, named, Json.str_equals] using matched
    have again := same own
    subst own again
    rw [merged]
    exact ⟨by simp [identified], extends_merge row.fields data now⟩

/-- A record is filed under its id. -/
theorem of_upsert (identified : Fields.get? record "task_id" = some (.str taskId))
    (table : Table) (now : Nat) :
    Files taskId record (table.asyncUpsertByKey record "task_id" (.str taskId) now) := by
  obtain ⟨after, member, shape⟩ := table.upsert_stores record "task_id" (.str taskId) now
  refine ⟨after, member, ?_⟩
  rcases shape with stamped | ⟨before, merged⟩
  · rw [stamped]
    exact ⟨by simp [identified], extends_timestamped record now⟩
  · rw [merged]
    exact ⟨by simp [identified], extends_merge before record now⟩

end Files
end Table

namespace ClientConnectServer

/-- What an event does to the table of tasks. -/
inductive Files (codec : TextCodec) (server : ClientConnectServer) (event : Event) :
    Table → Prop where
  | nothing : Files codec server event server.operationTaskData
  | created (taskData : JsonObject) (taskId : String) :
      Files codec server event (server.operationTaskData.insert (createdData taskData taskId))
  | absent {task : QueuedTask} {clientIp : String} (queued : task ∈ server.taskQueue)
      (forHost : task.forSwitch = false) (addressed : task.clientIp? = some clientIp)
      (missing : server.connectedClients.get? clientIp = none) (now : Nat) :
      Files codec server event (server.operationTaskData.asyncUpsertByKey
        (undeliverable task.data clientIp) "task_id" (.str task.taskId) now)
  | result {connection : Nat} {read : Readline} {now : Nat} {result : JsonObject} {taskId : Json}
      (reads : event = .lineRead connection read now true)
      (delivers : received codec read = some (.taskResult result taskId)) :
      Files codec server event
        (server.operationTaskData.asyncUpsertByKey result "task_id" taskId now)

/-- A record stays filed unless another one of its id is stored. -/
theorem Files.keeps {codec : TextCodec} {server : ClientConnectServer} {event : Event}
    {table : Table} (files : Files codec server event table) {taskId : String}
    {record : JsonObject} (filed : server.operationTaskData.Files taskId record)
    (absent : ∀ task ∈ server.taskQueue, ∀ clientIp, task.clientIp? = some clientIp →
      server.connectedClients.get? clientIp = none → task.taskId ≠ taskId)
    (result : ∀ connection read now result, event = .lineRead connection read now true →
      received codec read = some (.taskResult result (.str taskId)) → result = record) :
    table.Files taskId record := by
  cases files with
  | nothing => exact filed
  | created taskData taskId => exact filed.insert _
  | @absent task clientIp queued forHost addressed missing now =>
      refine filed.upsert (undeliverable_identified task.identified clientIp) (fun same => ?_) now
      exact absurd (Json.str.inj same) (absent task queued clientIp addressed missing)
  | @result connection read now stored value reads delivers =>
      refine filed.upsert (received_taskResult delivers) (fun same => ?_) now
      subst same
      exact result connection read now stored reads delivers

theorem takeTask_files (codec : TextCodec) {server : ClientConnectServer} {task : QueuedTask}
    {rest : List QueuedTask} (queue : server.taskQueue = task :: rest) (event : Event)
    (now : Nat) (writes : Bool) :
    Files codec server event
      (takeTask task now writes { server with taskQueue := rest }).operationTaskData := by
  have queued : task ∈ server.taskQueue := queue ▸ List.mem_cons_self
  have taken := takeTask_taken task now writes { server with taskQueue := rest }
  generalize takeTask task now writes { server with taskQueue := rest } = after at taken
  cases taken with
  | absent forHost addressed missing =>
      cases writes with
      | true => exact .absent queued forHost addressed missing now
      | false => exact .nothing
  | _ => exact .nothing

theorem readConnection_files (codec : TextCodec) (handler : Handler) (connection : Nat)
    (read : Readline) (now : Nat) (writes : Bool) (server : ClientConnectServer) :
    Files codec server (.lineRead connection read now writes)
      (readConnection codec handler read now writes server).operationTaskData := by
  have done := readConnection_done codec handler read now writes server
  generalize readConnection codec handler read now writes server = after at done
  obtain ⟨clients, equation, _⟩ := endHandler_eq handler server
  cases done with
  | malformed =>
      rw [equation]
      exact .nothing
  | unregistered =>
      rw [equation]
      exact .nothing
  | taskResult delivers =>
      cases writes with
      | true => exact .result rfl delivers
      | false => exact .nothing
  | _ => exact .nothing

/-- Every event stores one of these. -/
theorem step_files (codec : TextCodec) (server : ClientConnectServer) (event : Event) :
    Files codec server event (step codec server event).operationTaskData := by
  cases event with
  | createTask taskData taskId writes =>
      simp only [step, createTask_leaves, recorded]
      cases writes with
      | true => split <;> exact .created taskData taskId
      | false => split <;> exact .nothing
  | lineRead connection read now writes =>
      simp only [step]
      split
      · exact readConnection_files codec _ connection read now writes server
      · exact .nothing
  | taskTaken now writes =>
      simp only [step]
      split
      · next queue => exact takeTask_files codec queue _ now writes
      · exact .nothing
  | drainDone drained =>
      simp only [step]
      split
      · rw [finishDrain_leaves]
        cases drained <;> exact .nothing
      · exact .nothing
  | _ => exact .nothing

end ClientConnectServer
end NetworkAdapter
