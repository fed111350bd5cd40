import NetworkAdapter.Store.SortedReads
import NetworkAdapter.Service.Lookup

/-!
# Tasks in the order of time

Updates and the tasks of switches carry a timestamp into `operation_task_data`, the tasks
that the server creates for hosts only if their sender put one in. The table can be read in
the order of time as long as the sender does.
-/

namespace NetworkAdapter

open Execution

theorem Json.lessThan_of_numeric {left right : Json} {first second : Rat}
    (numeric : left.numeric? = some first) (numeric' : right.numeric? = some second) :
    left.lessThan right = .ok (decide (first < second)) := by
  cases left <;> simp [Json.numeric?] at numeric <;>
    simp [Json.lessThan, Json.lessNumber, numeric', numeric]

theorem Json.proper_of_numeric {value : Json} {number : Rat}
    (numeric : value.numeric? = some number) : value.Proper := by
  cases value <;> simp [Json.numeric?] at numeric <;> trivial

/-- The object has a number as its timestamp. -/
def HasTime (fields : JsonObject) : Prop :=
  ∃ time number, Fields.get? fields "timestamp" = some time ∧ time.numeric? = some number

namespace Table

/-- Every record has a number as its timestamp. -/
def Dated (table : Table) : Prop := ∀ row ∈ table, HasTime row.fields

theorem timestamped_hasTime (data : JsonObject) (now : Nat) : HasTime (timestamped data now) :=
  ⟨.number now, now, by simp, rfl⟩

theorem Dated.properTimestamps {table : Table} (dated : table.Dated) :
    table.ProperTimestamps := by
  intro row member time stamped
  obtain ⟨time', number, found, numeric⟩ := dated row member
  obtain rfl : time' = time :=
    Option.some.inj (found.symm.trans (Json.subscript_obj_eq_ok.mp stamped))
  exact Json.proper_of_numeric numeric

/-- Numbers can be compared. -/
theorem Dated.sortable {rows : Table} (dated : rows.Dated) : rows.Sortable where
  stamped := by
    intro row member
    obtain ⟨time, _, found, _⟩ := dated row member
    exact ⟨time, Json.subscript_obj_eq_ok.mpr found⟩
  comparable := by
    refine List.pairwise_of_forall_mem_list fun row member other member' => ?_
    obtain ⟨time, _, found, numeric⟩ := dated row member
    obtain ⟨time', _, found', numeric'⟩ := dated other member'
    exact ⟨time, time', _, Json.subscript_obj_eq_ok.mpr found, Json.subscript_obj_eq_ok.mpr found',
      Json.lessThan_of_numeric numeric numeric'⟩

/-- Every read of a dated table in the order of time returns what it should. -/
theorem Dated.readsInOrder {table : Table} (dated : table.Dated) (limit : Int)
    (fieldName : Option String) (fieldValue : Json) :
    table.ReadsInOrder limit fieldName fieldValue := by
  rw [readsInOrder_iff dated.properTimestamps]
  have inside : (table.selected fieldName fieldValue).Dated :=
    fun row member => dated row (mem_of_mem_selected member)
  exact inside.sortable

theorem Dated.insert {table : Table} (dated : table.Dated) {data : JsonObject}
    (timed : HasTime data) : (table.insert data).Dated := by
  intro row member
  rcases List.mem_append.mp member with before | last
  · exact dated row before
  · rw [List.mem_singleton.mp last]
    exact timed

/-- An upsert stamps the records it writes. -/
theorem Dated.upsert {table : Table} (dated : table.Dated) (data : JsonObject)
    (fieldName : String) (value : Json) (now : Nat) :
    (table.asyncUpsertByKey data fieldName value now).Dated := by
  unfold asyncUpsertByKey
  split
  · intro row member
    obtain ⟨before, inside, rfl⟩ := List.mem_map.mp member
    split
    · exact ⟨.number now, now, by simp, rfl⟩
    · exact dated before inside
  · exact dated.insert (timestamped_hasTime data now)

end Table

namespace TaskEvent

/-- If the event has the server create a task and store it, the task comes with a number as
its timestamp. -/
def DatesTask : TaskEvent → Prop
  | .created (.createTask taskData _ writes) => writes = true → HasTime taskData
  | .served (.createTask taskData _ writes) => writes = true → HasTime taskData
  | _ => True

theorem createTask_dated {server : ClientConnectServer} (dated : server.operationTaskData.Dated)
    {taskData : JsonObject} {writes : Bool} (timed : writes = true → HasTime taskData)
    (taskId : String) :
    ((ClientConnectServer.createTask taskData taskId writes).leaves
      server).operationTaskData.Dated := by
  rw [ClientConnectServer.createTask_table]
  split
  · next stores =>
      obtain ⟨time, number, found, numeric⟩ := timed stores
      exact dated.insert ⟨time, number, by simp [ClientConnectServer.createdData, found], numeric⟩
  · exact dated

theorem step_dated (message : PyError → String) (codec : TextCodec) {server : ClientConnectServer}
    (dated : server.operationTaskData.Dated) {event : TaskEvent} (dates : event.DatesTask) :
    (step message codec server event).operationTaskData.Dated := by
  cases event with
  | created creation =>
      cases creation with
      | createTask taskData taskId writes => exact createTask_dated dated dates taskId
      | createSwitchTask taskData taskId now stores post updatedAt updates =>
          obtain ⟨data, _, left⟩ := SwitchTaskService.createSwitchTask_leaves message post taskData
            taskId now stores updatedAt updates server.operationTaskData
          have created : HasTime (SwitchTaskService.createdData taskData taskId now) :=
            ⟨.number now, now, by simp [SwitchTaskService.createdData], rfl⟩
          simp only [step, Creation.create, left]
          cases stores <;> cases updates
          · exact dated
          · exact dated.upsert data _ _ _
          · exact dated.insert created
          · exact (dated.insert created).upsert data _ _ _
  | served event =>
      by_cases creates : ∃ taskData taskId writes, event = .createTask taskData taskId writes
      · obtain ⟨taskData, taskId, writes, rfl⟩ := creates
        exact createTask_dated dated dates taskId
      · have other : ∀ taskData taskId writes, event ≠ .createTask taskData taskId writes :=
          fun taskData taskId writes same => creates ⟨taskData, taskId, writes, same⟩
        rcases step_upserted codec server other with same | ⟨data, taskId, now, _, upserted⟩
        · rw [step, same]
          exact dated
        · rw [step, upserted]
          exact dated.upsert data _ _ _

/-- As long as every task that the server stores comes with a timestamp, all reads of the
table in the order of time return what they should; and a read of any table does exactly if
the documents that match have timestamps, any two of which can be compared. -/
theorem reads_in_order_iff (message : PyError → String) (codec : TextCodec) :
    (∀ events : List TaskEvent, (∀ event ∈ events, event.DatesTask) →
      Along (step message codec)
        (fun server => ∀ limit fieldName fieldValue,
          server.operationTaskData.ReadsInOrder limit fieldName fieldValue)
        (ClientConnectServer.init []) events) ∧
    ∀ (table : Table) (limit : Int) (fieldName : Option String) (fieldValue : Json),
      table.ProperTimestamps → (table.ReadsInOrder limit fieldName fieldValue ↔
        (table.selected fieldName fieldValue).Sortable) := by
  refine ⟨fun events dates => ?_, fun table limit fieldName fieldValue proper =>
    Table.readsInOrder_iff proper limit fieldName fieldValue⟩
  have initial : (ClientConnectServer.init []).operationTaskData.Dated := by
    intro row member
    cases member
  have each : Each (step message codec) (fun _ event => event.DatesTask)
      (ClientConnectServer.init []) events := each_of_forall dates
  have preserved : ∀ (server : ClientConnectServer) (event : TaskEvent),
      server.operationTaskData.Dated → event.DatesTask →
        (step message codec server event).operationTaskData.Dated :=
    fun _ _ dated dates => step_dated message codec dated dates
  exact (along_of_each preserved initial each).mono fun server dated => dated.readsInOrder

/-- A task is created and stored, and the table is read in the order of time: there is no
timestamp to sort by. -/
theorem created_task_unsortable :
    let table := (run (step (fun _ => "") ClientConnectServer.heartbeatCodec)
      (ClientConnectServer.init [])
      [.created (.createTask [("player", .str "attacker")] "3fa2c1" true)]).operationTaskData
    table.asyncReadSortByTimestamp 0 true none .null = .error (.keyError "timestamp") ∧
      ¬ table.ReadsInOrder 0 none .null := by
  intro table
  have raises : table.asyncReadSortByTimestamp 0 true none .null =
    .error (.keyError "timestamp") := rfl
  refine ⟨raises, ?_⟩
  rintro ⟨sorted, _, _, returns⟩
  rw [raises] at returns
  cases returns

end TaskEvent
end NetworkAdapter
