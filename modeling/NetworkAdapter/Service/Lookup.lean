import NetworkAdapter.Service.TaskIds
import NetworkAdapter.Server.Delivery

/-!
# Looking a task up by its id

`get_task_result_by_task_id` of `controller/task_controller.py` turns its argument
into an integer, before its `try` statement, and searches for that integer. Task
ids are stored as texts, and no text equals a number.
-/

namespace NetworkAdapter

open Execution

namespace TaskController

/-- The view's answer with records. -/
def success (data : List Json) : Json := .obj [("status", .str "success"), ("data", .arr data)]

/-- The view's answer without. -/
def failure (message : String) : Json :=
  .obj [("status", .str "error"), ("message", .str message)]

/-- `get_task_result_by_task_id` with the query argument `task_id`, which may be
missing; `int` is the language's conversion of a text. -/
def getTaskResultByTaskId (int : String → Except PyError Int) (taskId : Option String)
    (operationTaskData : Table) : Except PyError Json := do
  let taskId ← match taskId with
    | some text => int text
    | none => .error .typeError
  tryCatch
    (match operationTaskData.asyncReadByKeyValue "task_id" (.number taskId) with
      | some result => .ok (success result)
      | none => do
          let message ← concatText "task no exit:" (.number taskId)
          .ok (failure message))
    fun _ => .ok (failure "No data  available")

/-- What the view owes a text: the records stored under it, or an error response. -/
def LooksUp (int : String → Except PyError Int) (operationTaskData : Table) (text : String) :
    Prop :=
  (∀ row ∈ operationTaskData, row.taskId = some text →
    ∃ data, getTaskResultByTaskId int (some text) operationTaskData = .ok (success data) ∧
      Json.obj row.fields ∈ data) ∧
  (some text ∉ operationTaskData.taskIds →
    ∃ message, getTaskResultByTaskId int (some text) operationTaskData = .ok (failure message))

/-- A refused text raises; an accepted one gets the records of that number, if any. -/
theorem getTaskResultByTaskId_eq (int : String → Except PyError Int) (text : String)
    (operationTaskData : Table) :
    getTaskResultByTaskId int (some text) operationTaskData =
      match int text with
      | .error error => .error error
      | .ok number =>
          match operationTaskData.asyncReadByKeyValue "task_id" (.number number) with
          | some result => .ok (success result)
          | none => .ok (failure "No data  available") := by
  unfold getTaskResultByTaskId
  cases converted : int text with
  | error error => simp [converted, bind, Except.bind]
  | ok number =>
      -- Without records the message is a text plus a number, which raises inside the `try`.
      cases found : operationTaskData.asyncReadByKeyValue "task_id" (.number number) <;>
        simp [converted, found, concatText, bind, Except.bind, tryCatch, tryCatchThe,
          MonadExceptOf.tryCatch, Except.tryCatch]

/-- A record found by a number carries no text as its id. -/
theorem found_taskId {operationTaskData : Table} {number : Int} {result : List Json}
    (found : operationTaskData.asyncReadByKeyValue "task_id" (.number number) = some result)
    {row : Row} (member : Json.obj row.fields ∈ result) : row.taskId = none := by
  unfold Table.asyncReadByKeyValue at found
  dsimp only at found
  split at found
  · obtain rfl := Option.some.inj found
    obtain ⟨other, kept, same⟩ := List.mem_map.mp member
    have matched := (List.mem_filter.mp kept).2
    rw [Row.matchesField, Json.obj.inj same] at matched
    unfold Row.taskId
    split
    · next text stored => simp [stored, Json.equals] at matched
    · rfl
  · cases found

theorem read_eq_none_iff {operationTaskData : Table} {number : Int} :
    operationTaskData.asyncReadByKeyValue "task_id" (.number number) = none ↔
      ∀ row ∈ operationTaskData, row.matchesField "task_id" (.number number) = false := by
  simp [Table.asyncReadByKeyValue]

theorem failure_ne_success (message : String) (data : List Json) :
    success data ≠ failure message := by
  simp [success, failure]

/-- The view does right by a text exactly if no record is stored under it, the
conversion accepts it, and no record carries the number it is converted to. -/
theorem looksUp_iff (int : String → Except PyError Int) (operationTaskData : Table)
    (text : String) :
    LooksUp int operationTaskData text ↔
      some text ∉ operationTaskData.taskIds ∧ ∃ number, int text = .ok number ∧
        ∀ row ∈ operationTaskData, row.matchesField "task_id" (.number number) = false := by
  constructor
  · rintro ⟨recorded, unknown⟩
    have absent : some text ∉ operationTaskData.taskIds := by
      intro stored
      obtain ⟨row, member, carried⟩ := List.mem_map.mp stored
      obtain ⟨data, answered, listed⟩ := recorded row member carried
      rw [getTaskResultByTaskId_eq] at answered
      split at answered
      · cases answered
      · split at answered
        · next result found =>
            have same : success result = success data := Except.ok.inj answered
            simp only [success, Json.obj.injEq, List.cons.injEq, Prod.mk.injEq, Json.arr.injEq,
              true_and, and_true] at same
            rw [← same] at listed
            rw [found_taskId found listed] at carried
            cases carried
        · exact failure_ne_success _ _ (Except.ok.inj answered).symm
    obtain ⟨message, answered⟩ := unknown absent
    refine ⟨absent, ?_⟩
    rw [getTaskResultByTaskId_eq] at answered
    split at answered
    · cases answered
    · next number converted =>
        refine ⟨number, converted, read_eq_none_iff.mp ?_⟩
        split at answered
        · exact absurd (Except.ok.inj answered) (failure_ne_success _ _)
        · next missing => exact missing
  · rintro ⟨absent, number, converted, missing⟩
    refine ⟨fun row member carried => absurd (List.mem_map.mpr ⟨row, member, carried⟩) absent,
      fun _ => ⟨"No data  available", ?_⟩⟩
    simp only [getTaskResultByTaskId_eq, converted, read_eq_none_iff.mpr missing]

end TaskController

/-- What happens to `operation_task_data`: a creation by server or service, or any
other event of the server. -/
inductive TaskEvent where
  | created (creation : Creation)
  | served (event : ClientConnectServer.Event)

namespace TaskEvent

/-- One event. -/
def step (message : PyError → String) (codec : TextCodec) (server : ClientConnectServer) :
    TaskEvent → ClientConnectServer
  | .created creation => creation.create message server
  | .served event => ClientConnectServer.step codec server event

/-- The id under which the event creates a task and stores it. -/
def storedId : TaskEvent → Option String
  | .created creation => if creation.stores then some creation.taskId else none
  | .served (.createTask _ taskId writes) => if writes then some taskId else none
  | .served _ => none

/-- The ways an event of the server can treat the table. -/
inductive Treats (before : Table) : Table → Prop where
  | leaves : Treats before before
  | inserts (data : JsonObject) : Treats before (before.insert data)
  | upserts {data : JsonObject} {taskId : Json} (now : Nat)
      (identified : Fields.get? data "task_id" = some taskId) :
      Treats before (before.asyncUpsertByKey data "task_id" taskId now)

/-- The table stays, or an upsert by a task id changes it. -/
def Upserted (before after : Table) : Prop :=
  after = before ∨ ∃ data taskId now, Fields.get? data "task_id" = some taskId ∧
    after = before.asyncUpsertByKey data "task_id" taskId now

theorem Upserted.treats {before after : Table} (upserted : Upserted before after) :
    Treats before after := by
  rcases upserted with rfl | ⟨data, taskId, now, identified, rfl⟩
  · exact .leaves
  · exact .upserts now identified

theorem stored_upserted {data : JsonObject} {taskId : Json}
    (identified : Fields.get? data "task_id" = some taskId) (now : Nat) (writes : Bool)
    (server : ClientConnectServer) :
    Upserted server.operationTaskData
      (ClientConnectServer.stored writes now data taskId server).operationTaskData := by
  cases writes with
  | false => exact .inl rfl
  | true => exact .inr ⟨data, taskId, now, identified, rfl⟩

/-- No event of the server but a creation inserts a record as it was given. -/
theorem step_upserted (codec : TextCodec) (server : ClientConnectServer)
    {event : ClientConnectServer.Event}
    (other : ∀ taskData taskId writes, event ≠ .createTask taskData taskId writes) :
    Upserted server.operationTaskData
      (ClientConnectServer.step codec server event).operationTaskData := by
  cases event with
  | createTask taskData taskId writes => exact absurd rfl (other taskData taskId writes)
  | connectionOpened clientIp clientPort now => exact .inl rfl
  | lineRead connection read now writes =>
      simp only [ClientConnectServer.step]
      split
      · next handler _ =>
          have done := ClientConnectServer.readConnection_done codec handler read now writes server
          generalize ClientConnectServer.readConnection codec handler read now writes server =
            after at done
          obtain ⟨clients, equation, _⟩ := ClientConnectServer.endHandler_eq handler server
          cases done with
          | malformed => rw [equation]; exact .inl rfl
          | unregistered => rw [equation]; exact .inl rfl
          | heartbeat => exact .inl rfl
          | taskResult delivers =>
              exact stored_upserted (ClientConnectServer.received_taskResult delivers) now writes
                server
          | other => exact .inl rfl
      · exact .inl rfl
  | transportClosing connection => exact .inl rfl
  | taskTaken now writes =>
      simp only [ClientConnectServer.step]
      split
      · next task rest _ _ =>
          have taken := ClientConnectServer.takeTask_taken task now writes
            { server with taskQueue := rest }
          generalize ClientConnectServer.takeTask task now writes
            { server with taskQueue := rest } = after at taken
          cases taken with
          | absent =>
              exact stored_upserted (ClientConnectServer.undeliverable_identified task.identified _)
                now writes { server with taskQueue := rest }
          | _ => exact .inl rfl
      · exact .inl rfl
  | drainDone drained =>
      simp only [ClientConnectServer.step]
      split
      · rw [ClientConnectServer.finishDrain_leaves]
        cases drained <;> exact .inl rfl
      · exact .inl rfl

/-- Every event of the server treats the table in one of these ways. -/
theorem step_treats (codec : TextCodec) (server : ClientConnectServer)
    (event : ClientConnectServer.Event) :
    Treats server.operationTaskData
      (ClientConnectServer.step codec server event).operationTaskData := by
  cases event with
  | createTask taskData taskId writes =>
      rw [ClientConnectServer.step, ClientConnectServer.createTask_table]
      cases writes with
      | false => exact .leaves
      | true => exact .inserts _
  | _ => exact (step_upserted codec server (by simp)).treats

/-- A stored text id stays: an upsert that reaches its record was made with that id. -/
theorem Treats.keeps {before after : Table} (treats : Treats before after) {taskId : String}
    (stored : some taskId ∈ before.taskIds) : some taskId ∈ after.taskIds := by
  obtain ⟨row, member, carried⟩ := List.mem_map.mp stored
  have identified := Row.taskId_eq_some.mp carried
  cases treats with
  | leaves => exact stored
  | inserts data => exact List.mem_map.mpr ⟨row, Table.mem_insert_of_mem member data, carried⟩
  | upserts now written =>
      obtain ⟨kept, keptMember, _, fields⟩ := Table.upsert_keeps member _ "task_id" _ now
      refine List.mem_map.mpr ⟨kept, keptMember, Row.taskId_eq_some.mpr ?_⟩
      rcases fields with same | ⟨matched, merged⟩
      · rw [same, identified]
      · rw [Row.matchesField, identified] at matched
        have given := (Json.str_equals taskId _).mp matched
        simp [merged, written, given]

/-- No event takes a stored text id out of the table. -/
theorem step_keeps (message : PyError → String) (codec : TextCodec) (server : ClientConnectServer)
    (event : TaskEvent) {taskId : String}
    (stored : some taskId ∈ server.operationTaskData.taskIds) :
    some taskId ∈ (step message codec server event).operationTaskData.taskIds := by
  cases event with
  | created creation =>
      rw [step, Creation.create_taskIds]
      split
      · exact List.mem_append_left _ stored
      · exact stored
  | served event => exact (step_treats codec server event).keeps stored

theorem run_keeps (message : PyError → String) (codec : TextCodec) (events : List TaskEvent)
    (server : ClientConnectServer) {taskId : String}
    (stored : some taskId ∈ server.operationTaskData.taskIds) :
    some taskId ∈ (run (step message codec) server events).operationTaskData.taskIds := by
  induction events generalizing server with
  | nil => exact stored
  | cons event rest inductionHypothesis =>
      exact inductionHypothesis _ (step_keeps message codec server event stored)

/-- An event that stores a task puts its id into the table. -/
theorem step_stores (message : PyError → String) (codec : TextCodec) (server : ClientConnectServer)
    {event : TaskEvent} {taskId : String} (stores : event.storedId = some taskId) :
    some taskId ∈ (step message codec server event).operationTaskData.taskIds := by
  have creates : ∀ creation : Creation, creation.stores = true → some creation.taskId ∈
      (creation.create message server).operationTaskData.taskIds := by
    intro creation writes
    rw [Creation.create_taskIds, if_pos (.inl writes)]
    exact List.mem_append_right _ (List.mem_singleton_self _)
  cases event with
  | created creation =>
      simp only [storedId, Option.ite_none_right_eq_some, Option.some.injEq] at stores
      obtain ⟨writes, rfl⟩ := stores
      exact creates creation writes
  | served event =>
      cases event with
      | createTask taskData drawn writes =>
          simp only [storedId, Option.ite_none_right_eq_some, Option.some.injEq] at stores
          obtain ⟨writes, rfl⟩ := stores
          exact creates (.createTask taskData drawn _) writes
      | _ => cases stores

/-- In no run is a stored task found: its id stays in the table, and the view answers
rightly only for the texts which are no record's id, which the conversion accepts and
whose number is no record's id either. -/
theorem lookup_right_iff (int : String → Except PyError Int) (message : PyError → String)
    (codec : TextCodec) (table : Table) (events : List TaskEvent) :
    let after :=
      (run (step message codec) (ClientConnectServer.init table) events).operationTaskData
    (∀ event ∈ events, ∀ taskId, event.storedId = some taskId → some taskId ∈ after.taskIds) ∧
      ∀ text, TaskController.LooksUp int after text ↔
        some text ∉ after.taskIds ∧ ∃ number, int text = .ok number ∧
          ∀ row ∈ after, row.matchesField "task_id" (.number number) = false := by
  refine ⟨fun event member taskId stores => ?_,
    fun text => TaskController.looksUp_iff int _ text⟩
  obtain ⟨earlier, later, rfl⟩ := List.append_of_mem member
  rw [run_append, run_cons]
  exact run_keeps message codec later _ (step_stores message codec _ stores)

/-- The value of decimal digits, single underscores between them, after a first digit. -/
def digitsValue (value : Nat) : List Char → Option Nat
  | [] => some value
  | '_' :: digit :: rest =>
      if digit.isDigit then digitsValue (10 * value + (digit.toNat - 48)) rest else none
  | digit :: rest =>
      if digit.isDigit then digitsValue (10 * value + (digit.toNat - 48)) rest else none

/-- The conversion on ASCII texts: blanks around it, a sign, digits. -/
def asciiInt (text : String) : Except PyError Int :=
  let body := ((text.toList.dropWhile Char.isWhitespace).reverse.dropWhile
    Char.isWhitespace).reverse
  let unsigned (digits : List Char) : Option Nat :=
    match digits with
    | first :: rest => if first.isDigit then digitsValue (first.toNat - 48) rest else none
    | [] => none
  let number : Option Int :=
    match body with
    | '-' :: digits => (unsigned digits).map fun value => -value
    | '+' :: digits => (unsigned digits).map Int.ofNat
    | digits => (unsigned digits).map Int.ofNat
  match number with
  | some value => .ok value
  | none => .error .valueError

/-- A task stored under an id with letters: the lookup raises. One stored under digits
alone: the lookup does not find it. -/
theorem stored_tasks_not_found :
    let after := (run (step (fun _ => "") ClientConnectServer.heartbeatCodec)
      (ClientConnectServer.init [])
      [.created (.createTask [("player", .str "attacker")] "3fa2c1" true),
        .created (.createTask [("player", .str "attacker")] "402117" true)]).operationTaskData
    TaskController.getTaskResultByTaskId asciiInt (some "3fa2c1") after = .error .valueError ∧
      TaskController.getTaskResultByTaskId asciiInt (some "402117") after =
        .ok (TaskController.failure "No data  available") ∧
      ¬ TaskController.LooksUp asciiInt after "3fa2c1" ∧
      ¬ TaskController.LooksUp asciiInt after "402117" := by
  refine ⟨rfl, rfl, fun looksUp => ?_, fun looksUp => ?_⟩
  · exact ((TaskController.looksUp_iff asciiInt _ _).mp looksUp).1 (by decide +kernel)
  · exact ((TaskController.looksUp_iff asciiInt _ _).mp looksUp).1 (by decide +kernel)

end TaskEvent
end NetworkAdapter
