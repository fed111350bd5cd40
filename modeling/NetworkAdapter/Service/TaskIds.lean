import NetworkAdapter.Service.SwitchTask
import NetworkAdapter.Semantics.Execution

/-!
# What a task id identifies

`generate_task_id` keeps six digits of a hash and looks at no row, so nothing
stops a draw from repeating one. The ids of `operation_task_data` stay distinct
precisely in the runs in which no call stores its record under an id that a
record already carries, and there an update changes one record.
-/

namespace NetworkAdapter

open Execution

/-- The id of a record, if it carries a text as its id. -/
def Row.taskId (row : Row) : Option String :=
  match Fields.get? row.fields "task_id" with
  | some (.str taskId) => some taskId
  | _ => none

namespace Table

/-- The ids of the records, in file order. -/
def taskIds (table : Table) : List (Option String) := table.map Row.taskId

/-- Every record carries a text as its id, and no two carry the same one. -/
structure Identified (table : Table) : Prop where
  carried : ∀ taskId ∈ table.taskIds, taskId.isSome
  distinct : table.taskIds.Nodup

/-- From `before` to `after` one record changed, the one with the given id, which it kept. -/
def ChangesOnly (taskId : String) (before after : Table) : Prop :=
  ∃ earlier row changed later, before = earlier ++ row :: later ∧
    after = earlier ++ changed :: later ∧ row.taskId = some taskId ∧
    changed.taskId = some taskId ∧ changed.docId = row.docId ∧
    ∀ other ∈ earlier ++ later, other.taskId ≠ some taskId

end Table

theorem Row.taskId_eq_some {row : Row} {taskId : String} :
    row.taskId = some taskId ↔ Fields.get? row.fields "task_id" = some (.str taskId) := by
  unfold Row.taskId
  split
  · next other found => simp [found]
  · next absent =>
      refine ⟨fun carried => (by cases carried), fun carried => absurd carried (absent taskId)⟩

/-- The search for a text id finds the records which carry it. -/
theorem Row.matches_taskId (row : Row) (taskId : String) :
    row.matchesField "task_id" (.str taskId) = decide (row.taskId = some taskId) := by
  rw [Bool.eq_iff_iff, decide_eq_true_iff, Row.taskId_eq_some]
  unfold Row.matchesField
  split
  · next found stored => simp [stored]
  · next missing => simp [missing]

namespace Table

theorem taskIds_insert (table : Table) {data : JsonObject} {taskId : String}
    (identified : Fields.get? data "task_id" = some (.str taskId)) :
    (table.insert data).taskIds = table.taskIds ++ [some taskId] := by
  have carried : Row.taskId ⟨table.nextId, data⟩ = some taskId := Row.taskId_eq_some.mpr identified
  simp [taskIds, insert, carried]

/-- Merging data with the id of the selected records into them changes no id. -/
theorem taskIds_update (table : Table) {data : JsonObject} {taskId : String}
    (identified : Fields.get? data "task_id" = some (.str taskId)) :
    (table.update data fun row => row.matchesField "task_id" (.str taskId)).taskIds =
      table.taskIds := by
  unfold taskIds update
  rw [List.map_map]
  refine List.map_congr_left fun row _ => ?_
  simp only [Function.comp_apply, Row.matches_taskId, decide_eq_true_eq]
  split
  · next carried =>
      rw [carried]
      exact Row.taskId_eq_some.mpr (by simp [identified])
  · rfl

/-- An upsert by a text id adds the id if no record carries it. -/
theorem taskIds_upsert (table : Table) {data : JsonObject} {taskId : String}
    (identified : Fields.get? data "task_id" = some (.str taskId)) (now : Nat) :
    (table.asyncUpsertByKey data "task_id" (.str taskId) now).taskIds =
      if some taskId ∈ table.taskIds then table.taskIds
      else table.taskIds ++ [some taskId] := by
  have stamped : Fields.get? (timestamped data now) "task_id" = some (.str taskId) := by
    simp [identified]
  have present : (table.any fun row => row.matchesField "task_id" (.str taskId)) =
      decide (some taskId ∈ table.taskIds) := by
    rw [Bool.eq_iff_iff]
    simp [taskIds, Row.matches_taskId]
  unfold asyncUpsertByKey
  rw [present]
  by_cases carried : some taskId ∈ table.taskIds
  · simp [carried, taskIds_update table stamped]
  · simp [carried, taskIds_insert table stamped]

/-- An update passes by the records it does not select. -/
theorem update_eq_self {table : Table} {selected : Row → Bool}
    (unselected : ∀ row ∈ table, selected row = false) (data : JsonObject) :
    table.update data selected = table := by
  unfold update
  refine (List.map_congr_left fun row member => ?_).trans (List.map_id table)
  simp [unselected row member]

theorem update_around (earlier later : Table) {row : Row} (data : JsonObject)
    (selected : Row → Bool) (chosen : selected row = true) :
    Table.update (earlier ++ row :: later) data selected =
      Table.update earlier data selected ++
        { row with fields := Fields.merge row.fields data } ::
          Table.update later data selected := by
  simp [update, chosen]

/-- Where ids are distinct, an update by a stored id changes one record. -/
theorem Identified.upsert_changesOnly {table : Table} (ids : Identified table) {taskId : String}
    (stored : some taskId ∈ table.taskIds) {data : JsonObject}
    (identified : Fields.get? data "task_id" = some (.str taskId)) (now : Nat) :
    ChangesOnly taskId table (table.asyncUpsertByKey data "task_id" (.str taskId) now) := by
  obtain ⟨row, member, carried⟩ := List.mem_map.mp stored
  obtain ⟨earlier, later, rfl⟩ := List.append_of_mem member
  have others : ∀ other ∈ earlier ++ later, other.taskId ≠ some taskId := by
    have distinct := ids.distinct
    simp only [taskIds, List.map_append, List.map_cons, List.nodup_middle] at distinct
    rw [← List.map_append, carried] at distinct
    intro other otherMember same
    exact (List.nodup_cons.mp distinct).1 (same ▸ List.mem_map_of_mem otherMember)
  have unselected : ∀ other ∈ earlier ++ later,
      other.matchesField "task_id" (.str taskId) = false := by
    intro other otherMember
    simp [Row.matches_taskId, others other otherMember]
  have found : ((earlier ++ row :: later).any fun other =>
      other.matchesField "task_id" (.str taskId)) = true :=
    List.any_eq_true.mpr ⟨row, member, by simp [Row.matches_taskId, carried]⟩
  refine ⟨earlier, row, { row with fields := Fields.merge row.fields (timestamped data now) },
    later, rfl, ?_, carried, Row.taskId_eq_some.mpr (by simp [identified]), rfl, others⟩
  unfold asyncUpsertByKey
  rw [found, if_pos rfl, update_around _ _ _ _ (by simp [Row.matches_taskId, carried]),
    update_eq_self fun other otherMember => unselected other (List.mem_append_left _ otherMember),
    update_eq_self fun other otherMember => unselected other (List.mem_append_right _ otherMember)]

end Table

/-- What `create_task` does to the table. -/
theorem ClientConnectServer.createTask_table (taskData : JsonObject) (taskId : String)
    (writes : Bool) (server : ClientConnectServer) :
    ((createTask taskData taskId writes).leaves server).operationTaskData =
      if writes then server.operationTaskData.insert (createdData taskData taskId)
      else server.operationTaskData := by
  rw [createTask_leaves]
  cases writes <;> cases (Fields.get? taskData "player").isSome <;> rfl

/-- The creation of a task: by the server for a host, by the service for a switch. -/
inductive Creation where
  | createTask (taskData : JsonObject) (taskId : String) (writes : Bool)
  | createSwitchTask (taskData : JsonObject) (taskId : String) (now : Nat) (stores : Bool)
      (post : Json → Json → Json) (updatedAt : Nat) (updates : Bool)

namespace Creation

/-- The value `generate_task_id` returned. -/
def taskId : Creation → String
  | .createTask _ taskId _ => taskId
  | .createSwitchTask _ taskId _ _ _ _ _ => taskId

/-- The `async_write` of the new record succeeds. -/
def stores : Creation → Bool
  | .createTask _ _ writes => writes
  | .createSwitchTask _ _ _ stores _ _ _ => stores

/-- The update at the end of the call succeeds; `create_task` makes none. -/
def updates : Creation → Bool
  | .createTask _ _ _ => false
  | .createSwitchTask _ _ _ _ _ _ updates => updates

/-- The server, and the table it shares with the service, after a creation. -/
def create (message : PyError → String) (server : ClientConnectServer) :
    Creation → ClientConnectServer
  | .createTask taskData taskId writes =>
      (ClientConnectServer.createTask taskData taskId writes).leaves server
  | .createSwitchTask taskData taskId now stores post updatedAt updates =>
      { server with
        operationTaskData :=
          (SwitchTaskService.createSwitchTask message post taskData taskId now stores updatedAt
            updates).leaves server.operationTaskData }

/-- No record carries the id under which the call stores its own. -/
def StoresFresh (server : ClientConnectServer) (creation : Creation) : Prop :=
  creation.stores = true → some creation.taskId ∉ server.operationTaskData.taskIds

/-- A creation adds its id, unless it stores nothing and the update finds the id there. -/
theorem create_taskIds (message : PyError → String) (server : ClientConnectServer)
    (creation : Creation) :
    (create message server creation).operationTaskData.taskIds =
      if creation.stores = true ∨
          creation.updates = true ∧ some creation.taskId ∉ server.operationTaskData.taskIds then
        server.operationTaskData.taskIds ++ [some creation.taskId]
      else server.operationTaskData.taskIds := by
  cases creation with
  | createTask taskData taskId writes =>
      have identified := ClientConnectServer.createdData_identified taskData taskId
      rw [create, ClientConnectServer.createTask_table]
      cases writes with
      | false => simp [stores, updates]
      | true => simpa [stores, Creation.taskId] using Table.taskIds_insert _ identified
  | createSwitchTask taskData taskId now stores post updatedAt updates =>
      obtain ⟨data, identified, left⟩ := SwitchTaskService.createSwitchTask_leaves message post
        taskData taskId now stores updatedAt updates server.operationTaskData
      have created := SwitchTaskService.createdData_identified taskData taskId now
      simp only [create, left, Creation.stores, Creation.updates, Creation.taskId]
      cases stores with
      | false =>
          cases updates with
          | false => simp
          | true => simp [Table.taskIds_upsert _ identified]
      | true =>
          have inserted := Table.taskIds_insert server.operationTaskData created
          cases updates with
          | false => simpa [Table.asyncWrite] using inserted
          | true => simp [Table.taskIds_upsert _ identified, Table.asyncWrite, inserted]

/-- Out of a state with distinct ids a creation keeps them distinct precisely if it
stores nothing under an id that is taken. -/
theorem create_identified_iff (message : PyError → String) {server : ClientConnectServer}
    (ids : server.operationTaskData.Identified) (creation : Creation) :
    (create message server creation).operationTaskData.Identified ↔
      StoresFresh server creation := by
  have added : (create message server creation).operationTaskData.taskIds =
      server.operationTaskData.taskIds ++ [some creation.taskId] →
      ((create message server creation).operationTaskData.Identified ↔
        some creation.taskId ∉ server.operationTaskData.taskIds) := by
    intro grown
    constructor
    · intro after
      have distinct := after.distinct
      rw [grown, List.nodup_append] at distinct
      exact fun member => distinct.2.2 _ member _ (List.mem_singleton_self _) rfl
    · intro fresh
      refine ⟨?_, ?_⟩
      · rw [grown]
        intro taskId member
        rcases List.mem_append.mp member with before | last
        · exact ids.carried taskId before
        · rw [List.mem_singleton.mp last]
          rfl
      · rw [grown, List.nodup_append]
        refine ⟨ids.distinct, List.nodup_singleton _, ?_⟩
        rintro taskId member last lastMember rfl
        exact fresh (by simpa [List.mem_singleton.mp lastMember] using member)
  have taskIds := create_taskIds message server creation
  unfold StoresFresh
  split at taskIds
  · next adds =>
      rw [added taskIds]
      rcases adds with stored | ⟨_, fresh⟩
      · simp [stored]
      · simp [fresh]
  · next nothing =>
      have unstored : ¬ creation.stores = true := fun stored => nothing (.inl stored)
      refine ⟨fun _ stored => absurd stored unstored, fun _ => ⟨?_, ?_⟩⟩
      · rw [taskIds]
        exact ids.carried
      · rw [taskIds]
        exact ids.distinct

/-- An update of a stored task, by the server or by the service, changes its record only. -/
def UpdatesApart (server : ClientConnectServer) : Prop :=
  ∀ taskId data now, some taskId ∈ server.operationTaskData.taskIds →
    Fields.get? data "task_id" = some (.str taskId) →
      Table.ChangesOnly taskId server.operationTaskData
          ((ClientConnectServer.updateTask (.obj data) now true).leaves server).operationTaskData ∧
        Table.ChangesOnly taskId server.operationTaskData
          ((SwitchTaskService.updateSwitchTask data now true).leaves server.operationTaskData)

theorem updatesApart {server : ClientConnectServer} (ids : server.operationTaskData.Identified) :
    UpdatesApart server := by
  intro taskId data now stored identified
  have changed := ids.upsert_changesOnly stored identified now
  rw [Effect.leaves_of_ok (ClientConnectServer.updateTask_run_of_id identified now true server),
    Effect.leaves_of_ok (SwitchTaskService.updateSwitchTask_run identified now true _)]
  exact ⟨changed, changed⟩

theorem init_identified : (ClientConnectServer.init []).operationTaskData.Identified where
  carried := by simp [ClientConnectServer.init, Table.taskIds]
  distinct := List.nodup_nil

/-- From the table as it was cleared, the ids stay distinct exactly in the runs in which
no call stores its record under an id that is taken, and in these every update of a
stored task changes the record of that task only. -/
theorem task_ids_identify_iff (message : PyError → String) (creations : List Creation) :
    (Along (create message) (fun server => server.operationTaskData.Identified)
        (ClientConnectServer.init []) creations ↔
      Each (create message) StoresFresh (ClientConnectServer.init []) creations) ∧
    (Each (create message) StoresFresh (ClientConnectServer.init []) creations →
      Along (create message) UpdatesApart (ClientConnectServer.init []) creations) := by
  have nothing : ∀ (server : ClientConnectServer) (_ : Creation), True → True :=
    fun _ _ known => known
  have stepwise : ∀ (server : ClientConnectServer) (creation : Creation), True →
      server.operationTaskData.Identified →
        ((create message server creation).operationTaskData.Identified ↔
          StoresFresh server creation) :=
    fun _ creation _ ids => create_identified_iff message ids creation
  have exactly := along_iff_each nothing stepwise trivial init_identified creations
  exact ⟨exactly, fun fresh => (exactly.mpr fresh).mono fun _ ids => updatesApart ids⟩

/-- Two hosts' tasks, one draw: both records carry it, and an update changes both. -/
theorem repeated_draw_shares_id :
    let task : JsonObject := [("player", .str "attacker")]
    let server := run (create fun _ => "") (ClientConnectServer.init [])
      [.createTask task "3fa2c1" true, .createTask task "3fa2c1" true]
    server.operationTaskData.taskIds = [some "3fa2c1", some "3fa2c1"] ∧
      ¬ server.operationTaskData.taskIds.Nodup ∧
      (((ClientConnectServer.updateTask
          (.obj [("task_id", .str "3fa2c1"), ("status", .str "success")]) 9 true).leaves
        server).operationTaskData.all fun row =>
          (JsonObject.get row.fields "status").equals (.str "success")) = true := by
  decide +kernel

end Creation
end NetworkAdapter
