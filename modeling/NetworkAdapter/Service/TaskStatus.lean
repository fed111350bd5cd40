import NetworkAdapter.Service.TaskIds
import NetworkAdapter.Store.Upsert

/-!
# How a switch task ends

`create_switch_task` can fail in three places: its first write, the call of the controller
and its update. Each has its own `try`, and all change the one object that is returned.
Whatever fails, that object ends with a terminal status, `success` just if the controller
has reported it for a task that asks for it, and the record agrees with the object.
-/

namespace NetworkAdapter.SwitchTaskService

/-- `async_http_post` once the request has come to something: `None` stands for a failure. -/
def asyncHttpPost (attempt : Except PyError Json) : Json :=
  match attempt with
  | .ok reply => reply
  | .error _ => .null

/-- The controller to which every request comes to something. -/
def controller (attempt : Json → Json → Except PyError Json) (dpid protocol : Json) : Json :=
  asyncHttpPost (attempt dpid protocol)

/-- A reply with both a status and data reports success or an error. -/
def Reports (reply : Json) : Prop :=
  ∀ status data, reply.subscript "status" = .ok status → reply.subscript "data" = .ok data →
    status = .str "success" ∨ status = .str "error"

/-- The task bans a protocol on a datapath, neither of them null. -/
structure Bans (task : JsonObject) (dpid protocol : Json) : Prop where
  params : ∃ params, (Json.obj task).subscript "params" = .ok params ∧
    params.subscript "dpid" = .ok dpid ∧ params.subscript "protocol" = .ok protocol
  name : Fields.get? task "task_name" = some (.str "host_protocol_forbid")
  dpid_present : dpid ≠ .null
  protocol_present : protocol ≠ .null

/-- The task bans a protocol, and the reply to that has status `success` and data. -/
def Succeeds (post : Json → Json → Json) (task : JsonObject) : Prop :=
  ∃ dpid protocol data, Bans task dpid protocol ∧
    (post dpid protocol).subscript "status" = .ok (.str "success") ∧
    (post dpid protocol).subscript "data" = .ok data

/-- A task bans one protocol on one datapath. -/
theorem Bans.unique {task : JsonObject} {dpid protocol dpid' protocol' : Json}
    (bans : Bans task dpid protocol) (bans' : Bans task dpid' protocol') :
    dpid = dpid' ∧ protocol = protocol' := by
  obtain ⟨params, stored, asked, named⟩ := bans.params
  obtain ⟨params', stored', asked', named'⟩ := bans'.params
  obtain rfl := Except.ok.inj (stored.symm.trans stored')
  exact ⟨Except.ok.inj (asked.symm.trans asked'), Except.ok.inj (named.symm.trans named')⟩

/-- Only these two fields of a task say whether it bans. -/
theorem bans_congr {task task' : JsonObject}
    (params : Fields.get? task' "params" = Fields.get? task "params")
    (name : Fields.get? task' "task_name" = Fields.get? task "task_name") (dpid protocol : Json) :
    Bans task' dpid protocol ↔ Bans task dpid protocol := by
  have same : (Json.obj task').subscript "params" = (Json.obj task).subscript "params" := by
    simp only [Json.subscript, params]
  constructor
  · rintro ⟨stored, named, asked, told⟩
    exact ⟨same ▸ stored, name ▸ named, asked, told⟩
  · rintro ⟨stored, named, asked, told⟩
    exact ⟨same ▸ stored, name ▸ named, asked, told⟩

/-- What `execute_switch_task` can come to. -/
inductive Executed (post : Json → Json → Json) (task : JsonObject) :
    Except PyError JsonObject → Prop where
  | raised (error : PyError) (fails : ¬ Succeeds post task) : Executed post task (.error error)
  | refused (fails : ¬ Succeeds post task) :
      Executed post task (.ok (Fields.set task "status" (.str "error")))
  | answered {dpid protocol status data : Json} (bans : Bans task dpid protocol)
      (told : (post dpid protocol).subscript "status" = .ok status)
      (given : (post dpid protocol).subscript "data" = .ok data) :
      Executed post task (.ok (Fields.set (Fields.set (Fields.set task "status" (.str "error"))
        "status" status) "result" data))

/-- A task that bans comes down to the reply of the controller. -/
theorem executeSwitchTask_of_bans (post : Json → Json → Json) {task : JsonObject}
    {dpid protocol : Json} (bans : Bans task dpid protocol) :
    executeSwitchTask post task = (icmpDrop (post dpid protocol)).map fun answer =>
      Fields.set (Fields.set (Fields.set task "status" (.str "error")) "status" answer.1)
        "result" answer.2 := by
  obtain ⟨⟨params, stored, asked, told⟩, name, dpid_present, protocol_present⟩ := bans
  have named : (Json.obj (Fields.set task "status" (.str "error"))).subscript "task_name" =
      .ok (.str "host_protocol_forbid") :=
    Json.subscript_obj_eq_ok.mpr (by simp [name])
  have reported : (Json.str "host_protocol_forbid").equals (.str "host_protocol_forbid") = true :=
    rfl
  simp only [executeSwitchTask, stored, asked, told, named, bind, Except.bind,
    mt (Json.equals_null dpid).mp dpid_present, mt (Json.equals_null protocol).mp protocol_present,
    reported, if_true]
  cases icmpDrop (post dpid protocol) <;> rfl

/-- A task that does not ban is marked as an error, unless it raises. -/
theorem executeSwitchTask_of_not_bans {post : Json → Json → Json} {task executed : JsonObject}
    (banless : ∀ dpid protocol, ¬ Bans task dpid protocol)
    (returned : executeSwitchTask post task = .ok executed) :
    executed = Fields.set task "status" (.str "error") := by
  obtain ⟨params, stored, returned⟩ := ok_of_bind returned
  obtain ⟨dpid, asked, returned⟩ := ok_of_bind returned
  split at returned
  · exact (Except.ok.inj returned).symm
  · next dpid_present =>
      obtain ⟨taskName, named, returned⟩ := ok_of_bind returned
      split at returned
      · next name =>
          obtain ⟨protocol, told, returned⟩ := ok_of_bind returned
          split at returned
          · exact (Except.ok.inj returned).symm
          · next protocol_present =>
              refine absurd ⟨⟨params, stored, asked, told⟩, ?_, ?_, ?_⟩ (banless dpid protocol)
              · have carried := Json.subscript_obj_eq_ok.mp named
                rw [(Json.equals_str_right _ _).mp name] at carried
                simpa using carried
              · exact mt (Json.equals_null dpid).mpr dpid_present
              · exact mt (Json.equals_null protocol).mpr protocol_present
      · exact (Except.ok.inj returned).symm

theorem executeSwitchTask_executed (post : Json → Json → Json) (task : JsonObject) :
    Executed post task (executeSwitchTask post task) := by
  by_cases banned : ∃ dpid protocol, Bans task dpid protocol
  · obtain ⟨dpid, protocol, bans⟩ := banned
    have only {dpid' protocol' : Json} (bans' : Bans task dpid' protocol') :
        post dpid' protocol' = post dpid protocol := by
      obtain ⟨rfl, rfl⟩ := bans.unique bans'
      rfl
    rw [executeSwitchTask_of_bans post bans]
    unfold icmpDrop
    cases told : (post dpid protocol).subscript "status" with
    | error error =>
        refine .raised error ?_
        rintro ⟨_, _, _, bans', told', _⟩
        rw [only bans'] at told'
        cases told.symm.trans told'
    | ok status =>
        cases given : (post dpid protocol).subscript "data" with
        | error error =>
            refine .raised error ?_
            rintro ⟨_, _, _, bans', _, given'⟩
            rw [only bans'] at given'
            cases given.symm.trans given'
        | ok data => exact .answered bans told given
  · have banless (dpid protocol : Json) : ¬ Bans task dpid protocol := fun bans =>
      banned ⟨dpid, protocol, bans⟩
    have fails : ¬ Succeeds post task := by
      rintro ⟨dpid, protocol, _, bans, _⟩
      exact banless dpid protocol bans
    cases returned : executeSwitchTask post task with
    | error error => exact .raised error fails
    | ok executed =>
        rw [executeSwitchTask_of_not_bans banless returned]
        exact .refused fails

/-- The status a task has. -/
def statusOf (task : JsonObject) : Option Json := Fields.get? task "status"

/-- The attempt ends with a terminal status, which is `success` just if it succeeds. -/
theorem attemptTask_status (message : PyError → String) {post : Json → Json → Json}
    (reports : ∀ dpid protocol, Reports (post dpid protocol)) (task : JsonObject) :
    (statusOf (attemptTask message post task) = some (.str "success") ∧ Succeeds post task) ∨
      (statusOf (attemptTask message post task) = some (.str "error") ∧ ¬ Succeeds post task) := by
  unfold attemptTask statusOf
  have executed := executeSwitchTask_executed post task
  generalize executeSwitchTask post task = result at executed
  cases executed with
  | raised error fails => exact .inr ⟨by simp [failed], fails⟩
  | refused fails => exact .inr ⟨by simp, fails⟩
  | @answered dpid protocol status data bans told given =>
      rcases reports dpid protocol status data told given with rfl | rfl
      · exact .inl ⟨by simp, dpid, protocol, data, bans, told, given⟩
      · refine .inr ⟨by simp, ?_⟩
        rintro ⟨dpid', protocol', _, bans', told', _⟩
        obtain ⟨rfl, rfl⟩ := bans.unique bans'
        simpa using Except.ok.inj (told.symm.trans told')

/-- The attempt takes no field away. -/
theorem attemptTask_keeps (message : PyError → String) (post : Json → Json → Json)
    {task : JsonObject} {key : String} (has : (Fields.get? task key).isSome) :
    (Fields.get? (attemptTask message post task) key).isSome := by
  unfold attemptTask
  have executed := executeSwitchTask_executed post task
  generalize executeSwitchTask post task = result at executed
  cases executed with
  | raised error fails => simp only [failed, Fields.get?_set]; grind
  | refused fails => simp only [Fields.get?_set]; grind
  | answered bans told given => simp only [Fields.get?_set]; grind

/-- What the first `try` leaves still has what the caller put in, under the drawn id. -/
structure Kept (taskData : JsonObject) (taskId : String) (now : Nat) (kept : JsonObject) :
    Prop where
  bans : ∀ dpid protocol, Bans kept dpid protocol ↔ Bans taskData dpid protocol
  identified : Fields.get? kept "task_id" = some (.str taskId)
  keeps : ∀ key, (Fields.get? (createdData taskData taskId now) key).isSome →
    (Fields.get? kept key).isSome

theorem kept_of_stored (message : PyError → String) {taskData : JsonObject} {taskId : String}
    {now : Nat} {kept : JsonObject}
    (stored : kept = createdData taskData taskId now ∨
      ∃ error, kept = failed message (createdData taskData taskId now) error) :
    Kept taskData taskId now kept := by
  rcases stored with rfl | ⟨error, rfl⟩
  · exact ⟨bans_congr (by simp [createdData]) (by simp [createdData]), by simp, fun _ => id⟩
  · refine ⟨bans_congr (by simp [failed, createdData]) (by simp [failed, createdData]), by simp,
      fun key has => ?_⟩
    simp only [failed, Fields.get?_set]
    grind

theorem Kept.succeeds_iff {taskData kept : JsonObject} {taskId : String} {now : Nat}
    (known : Kept taskData taskId now kept) (post : Json → Json → Json) :
    Succeeds post kept ↔ Succeeds post taskData := by
  simp only [Succeeds, known.bans]

/-- The record of a task is the one record with its id, and agrees with the object on every
field. -/
def Records (table : Table) (taskId : String) (object : JsonObject) : Prop :=
  ∃ row, table.foundBy "task_id" (.str taskId) = [row] ∧
    ∀ key, Fields.get? row.fields key = Fields.get? object key

/-- An upsert of an object that has no fewer fields than its record. -/
theorem upsert_records {table : Table} {taskId : String} {data : JsonObject}
    (identified : Fields.get? data "task_id" = some (.str taskId)) (now : Nat)
    (found : table.foundBy "task_id" (.str taskId) = [] ∨
      ∃ row, table.foundBy "task_id" (.str taskId) = [row] ∧
        ∀ key, (Fields.get? row.fields key).isSome → (Fields.get? data key).isSome) :
    Records (table.asyncUpsertByKey data "task_id" (.str taskId) now) taskId
      (Table.timestamped data now) := by
  have updated := Table.foundBy_upsert_own (by decide) identified (Json.str_equals_self _) table now
  rcases found with none | ⟨row, single, covers⟩
  · rw [if_pos none] at updated
    exact ⟨_, updated, fun key => rfl⟩
  · rw [if_neg (by simp [single]), single] at updated
    refine ⟨_, updated, fun key => ?_⟩
    have covered := covers key
    simp only [Table.merged, Fields.get?_merge, Table.get?_timestamped]
    cases was : Fields.get? row.fields key with
    | none => simp
    | some value =>
        obtain ⟨now, is⟩ := Option.isSome_iff_exists.mp (covered (by simp [was]))
        rw [is]
        split <;> rfl

/-- Whatever fails, `create_switch_task` returns, with a terminal status. That is `success`
just if the task bans a protocol and the controller has reported success, with data. If the
update succeeds under an id that was free, the record agrees with what is returned. -/
theorem switch_task_ends_honestly (message : PyError → String)
    (attempt : Json → Json → Except PyError Json)
    (reports : ∀ dpid protocol, Reports (controller attempt dpid protocol))
    (taskData : JsonObject) (taskId : String) (now : Nat) (stores : Bool) (updatedAt : Nat)
    (updates : Bool) (table : Table) :
    ∃ returned after,
      (createSwitchTask message (controller attempt) taskData taskId now stores updatedAt
        updates).run table = .ok returned after ∧
      (statusOf returned = some (.str "success") ∨ statusOf returned = some (.str "error")) ∧
      (statusOf returned = some (.str "success") ↔ Succeeds (controller attempt) taskData) ∧
      (updates = true → table.foundBy "task_id" (.str taskId) = [] →
        Records after taskId returned) := by
  obtain ⟨kept, stored, returns⟩ := createSwitchTask_returns message (controller attempt) taskData
    taskId now stores updatedAt updates table
  have known := kept_of_stored message stored
  have same : statusOf (Table.timestamped (attemptTask message (controller attempt) kept)
      updatedAt) = statusOf (attemptTask message (controller attempt) kept) := by
    simp [statusOf]
  refine ⟨_, _, returns, ?_, ?_, ?_⟩
  · rw [same]
    exact (attemptTask_status message reports kept).imp And.left And.left
  · rw [same, ← known.succeeds_iff]
    rcases attemptTask_status message reports kept with ⟨success, succeeds⟩ | ⟨error, fails⟩
    · simp [success, succeeds]
    · simp [error, fails]
  · intro updating free
    subst updating
    have identified : Fields.get? (attemptTask message (controller attempt) kept) "task_id" =
        some (.str taskId) := by
      rw [attemptTask_identified, known.identified]
    refine upsert_records identified updatedAt ?_
    cases stores with
    | false => exact .inl free
    | true =>
        refine .inr ⟨⟨table.nextId, createdData taskData taskId now⟩, ?_, fun key has => ?_⟩
        · have matched : Row.matchesField ⟨table.nextId, createdData taskData taskId now⟩
              "task_id" (.str taskId) = true :=
            Row.matchesField_text.mpr (createdData_identified taskData taskId now)
          have free' : (table.filter fun row => row.matchesField "task_id" (.str taskId)) = [] :=
            free
          simp [Table.asyncWrite, Table.insert, Table.foundBy, List.filter_append, free', matched]
        · exact attemptTask_keeps message _ (known.keeps key has)

/-- A ban whose first write fails and which the controller accepts. -/
theorem banned_after_lost_write :
    ∃ returned after,
      (createSwitchTask (fun _ => "") (controller fun dpid _ => .ok
        (.obj [("status", .str "success"), ("data", dpid)]))
        [("task_name", .str "host_protocol_forbid"),
          ("params", .obj [("dpid", .number 1), ("protocol", .str "ICMP")])]
        "3fa2c1" 20 false 21 true).run [] = .ok returned after ∧
      statusOf returned = some (.str "success") ∧ Records after "3fa2c1" returned := by
  obtain ⟨returned, after, returns, _, successful, recorded⟩ :=
    switch_task_ends_honestly (fun _ => "") (fun dpid _ => .ok
        (.obj [("status", .str "success"), ("data", dpid)]))
      (fun dpid protocol status data told _ => .inl (Except.ok.inj told).symm)
      [("task_name", .str "host_protocol_forbid"),
        ("params", .obj [("dpid", .number 1), ("protocol", .str "ICMP")])]
      "3fa2c1" 20 false 21 true []
  refine ⟨returned, after, returns, successful.mpr ?_, recorded rfl rfl⟩
  exact ⟨.number 1, .str "ICMP", .number 1, ⟨⟨_, rfl, rfl, rfl⟩, rfl, nofun, nofun⟩, rfl, rfl⟩

end NetworkAdapter.SwitchTaskService
