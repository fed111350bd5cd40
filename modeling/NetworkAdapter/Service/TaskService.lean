import NetworkAdapter.Service.SwitchTask

/-!
# Submitting tasks

The two endpoints of `controller/task_controller.py` that create tasks, over
`service/task_service.py`. The service also marks the hosts and switches of a task in the
dynamic topology, and swallows what goes wrong there; the table and the queue are not
touched by that, so it is left out.
-/

namespace NetworkAdapter

/-- What the creation of one task draws and meets: the id, two clock readings, the answer of
the controller and the fate of the database writes. -/
structure Draw where
  taskId : String
  now : Nat
  updatedAt : Nat
  post : Json → Json → Json
  stores : Bool
  updates : Bool

namespace TaskService

/-- Run the service's part on the table it shares with the server. -/
def onTable {Value : Type} (program : Effect PyError Table Value) :
    Effect PyError ClientConnectServer Value := fun server =>
  match program.run server.operationTaskData with
  | .ok value table => .ok value { server with operationTaskData := table }
  | .error error table => .error error { server with operationTaskData := table }

/-- `send_player_task`; `message` is `str` of an exception. Only objects have the method
`get`. -/
def sendPlayerTask (message : PyError → String) (draw : Draw) (task : Json) :
    Effect PyError ClientConnectServer Json :=
  match task with
  | .obj fields =>
      if (JsonObject.get fields "client_type").equals (.str "switch") then do
        let created ← onTable (SwitchTaskService.createSwitchTask message draw.post fields
          draw.taskId draw.now draw.stores draw.updatedAt draw.updates)
        return .obj created
      else do
        let created ← ClientConnectServer.createTask fields draw.taskId draw.stores
        return .obj created
  | _ => throw (.attributeError "get")

/-- `create_task_list`, each task with its own draws. -/
def createTaskList (message : PyError → String) (draw : Nat → Draw) :
    List Json → Effect PyError ClientConnectServer (List Json)
  | [] => pure []
  | taskData :: rest => do
      let taskReturn ← sendPlayerTask message (draw 0) taskData
      let others ← createTaskList message (fun position => draw (position + 1)) rest
      return taskReturn :: others

end TaskService

namespace TaskBlue

/-- `jsonify({"status":"error","message": text})`. -/
def refused (text : String) : Json := .obj [("status", .str "error"), ("message", .str text)]

/-- The `try` statement of both views: the answer and the server after the request. -/
def respond (message : PyError → String) (program : Effect PyError ClientConnectServer Json)
    (server : ClientConnectServer) : Json × ClientConnectServer :=
  match program.run server with
  | .ok data after => (.obj [("status", .str "success"), ("data", data)], after)
  | .error error after => (refused (message error), after)

/-- The view `send_player_task`. -/
def sendPlayerTask (message : PyError → String) (draw : Draw) (task : Json)
    (server : ClientConnectServer) : Json × ClientConnectServer :=
  match task with
  | .null => (refused "No task", server)
  | task => respond message (TaskService.sendPlayerTask message draw task) server

/-- What a `for` loop over a value goes through. -/
def items : Json → Except PyError (List Json)
  | .arr items => .ok items
  | .obj fields => .ok (fields.map fun field => .str field.1)
  | .str text => .ok (text.toList.map fun character => .str (String.singleton character))
  | _ => .error .typeError

/-- The view `send_player_task_list`. -/
def sendPlayerTaskList (message : PyError → String) (draw : Nat → Draw) (taskList : Json)
    (server : ClientConnectServer) : Json × ClientConnectServer :=
  match taskList with
  | .null => (refused "No task list", server)
  | taskList =>
      respond message (do
        let tasks ← Effect.ofExcept (items taskList)
        return .arr (← TaskService.createTaskList message draw tasks)) server

end TaskBlue

namespace TaskService

open ClientConnectServer

/-- `task.get('client_type') == 'switch'`. -/
def ForSwitch (task : JsonObject) : Prop :=
  JsonObject.get task "client_type" = .str "switch"

/-- A host task was stored in one new record with status `running` and queued once. But for id
and status, the object is the one submitted. -/
def Queued (task : JsonObject) (before after : ClientConnectServer) : Prop :=
  ∃ queued : QueuedTask,
    after.operationTaskData = before.operationTaskData.insert queued.data ∧
    after.taskQueue = before.taskQueue ++ [queued] ∧
    Fields.get? queued.data "status" = some (.str "running") ∧
    ∀ key, key ≠ "task_id" → key ≠ "status" →
      Fields.get? queued.data key = Fields.get? task key

/-- A task of a request went where it belongs. What becomes of a switch task is told by the
table. -/
structure Handled (task : JsonObject) (before after : ClientConnectServer) : Prop where
  host : ¬ ForSwitch task → Queued task before after
  switch : ForSwitch task → after.taskQueue = before.taskQueue

/-- The tasks of a request went where they belong, in order. -/
inductive Submitted : List JsonObject → ClientConnectServer → ClientConnectServer → Prop where
  | done (server : ClientConnectServer) : Submitted [] server server
  | next {task : JsonObject} {rest : List JsonObject} {before middle after : ClientConnectServer}
      (handled : Handled task before middle) (others : Submitted rest middle after) :
      Submitted (task :: rest) before after

/-- An answered request was submitted as a whole or left no trace. -/
def AllOrNothing (tasks : List JsonObject) (answered : Json × ClientConnectServer)
    (before : ClientConnectServer) : Prop :=
  (answered.1.get "status" = .ok (.str "error") →
    answered.2.operationTaskData = before.operationTaskData ∧
      answered.2.taskQueue = before.taskQueue) ∧
  (answered.1.get "status" = .ok (.str "success") → Submitted tasks before answered.2)

/-- The task is for a switch or has the key `player`. -/
def Submittable (task : JsonObject) : Prop :=
  ForSwitch task ∨ (Fields.get? task "player").isSome

variable (message : PyError → String)

theorem length_insert (table : Table) (data : JsonObject) :
    (table.insert data).length = table.length + 1 := by
  simp [Table.insert]

theorem length_upsert (table : Table) (data : JsonObject) (fieldName : String) (value : Json)
    (now : Nat) : table.length ≤ (table.asyncUpsertByKey data fieldName value now).length := by
  unfold Table.asyncUpsertByKey
  split
  · simp [Table.update]
  · simp [length_insert]

theorem onTable_ok {Value : Type} {program : Effect PyError Table Value}
    {server : ClientConnectServer} {value : Value} {table : Table}
    (returned : program.run server.operationTaskData = .ok value table) :
    (onTable program).run server = .ok value { server with operationTaskData := table } := by
  show onTable program server = _
  rw [onTable, returned]

/-- The creation of a switch task returns, and adds to the table. -/
theorem createSwitchTask_grows {draw : Draw} (stores : draw.stores = true) (task : JsonObject)
    (before : Table) :
    ∃ data table, (SwitchTaskService.createSwitchTask message draw.post task draw.taskId draw.now
        draw.stores draw.updatedAt draw.updates).run before = .ok data table ∧
      before.length < table.length := by
  obtain ⟨data, _, returned⟩ := SwitchTaskService.createSwitchTask_run message draw.post task
    draw.taskId draw.now draw.stores draw.updatedAt draw.updates before
  refine ⟨_, _, returned, ?_⟩
  simp only [stores, if_true]
  have inserted : before.length <
      (before.asyncWrite (SwitchTaskService.createdData task draw.taskId draw.now)).length :=
    Nat.lt_of_lt_of_eq (Nat.lt_succ_self _) (length_insert _ _).symm
  split
  · exact Nat.lt_of_lt_of_le inserted (length_upsert _ _ _ _ _)
  · exact inserted

/-- A switch task is answered. It touches the table only, and adds to it. -/
theorem sendPlayerTask_switch {draw : Draw} (stores : draw.stores = true) {task : JsonObject}
    (forSwitch : ForSwitch task) (server : ClientConnectServer) :
    ∃ data table, (sendPlayerTask message draw (.obj task)).run server =
        .ok data { server with operationTaskData := table } ∧
      server.operationTaskData.length < table.length := by
  have switch : (JsonObject.get task "client_type").equals (.str "switch") = true :=
    (Json.equals_str_right _ _).mpr forSwitch
  obtain ⟨data, table, returned, grows⟩ :=
    createSwitchTask_grows message stores task server.operationTaskData
  refine ⟨.obj data, table, ?_, grows⟩
  simp only [sendPlayerTask, if_pos switch, EStateM.run_bind, onTable_ok returned]
  rfl

/-- A host task with a player is stored, queued and answered. -/
theorem sendPlayerTask_host {draw : Draw} (stores : draw.stores = true) {task : JsonObject}
    (forHost : ¬ ForSwitch task) (player : (Fields.get? task "player").isSome)
    (server : ClientConnectServer) :
    ∃ data after, (sendPlayerTask message draw (.obj task)).run server = .ok data after ∧
      Queued task server after := by
  have host : ¬ (JsonObject.get task "client_type").equals (.str "switch") = true :=
    mt (Json.equals_str_right _ _).mp forHost
  obtain ⟨name, named⟩ := Option.isSome_iff_exists.mp player
  have kept : Fields.get? (createdData task draw.taskId) "player" = some name := by
    simp [createdData, named]
  refine ⟨.obj (createdData task draw.taskId), { server with
      operationTaskData := server.operationTaskData.insert (createdData task draw.taskId)
      taskQueue := server.taskQueue ++ [nextTask task draw.taskId server]
      enqueued := server.enqueued ++ [nextTask task draw.taskId server] }, ?_, ?_⟩
  · simp [sendPlayerTask, host, createTask, stores, Json.subscript, kept, Table.asyncWrite,
      nextTask]
  · refine ⟨nextTask task draw.taskId server, rfl, rfl, ?_, fun key notId notStatus => ?_⟩
    · simp [nextTask, createdData]
    · simp [nextTask, createdData, notId.symm, notStatus.symm]

/-- A host task without a player is stored, and then refused. -/
theorem sendPlayerTask_refused {draw : Draw} (stores : draw.stores = true) {task : JsonObject}
    (forHost : ¬ ForSwitch task) (player : Fields.get? task "player" = none)
    (server : ClientConnectServer) :
    (sendPlayerTask message draw (.obj task)).run server = .error (.keyError "player")
      { server with
        operationTaskData := server.operationTaskData.insert (createdData task draw.taskId) } := by
  have host : ¬ (JsonObject.get task "client_type").equals (.str "switch") = true :=
    mt (Json.equals_str_right _ _).mp forHost
  have missing : Fields.get? (createdData task draw.taskId) "player" = none := by
    simp [createdData, player]
  simp [sendPlayerTask, host, createTask, stores, Json.subscript, missing, Table.asyncWrite]

/-- A task is handled if it is submittable, and refused otherwise. Both add to the table. -/
theorem sendPlayerTask_run {draw : Draw} (stores : draw.stores = true) (task : JsonObject)
    (server : ClientConnectServer) :
    (Submittable task ∧ ∃ data after,
      (sendPlayerTask message draw (.obj task)).run server = .ok data after ∧
        Handled task server after ∧
          server.operationTaskData.length < after.operationTaskData.length) ∨
    (¬ Submittable task ∧ ∃ error after,
      (sendPlayerTask message draw (.obj task)).run server = .error error after ∧
        server.operationTaskData.length < after.operationTaskData.length) := by
  by_cases forSwitch : ForSwitch task
  · obtain ⟨data, table, returned, grows⟩ :=
      sendPlayerTask_switch message stores forSwitch server
    exact .inl ⟨.inl forSwitch, data, _, returned,
      ⟨fun forHost => absurd forSwitch forHost, fun _ => rfl⟩, grows⟩
  cases player : Fields.get? task "player" with
  | some name =>
      have named : (Fields.get? task "player").isSome := by simp [player]
      obtain ⟨data, after, returned, queued⟩ :=
        sendPlayerTask_host message stores forSwitch named server
      refine .inl ⟨.inr named, data, after, returned,
        ⟨fun _ => queued, fun switch => absurd switch forSwitch⟩, ?_⟩
      obtain ⟨queued, inserted, _⟩ := queued
      rw [inserted, length_insert]
      exact Nat.lt_succ_self _
  | none =>
      refine .inr ⟨?_, _, _, sendPlayerTask_refused message stores forSwitch player server, ?_⟩
      · rintro (switch | named)
        · exact forSwitch switch
        · simp [player] at named
      · exact Nat.lt_of_lt_of_eq (Nat.lt_succ_self _) (length_insert _ _).symm

/-- A list is submitted if all its tasks are submittable. Otherwise the first that is not ends
the request, with what was added before it, and for it, in the table. -/
theorem createTaskList_run {draw : Nat → Draw} (stores : ∀ position, (draw position).stores = true)
    (tasks : List JsonObject) (server : ClientConnectServer) :
    ((∀ task ∈ tasks, Submittable task) ∧ ∃ data after,
      (createTaskList message draw (tasks.map .obj)).run server = .ok data after ∧
        Submitted tasks server after) ∨
    ((¬ ∀ task ∈ tasks, Submittable task) ∧ ∃ error after,
      (createTaskList message draw (tasks.map .obj)).run server = .error error after ∧
        server.operationTaskData.length < after.operationTaskData.length) := by
  induction tasks generalizing draw server with
  | nil => exact .inl ⟨nofun, [], server, rfl, .done server⟩
  | cons task rest inductionHypothesis =>
      simp only [List.map_cons, createTaskList, EStateM.run_bind, List.forall_mem_cons]
      rcases sendPlayerTask_run message (stores 0) task server with
        ⟨submittable, data, middle, returned, handled, grows⟩ |
        ⟨unsubmittable, error, after, raised, grows⟩
      · rw [returned]
        rcases inductionHypothesis (fun position => stores (position + 1)) middle with
          ⟨all, others, after, returned, submitted⟩ | ⟨some, error, after, raised, grows'⟩
        · refine .inl ⟨⟨submittable, all⟩, data :: others, after, ?_, .next handled submitted⟩
          simp [returned]
        · refine .inr ⟨fun both => some both.2, error, after, ?_, Nat.lt_trans grows grows'⟩
          simp [raised]
      · rw [raised]
        exact .inr ⟨fun both => unsubmittable both.1, error, after, rfl, grows⟩

variable {message}

theorem allOrNothing_of_ok {program : Effect PyError ClientConnectServer Json}
    {tasks : List JsonObject} {server after : ClientConnectServer} {data : Json}
    (returned : program.run server = .ok data after) (submitted : Submitted tasks server after) :
    AllOrNothing tasks (TaskBlue.respond message program server) server := by
  rw [TaskBlue.respond, returned]
  refine ⟨fun refused => ?_, fun _ => submitted⟩
  simp [JsonObject.get, Fields.get?] at refused

theorem not_allOrNothing_of_error {program : Effect PyError ClientConnectServer Json}
    {tasks : List JsonObject} {server after : ClientConnectServer} {error : PyError}
    (raised : program.run server = .error error after)
    (grows : server.operationTaskData.length < after.operationTaskData.length) :
    ¬ AllOrNothing tasks (TaskBlue.respond message program server) server := by
  rw [TaskBlue.respond, raised]
  intro allOrNothing
  have same := (allOrNothing.1 rfl).1
  exact Nat.lt_irrefl _ (Nat.lt_of_lt_of_eq grows (congrArg List.length same))

/-- A submission is all or nothing just if every task of it is for a switch or has the key
`player`. -/
theorem submission_iff (message : PyError → String) (draw : Nat → Draw)
    (stores : ∀ position, (draw position).stores = true) (server : ClientConnectServer) :
    (∀ task : JsonObject,
      AllOrNothing [task] (TaskBlue.sendPlayerTask message (draw 0) (.obj task) server) server ↔
        Submittable task) ∧
    (∀ tasks : List JsonObject,
      AllOrNothing tasks
          (TaskBlue.sendPlayerTaskList message draw (.arr (tasks.map .obj)) server) server ↔
        ∀ task ∈ tasks, Submittable task) := by
  constructor
  · intro task
    rcases sendPlayerTask_run message (stores 0) task server with
      ⟨submittable, data, after, returned, handled, _⟩ |
      ⟨unsubmittable, error, after, raised, grows⟩
    · exact iff_of_true (allOrNothing_of_ok returned (.next handled (.done after))) submittable
    · exact iff_of_false (not_allOrNothing_of_error raised grows) unsubmittable
  · intro tasks
    rcases createTaskList_run message stores tasks server with
      ⟨all, data, after, returned, submitted⟩ | ⟨some, error, after, raised, grows⟩
    · refine iff_of_true
        (@allOrNothing_of_ok message _ tasks server after (.arr data) ?_ submitted) all
      simp [TaskBlue.items, returned]
    · refine iff_of_false
        (@not_allOrNothing_of_error message _ tasks server after error ?_ grows) some
      simp [TaskBlue.items, raised]

/-- Draws whose writes succeed. -/
def someDraw (position : Nat) : Draw where
  taskId := if position = 0 then "3fa2c1" else "402117"
  now := 60
  updatedAt := 61
  post _ _ := .null
  stores := true
  updates := true

def scanTask : JsonObject :=
  [("player", .str "attacker"), ("task_name", .str "host_scan"), ("client_ip", .str "10.0.0.1")]

/-- A host task without a player. -/
def playerless : JsonObject := [("task_name", .str "host_scan"), ("client_ip", .str "10.0.0.1")]

theorem scans_submitted :
    AllOrNothing [scanTask, scanTask]
      (TaskBlue.sendPlayerTaskList (fun _ => "") someDraw (.arr [.obj scanTask, .obj scanTask])
        (init [])) (init []) := by
  refine ((submission_iff (fun _ => "") someDraw (fun _ => rfl) (init [])).2
    [scanTask, scanTask]).mpr fun task member => .inr ?_
  have same : task = scanTask := by simpa using member
  subst same
  rfl

/-- The request is refused, with the first task stored and queued and the second one stored. -/
theorem playerless_leaves_records :
    ¬ AllOrNothing [scanTask, playerless]
      (TaskBlue.sendPlayerTaskList (fun _ => "'player'") someDraw
        (.arr [.obj scanTask, .obj playerless]) (init [])) (init []) := by
  intro allOrNothing
  obtain ⟨table, queue⟩ := allOrNothing.1 rfl
  have records := congrArg List.length table
  cases records

end TaskService
end NetworkAdapter
