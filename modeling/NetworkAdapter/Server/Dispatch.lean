import NetworkAdapter.Server.ReadLoop

/-!
# What creating and distributing a task does

One equation for each of the three functions a task passes through. They say
everything a step of the task path can do to the server, so the modules on
delivery never unfold the functions again.
-/

namespace NetworkAdapter

namespace QueuedTask

/-- `task_data.get('client_type') == 'switch'`. -/
def forSwitch (task : QueuedTask) : Bool :=
  (JsonObject.get task.data "client_type").equals (.str "switch")

/-- The client IP of the task, when it is a text. -/
def clientIp? (task : QueuedTask) : Option String :=
  match JsonObject.get task.data "client_ip" with
  | .str clientIp => some clientIp
  | _ => none

end QueuedTask

namespace ClientConnectServer

/-- The object stored for a task whose client is not connected. -/
def undeliverable (data : JsonObject) (clientIp : String) : JsonObject :=
  Fields.set (Fields.set data "status" (.str "error"))
    "message" (.str ("No active connection for IP:" ++ clientIp))

/-- The server with the line of a task handed to a writer which is not closing. -/
def handedOver (writer : Nat) (task : QueuedTask) (server : ClientConnectServer) :
    ClientConnectServer :=
  { server with wire := server.wire ++ [⟨writer, task, false⟩] }

@[simp] theorem safeSend_run (writer : Nat) (task : QueuedTask)
    (server : ClientConnectServer) :
    (safeSend writer task).run server =
      if writer ∈ server.closing then .ok false server
      else .ok true (handedOver writer task server) := by
  by_cases shut : writer ∈ server.closing <;> simp [safeSend, handedOver, shut]

theorem undeliverable_identified {data : JsonObject} {taskId : String}
    (identified : Fields.get? data "task_id" = some (.str taskId)) (clientIp : String) :
    Fields.get? (undeliverable data clientIp) "task_id" = some (.str taskId) := by
  simp [undeliverable, identified]

/-- One iteration of the distributor up to its suspension. A switch task is
dropped, a task whose client IP is not a text raises, and any other task is
written, skipped or recorded as failed, depending on the entry of its client. -/
theorem distributeTask_run (task : QueuedTask) (now : Nat) (writes : Bool)
    (server : ClientConnectServer) :
    (distributeTask task now writes).run server =
      if task.forSwitch then .ok false server
      else
        match task.clientIp? with
        | none => .error .typeError server
        | some clientIp =>
            match server.connectedClients.get? clientIp with
            | some info =>
                if info.writer ∈ server.closing then .ok false server
                else .ok true (handedOver info.writer task server)
            | none =>
                .ok false (stored writes now (undeliverable task.data clientIp)
                  (.str task.taskId) server) := by
  unfold distributeTask QueuedTask.forSwitch QueuedTask.clientIp?
  by_cases switch : (JsonObject.get task.data "client_type").equals (.str "switch") = true
  · simp [switch]
  · have identified : (Json.obj task.data).subscript "task_id" = .ok (.str task.taskId) := by
      simp [Json.subscript, task.identified]
    simp only [switch, Bool.false_eq_true, if_false, EStateM.run_bind]
    cases client : JsonObject.get task.data "client_ip" with
    | str clientIp =>
        cases found : server.connectedClients.get? clientIp with
        | some info => simp [lookupClient, found]
        | none =>
            have kept := undeliverable_identified task.identified clientIp
            simp only [undeliverable] at kept
            simp [lookupClient, found, identified, concatText, updateTask_run_of_id kept,
              undeliverable]
    | _ => simp [lookupClient, identified, concatText]

/-- The ways one dequeue can end, each with the server it leaves. -/
inductive Taken (task : QueuedTask) (now : Nat) (writes : Bool) (server : ClientConnectServer) :
    ClientConnectServer → Prop where
  | switch (forSwitch : task.forSwitch = true) :
      Taken task now writes server { server with distributor := .waiting }
  | unusable (forHost : task.forSwitch = false) (noText : task.clientIp? = none) :
      Taken task now writes server { server with distributor := .stopped .typeError }
  | skipped {clientIp : String} {info : ClientInfo} (forHost : task.forSwitch = false)
      (addressed : task.clientIp? = some clientIp)
      (found : server.connectedClients.get? clientIp = some info)
      (shut : info.writer ∈ server.closing) :
      Taken task now writes server { server with distributor := .waiting }
  | sent {clientIp : String} {info : ClientInfo} (forHost : task.forSwitch = false)
      (addressed : task.clientIp? = some clientIp)
      (found : server.connectedClients.get? clientIp = some info)
      (alive : info.writer ∉ server.closing) :
      Taken task now writes server
        { handedOver info.writer task server with distributor := .draining task }
  | absent {clientIp : String} (forHost : task.forSwitch = false)
      (addressed : task.clientIp? = some clientIp)
      (missing : server.connectedClients.get? clientIp = none) :
      Taken task now writes server
        { stored writes now (undeliverable task.data clientIp) (.str task.taskId) server with
          distributor := .waiting }

/-- Every dequeue ends in one of those ways. -/
theorem takeTask_taken (task : QueuedTask) (now : Nat) (writes : Bool)
    (server : ClientConnectServer) :
    Taken task now writes server (takeTask task now writes server) := by
  unfold takeTask
  rw [distributeTask_run]
  cases switch : task.forSwitch with
  | true => exact .switch switch
  | false =>
      cases addressed : task.clientIp? with
      | none => exact .unusable switch addressed
      | some clientIp =>
          cases found : server.connectedClients.get? clientIp with
          | none => simpa [found] using Taken.absent switch addressed found
          | some info =>
              by_cases shut : info.writer ∈ server.closing
              · simpa [found, shut] using Taken.skipped switch addressed found shut
              · simpa [found, shut] using Taken.sent switch addressed found shut

/-- A drain that fails puts its task back at the end of the queue. -/
theorem finishDrain_leaves (task : QueuedTask) (drained : Except PyError Unit)
    (server : ClientConnectServer) :
    (finishDrain task drained).leaves server =
      match drained with
      | .ok _ => server
      | .error _ => { server with
          taskQueue := server.taskQueue ++ [task]
          failedDrains := server.failedDrains ++ [task.number] } := by
  cases drained <;> simp [finishDrain, Effect.leaves]

/-- The object `create_task` enqueues next. -/
def nextTask (taskData : JsonObject) (taskId : String) (server : ClientConnectServer) :
    QueuedTask :=
  ⟨server.enqueued.length, createdData taskData taskId, taskId,
    createdData_identified taskData taskId⟩

/-- The server after `create_task` has written its record, or failed to. -/
def recorded (writes : Bool) (data : JsonObject) (server : ClientConnectServer) :
    ClientConnectServer :=
  if writes then { server with operationTaskData := server.operationTaskData.asyncWrite data }
  else server

/-- A task reaches the queue exactly when the caller's object names a player. -/
theorem createTask_leaves (taskData : JsonObject) (taskId : String) (writes : Bool)
    (server : ClientConnectServer) :
    (createTask taskData taskId writes).leaves server =
      let after := recorded writes (createdData taskData taskId) server
      if (Fields.get? taskData "player").isSome then
        { after with
          taskQueue := server.taskQueue ++ [nextTask taskData taskId server]
          enqueued := server.enqueued ++ [nextTask taskData taskId server] }
      else after := by
  have player : Fields.get? (createdData taskData taskId) "player" =
      Fields.get? taskData "player" := by simp [createdData]
  cases named : Fields.get? taskData "player" <;> cases writes <;>
    simp [createTask, Effect.leaves, Json.subscript, player, named, recorded, nextTask]

/-- No task changes its place, and the transports of the lines written keep their peers. -/
structure SameTasks (before after : ClientConnectServer) : Prop where
  taskQueue : after.taskQueue = before.taskQueue
  distributor : after.distributor = before.distributor
  wire : after.wire = before.wire
  enqueued : after.enqueued = before.enqueued
  failedDrains : after.failedDrains = before.failedDrains
  peers : before.peers <+: after.peers

theorem stored_sameTasks (writes : Bool) (now : Nat) (fields : JsonObject) (taskId : Json)
    (server : ClientConnectServer) : SameTasks server (stored writes now fields taskId server) := by
  cases writes <;> exact ⟨rfl, rfl, rfl, rfl, rfl, List.prefix_rfl⟩

theorem readConnection_sameTasks (codec : TextCodec) (handler : Handler) (read : Readline)
    (now : Nat) (writes : Bool) (server : ClientConnectServer) :
    SameTasks server (readConnection codec handler read now writes server) := by
  have done := readConnection_done codec handler read now writes server
  generalize readConnection codec handler read now writes server = after at done
  obtain ⟨clients, equation, _⟩ := endHandler_eq handler server
  cases done with
  | malformed =>
      rw [equation]
      exact ⟨rfl, rfl, rfl, rfl, rfl, List.prefix_rfl⟩
  | unregistered =>
      rw [equation]
      exact ⟨rfl, rfl, rfl, rfl, rfl, List.prefix_rfl⟩
  | heartbeat => exact ⟨rfl, rfl, rfl, rfl, rfl, List.prefix_rfl⟩
  | taskResult => exact stored_sameTasks writes now _ _ server
  | other => exact ⟨rfl, rfl, rfl, rfl, rfl, List.prefix_rfl⟩

/-- What happens to connections moves no task. -/
theorem step_sameTasks (codec : TextCodec) (server : ClientConnectServer) (event : Event)
    (noCreation : ∀ taskData taskId writes, event ≠ .createTask taskData taskId writes)
    (noDequeue : ∀ now writes, event ≠ .taskTaken now writes)
    (noAnswer : ∀ drained, event ≠ .drainDone drained) :
    SameTasks server (step codec server event) := by
  cases event with
  | createTask taskData taskId writes => exact absurd rfl (noCreation taskData taskId writes)
  | taskTaken now writes => exact absurd rfl (noDequeue now writes)
  | drainDone drained => exact absurd rfl (noAnswer drained)
  | connectionOpened clientIp clientPort now =>
      exact ⟨rfl, rfl, rfl, rfl, rfl, List.prefix_append _ _⟩
  | transportClosing connection => exact ⟨rfl, rfl, rfl, rfl, rfl, List.prefix_rfl⟩
  | lineRead connection read now writes =>
      simp only [step]
      split
      · exact readConnection_sameTasks codec _ read now writes server
      · exact ⟨rfl, rfl, rfl, rfl, rfl, List.prefix_rfl⟩

end ClientConnectServer
end NetworkAdapter
