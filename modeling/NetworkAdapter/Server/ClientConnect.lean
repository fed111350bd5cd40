import NetworkAdapter.Semantics.Effect
import NetworkAdapter.Store.TinyDb

/-!
# The client connection server

`server/client_connect.py` between its suspension points. A connection is the
number of its stream reader and writer, in the order the connections were
opened. Reads, clock readings, task ids and the success of a database write are
arguments: the environment chooses them.

`connectedClients`, `taskQueue` and `operationTaskData` are the program's own
state. `distributor` and `serving` are the control points of its coroutines, and
`peers`, `closing` and `wire` belong to the transports. `enqueued` and
`failedDrains` only record what happened; no function reads them.
-/

namespace NetworkAdapter

/-- One entry of `connected_clients`. -/
structure ClientInfo where
  writer : Nat
  reader : Nat
  clientIp : String
  clientPort : Nat
  lastHeartbeatTime : Nat
deriving DecidableEq

/-- A running `handle_rpc` with the locals it keeps across its awaits. -/
structure Handler where
  connection : Nat
  clientIp : String
  clientPort : Nat
deriving DecidableEq

/-- A task object in `taskQueue`. `number` is its identity, the count of tasks
enqueued before it; `create_task` stored the id before the object got there. -/
structure QueuedTask where
  number : Nat
  data : JsonObject
  taskId : String
  identified : Fields.get? data "task_id" = some (.str taskId)

/-- A line handed to a transport, and whether that transport was closing then. -/
structure Written where
  connection : Nat
  task : QueuedTask
  transportClosing : Bool

/-- Where `distribute_tasks` stands. -/
inductive Distributor where
  /-- At `await self.taskQueue.get()`. -/
  | waiting
  /-- At `await writer.drain()`, the line of this task already written. -/
  | draining (task : QueuedTask)
  /-- An exception has left the loop. -/
  | stopped (error : PyError)

/-- What `await reader.readline()` meets. -/
inductive Readline where
  /-- The bytes up to and including the next newline. -/
  | line (raw : List UInt8)
  /-- The end of the stream, with the bytes after the last newline. -/
  | endOfStream (rest : List UInt8)
  /-- The reader has an exception set, as after a connection reset. -/
  | failed

/-- The text functions of the standard library a received line goes through. -/
structure TextCodec where
  decode : List UInt8 → Except PyError String
  strip : String → String
  loads : String → Except PyError Json

structure ClientConnectServer where
  connectedClients : Dict String ClientInfo
  taskQueue : List QueuedTask
  operationTaskData : Table
  distributor : Distributor
  serving : List Handler
  peers : List String
  closing : List Nat
  wire : List Written
  enqueued : List QueuedTask
  failedDrains : List Nat

/-- The `limit` of `asyncio.start_server`. -/
def Readline.limit : Nat := 65536

/-- `readline` returns a line or the rest of the stream, and raises when there is
more than the limit before the delimiter or the reader has an exception. -/
def Readline.result : Readline → Except PyError (List UInt8)
  | .line raw => if limit + 1 < raw.length then .error .valueError else .ok raw
  | .endOfStream rest => if limit < rest.length then .error .valueError else .ok rest
  | .failed => .error .connectionError

/-- `json.loads(data_raw.decode().strip())`. -/
def TextCodec.parse (codec : TextCodec) (raw : List UInt8) : Except PyError Json := do
  codec.loads (codec.strip (← codec.decode raw))

/-- `prefix + value`, for a value which may not be a text. -/
def concatText (start : String) : Json → Except PyError String
  | .str text => .ok (start ++ text)
  | _ => .error .typeError

namespace ClientConnectServer

/-- The server after `_init_params`, over the given contents of `operation_task_data`. -/
def init (operationTaskData : Table) : ClientConnectServer where
  connectedClients := .empty
  taskQueue := []
  operationTaskData := operationTaskData
  distributor := .waiting
  serving := []
  peers := []
  closing := []
  wire := []
  enqueued := []
  failedDrains := []

/-- `dbUtil.async_upsert_by_key('operation_task_data', task_data, 'task_id', task_id)`. -/
def upsertTask (taskData : Json) (taskId : Json) (now : Nat) (writes : Bool) :
    Effect PyError ClientConnectServer Unit :=
  match taskData with
  | .obj fields =>
      if writes then
        modify fun server => { server with
          operationTaskData :=
            server.operationTaskData.asyncUpsertByKey fields "task_id" taskId now }
      else throw .storageError
  | _ => throw .typeError

/-- `update_task`. The log line after the `try` statement reads the id once more,
outside of it. -/
def updateTask (taskData : Json) (now : Nat) (writes : Bool) :
    Effect PyError ClientConnectServer Unit := do
  tryCatch
    (do
      let taskId ← Effect.ofExcept (taskData.subscript "task_id")
      upsertTask taskData taskId now writes)
    fun _ => pure ()
  let _ ← Effect.ofExcept (taskData.subscript "task_id")

/-- `handle_heartbeat`. -/
def handleHeartbeat (clientIp : String) (now : Nat) : Effect PyError ClientConnectServer Unit := do
  match (← get).connectedClients.get? clientIp with
  | some info =>
      modify fun server => { server with
        connectedClients :=
          server.connectedClients.set clientIp { info with lastHeartbeatTime := now } }
  | none => throw (.keyError clientIp)

/-- `handle_task_result`. -/
def handleTaskResult (taskResult : Json) (now : Nat) (writes : Bool) :
    Effect PyError ClientConnectServer Unit :=
  updateTask taskResult now writes

/-- `if reader.exception:` tests the bound method, not the call of it, and a
method is true whatever the reader holds. -/
def readerException (_ : Handler) : Bool := true

/-- One iteration of the loop of `handle_rpc`; the result says whether `break` was reached. -/
def serveLine (codec : TextCodec) (handler : Handler) (read : Readline) (now : Nat)
    (writes : Bool) : Effect PyError ClientConnectServer Bool :=
  tryCatch
    (do
      let dataRaw ← Effect.ofExcept read.result
      let data ← Effect.ofExcept (codec.parse dataRaw)
      let kind ← Effect.ofExcept (data.get "type")
      if kind.equals (.str "heartbeat") then
        handleHeartbeat handler.clientIp now
      if kind.equals (.str "task_result") then
        let taskData ← Effect.ofExcept (data.get "data")
        handleTaskResult taskData now writes
      pure false)
    fun _ => pure (readerException handler)

/-- `del self.connected_clients[client_ip]`, the `finally` of `handle_rpc`. -/
def forgetClient (clientIp : String) : Effect PyError ClientConnectServer Unit := do
  match (← get).connectedClients.get? clientIp with
  | some _ =>
      modify fun server => { server with
        connectedClients := server.connectedClients.erase clientIp }
  | none => throw (.keyError clientIp)

/-- `handle_rpc` up to its first `await`: the new connection takes the slot of its IP. -/
def openConnection (clientIp : String) (clientPort now : Nat) (server : ClientConnectServer) :
    ClientConnectServer :=
  let connection := server.peers.length
  { server with
    connectedClients := server.connectedClients.set clientIp
      { writer := connection, reader := connection, clientIp := clientIp,
        clientPort := clientPort, lastHeartbeatTime := now }
    serving := server.serving ++ [⟨connection, clientIp, clientPort⟩]
    peers := server.peers ++ [clientIp] }

/-- `_safe_send` up to `drain`: a closing writer is skipped without a sign, and
the result says whether a line was written and is being drained. -/
def safeSend (writer : Nat) (task : QueuedTask) :
    Effect PyError ClientConnectServer Bool := do
  if writer ∈ (← get).closing then
    pure false
  else
    modify fun server => { server with
      wire := server.wire ++ [⟨writer, task, decide (writer ∈ server.closing)⟩] }
    pure true

/-- `self.connected_clients.get(client_ip)` raises for a value that cannot be hashed. -/
def lookupClient : Json → Effect PyError ClientConnectServer (Option ClientInfo)
  | .str clientIp => do pure ((← get).connectedClients.get? clientIp)
  | .arr _ => throw .typeError
  | .obj _ => throw .typeError
  | _ => pure none

/-- The body of `distribute_tasks` for one dequeued task, up to `drain` or to the
end of the iteration; the result says whether a line is being drained. -/
def distributeTask (task : QueuedTask) (now : Nat) (writes : Bool) :
    Effect PyError ClientConnectServer Bool := do
  if (JsonObject.get task.data "client_type").equals (.str "switch") then
    -- `distribute_switch_tasks` is empty.
    pure false
  else
    let clientIp := JsonObject.get task.data "client_ip"
    match ← lookupClient clientIp with
    | some info => safeSend info.writer task
    | none =>
        let _ ← Effect.ofExcept ((Json.obj task.data).subscript "task_id")
        let message ← Effect.ofExcept (concatText "No active connection for IP:" clientIp)
        let result := Fields.set (Fields.set task.data "status" (.str "error"))
          "message" (.str message)
        updateTask (.obj result) now writes
        pure false

/-- The rest of the iteration once `drain` has returned or raised: a failed send
puts the task back. -/
def finishDrain (task : QueuedTask) (drained : Except PyError Unit) :
    Effect PyError ClientConnectServer Unit :=
  tryCatch (Effect.ofExcept drained) fun _ =>
    modify fun server => { server with
      taskQueue := server.taskQueue ++ [task]
      failedDrains := server.failedDrains ++ [task.number] }

/-- The object `create_task` enqueues: the caller's, with id and status stored into it. -/
def createdData (taskData : JsonObject) (taskId : String) : JsonObject :=
  Fields.set (Fields.set taskData "task_id" (.str taskId)) "status" (.str "running")

theorem createdData_identified (taskData : JsonObject) (taskId : String) :
    Fields.get? (createdData taskData taskId) "task_id" = some (.str taskId) := by
  simp [createdData]

/-- `create_task`, with the value `generate_task_id` returned. -/
def createTask (taskData : JsonObject) (taskId : String) (writes : Bool) :
    Effect PyError ClientConnectServer JsonObject := do
  let data := createdData taskData taskId
  tryCatch
    (if writes then
      modify fun server => { server with
        operationTaskData := server.operationTaskData.asyncWrite data }
    else throw .storageError)
    fun _ => pure ()
  -- The log line names the player, so a task without one gets no further.
  let _ ← Effect.ofExcept ((Json.obj data).subscript "player")
  modify fun server =>
    let task : QueuedTask :=
      ⟨server.enqueued.length, data, taskId, createdData_identified taskData taskId⟩
    { server with
      taskQueue := server.taskQueue ++ [task]
      enqueued := server.enqueued ++ [task] }
  pure data

/-- What can happen between two suspensions of the event loop. -/
inductive Event where
  | createTask (taskData : JsonObject) (taskId : String) (writes : Bool)
  | connectionOpened (clientIp : String) (clientPort now : Nat)
  | lineRead (connection : Nat) (read : Readline) (now : Nat) (writes : Bool)
  | transportClosing (connection : Nat)
  | taskTaken (now : Nat) (writes : Bool)
  | drainDone (drained : Except PyError Unit)

/-- A handler that left its loop runs its `finally` and is gone, whatever that raises. -/
def endHandler (handler : Handler) (server : ClientConnectServer) : ClientConnectServer :=
  let after := (forgetClient handler.clientIp).leaves server
  { after with serving := after.serving.filter fun other => other.connection ≠ handler.connection }

/-- One read of a served connection. -/
def readConnection (codec : TextCodec) (handler : Handler) (read : Readline) (now : Nat)
    (writes : Bool) (server : ClientConnectServer) : ClientConnectServer :=
  match (serveLine codec handler read now writes).run server with
  | .ok false after => after
  | .ok true after => endHandler handler after
  | .error _ after => endHandler handler after

/-- One dequeue of the distributor. -/
def takeTask (task : QueuedTask) (now : Nat) (writes : Bool) (server : ClientConnectServer) :
    ClientConnectServer :=
  match (distributeTask task now writes).run server with
  | .ok true after => { after with distributor := .draining task }
  | .ok false after => { after with distributor := .waiting }
  | .error error after => { after with distributor := .stopped error }

/-- One event. A read of a connection nobody serves, a dequeue with nothing
queued or while draining, and an answer to no drain leave the server alone. -/
def step (codec : TextCodec) (server : ClientConnectServer) : Event → ClientConnectServer
  | .createTask taskData taskId writes => (createTask taskData taskId writes).leaves server
  | .connectionOpened clientIp clientPort now => openConnection clientIp clientPort now server
  | .lineRead connection read now writes =>
      match server.serving.find? fun handler => handler.connection = connection with
      | some handler => readConnection codec handler read now writes server
      | none => server
  | .transportClosing connection => { server with closing := connection :: server.closing }
  | .taskTaken now writes =>
      match server.distributor, server.taskQueue with
      | .waiting, task :: rest => takeTask task now writes { server with taskQueue := rest }
      | _, _ => server
  | .drainDone drained =>
      match server.distributor with
      | .draining task =>
          { (finishDrain task drained).leaves server with distributor := .waiting }
      | _ => server

end ClientConnectServer
end NetworkAdapter
