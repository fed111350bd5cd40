import NetworkAdapter.Semantics.Effect
import NetworkAdapter.Server.ClientConnect
import NetworkAdapter.Std.Text

/-!
# The host client

`client/conn.py` between its suspension points: `run`, which connects and starts the
others, and the coroutines `receive_messages`, `process_tasks`, `send_results` and
`send_heartbeat`. A connection is its number, in the order the connections were opened.
What a read, a drain, an attempt to connect or a task comes to is an argument: the
environment chooses it.

`closing` and `wire` belong to the transports. `produced` and `calls` only record what
happened; no function reads them but to number a result.
-/

namespace NetworkAdapter

/-- A message in `taskResultQueue`. `number` is its identity, the count of results before it. -/
structure QueuedResult where
  number : Nat
  message : Json

/-- What `_safe_send` is given. -/
inductive Outgoing where
  | heartbeat (timestamp : Nat)
  | result (result : QueuedResult)

/-- A line handed to a transport, and whether that transport was closing then. -/
structure SentLine where
  connection : Nat
  content : Outgoing
  transportClosing : Bool

/-- Where a call of `connect_to_server` stands in its loop. -/
inductive Connecting where
  /-- At `await self._establish_connection()`. -/
  | opening (retries : Nat)
  /-- At `await asyncio.sleep(self.RETRY_DELAY)`. -/
  | delaying (retries : Nat)
deriving DecidableEq

/-- What a call of `connect_to_server` has come to. -/
inductive Called where
  | suspended (stands : Connecting)
  | returned
  | raised

/-- Where `run` stands. -/
inductive Running where
  | connecting (stands : Connecting)
  /-- At `await asyncio.gather(*tasks)`. -/
  | gathering
  | finished
deriving DecidableEq

/-- Where `receive_messages` stands. -/
inductive Receiving where
  /-- At `await self.reader.readline()`. -/
  | reading
  /-- At the sleep before it reconnects. -/
  | pausing
  | connecting (stands : Connecting)
  | stopped
deriving DecidableEq

/-- Where `process_tasks` stands. -/
inductive Processing where
  /-- At `await self.taskQueue.get()`. -/
  | waiting
  /-- At `await self.taskController.execute_task(task_data)`. -/
  | executing (task : Json)
  | stopped (error : PyError)

/-- Where `send_results` stands. -/
inductive Sending where
  /-- At `await self.taskResultQueue.get()`. -/
  | waiting
  /-- At `await self.writer.drain()`, the line of this result already written. -/
  | draining (result : QueuedResult)
  | pausing
  | connecting (stands : Connecting)
  | stopped

/-- Where `send_heartbeat` stands. -/
inductive Beating where
  | sleeping
  | draining
  | connecting (stands : Connecting)
  | stopped

structure Client where
  reader : Option Nat
  writer : Option Nat
  taskQueue : List Json
  taskResultQueue : List QueuedResult
  isReconnecting : Bool
  running : Running
  receiving : Receiving
  processing : Processing
  sending : Sending
  beating : Beating
  connections : Nat
  closing : List Nat
  wire : List SentLine
  produced : Nat
  calls : Nat

namespace Client

/-- `MAX_RETRIES`. -/
def maxRetries : Nat := 5

/-- `message.encode() + b'\n'`, what `_safe_send` writes. -/
def lineBytes (message : String) : List UInt8 := Text.encode message ++ [Text.newline]

/-- `connect_to_server` up to its first `await`: a call returns at once while another one
is in the loop. -/
def connectToServer (client : Client) : Called × Client :=
  let called := { client with calls := client.calls + 1 }
  if client.isReconnecting then (.returned, called)
  else (.suspended (.opening 0), { called with isReconnecting := true })

/-- The loop goes on when an attempt to connect has succeeded or failed. -/
def connectionAttempted (retries : Nat) (opened : Bool) (client : Client) : Called × Client :=
  if opened then
    (.returned, { client with
      reader := some client.connections
      writer := some client.connections
      connections := client.connections + 1
      isReconnecting := false })
  else (.suspended (.delaying (retries + 1)), client)

/-- The loop goes on after its delay, or has given up. -/
def delayOver (retries : Nat) (client : Client) : Called × Client :=
  if retries ≤ maxRetries then (.suspended (.opening retries), client) else (.raised, client)

/-- `_safe_send` up to `drain`: an absent or closing writer is skipped without a sign, and
the result says whether a line was written and is being drained. -/
def safeSend (content : Outgoing) : Effect PyError Client Bool := do
  match (← get).writer with
  | none => pure false
  | some writer =>
      if writer ∈ (← get).closing then pure false
      else
        modify fun client => { client with
          wire := client.wire ++ [⟨writer, content, decide (writer ∈ client.closing)⟩] }
        pure true

/-- One iteration of `receive_messages` once `readline` has returned or raised. It raises
what reaches the outer `except`. -/
def receiveMessage (codec : TextCodec) (read : Except PyError (List UInt8)) :
    Effect PyError Client Unit := do
  let messageRaw ← Effect.ofExcept read
  tryCatch
    (do
      let message ← Effect.ofExcept (codec.parse messageRaw)
      let kind ← Effect.ofExcept (message.get "type")
      if kind.equals (.str "task") then
        tryCatch
          (do
            let data ← Effect.ofExcept (message.subscript "data")
            modify fun client => { client with taskQueue := client.taskQueue ++ [data] })
          -- The warning names the data once more.
          fun _ => do let _ ← Effect.ofExcept (message.subscript "data"))
    fun _ => pure ()

/-- The message `process_tasks` makes of a task's result. -/
def taskResult (data : Json) (now : Nat) : Json :=
  .obj [("type", .str "task_result"), ("data", data), ("timestamp", .number now)]

/-- `await self.taskResultQueue.put(task_result)`. -/
def putResult (message : Json) (client : Client) : Client :=
  { client with
    taskResultQueue := client.taskResultQueue ++ [⟨client.produced, message⟩]
    produced := client.produced + 1 }

/-- `task_data['status']='error'` and `task_data['message']=str(e)`. -/
def markFailed (task : Json) (message : String) : Except PyError Json :=
  match task with
  | .obj fields =>
      .ok (.obj (Fields.set (Fields.set fields "status" (.str "error")) "message" (.str message)))
  | _ => .error .typeError

/-- The rest of an iteration of `process_tasks` once `execute_task` has returned, or has
raised an exception of the given text. Where the inner handler cannot mark the task, the
outer one cannot either. -/
def finishTask (task : Json) (outcome : Except String Json) (now : Nat) (client : Client) :
    Client :=
  match outcome with
  | .ok processed => { putResult (taskResult processed now) client with processing := .waiting }
  | .error text =>
      match markFailed task text with
      | .ok failed => { putResult (taskResult failed now) client with processing := .waiting }
      | .error error => { client with processing := .stopped error }

/-- The coroutines that call `connect_to_server`. -/
inductive Coroutine where
  | run
  | receiveMessages
  | sendResults
  | sendHeartbeat
deriving DecidableEq

/-- Where a coroutine stands in the loop of `connect_to_server`, if it does. -/
def stands (client : Client) : Coroutine → Option Connecting
  | .run =>
      match client.running with
      | .connecting stands => some stands
      | _ => none
  | .receiveMessages =>
      match client.receiving with
      | .connecting stands => some stands
      | _ => none
  | .sendResults =>
      match client.sending with
      | .connecting stands => some stands
      | _ => none
  | .sendHeartbeat =>
      match client.beating with
      | .connecting stands => some stands
      | _ => none

/-- A coroutine goes on when its call has been suspended, has returned or has raised. -/
def resume (coroutine : Coroutine) (called : Called) (client : Client) : Client :=
  match coroutine with
  | .run =>
      { client with
        running := match called with
          | .suspended stands => .connecting stands
          | .returned => .gathering
          | .raised => .finished }
  | .receiveMessages =>
      { client with
        receiving := match called with
          | .suspended stands => .connecting stands
          | .returned => .reading
          | .raised => .stopped }
  | .sendResults =>
      { client with
        sending := match called with
          | .suspended stands => .connecting stands
          | .returned => .waiting
          | .raised => .stopped }
  | .sendHeartbeat =>
      { client with
        beating := match called with
          | .suspended stands => .connecting stands
          | .returned => .sleeping
          | .raised => .stopped }

/-- `await self.connect_to_server()`. -/
def callConnect (coroutine : Coroutine) (client : Client) : Client :=
  let (called, after) := connectToServer client
  resume coroutine called after

/-- Whether one of the gathered coroutines has ended with an exception. -/
def someStopped (client : Client) : Bool :=
  (match client.receiving with | .stopped => true | _ => false) ||
    (match client.processing with | .stopped _ => true | _ => false) ||
      (match client.sending with | .stopped => true | _ => false) ||
        (match client.beating with | .stopped => true | _ => false)

/-- `run` up to its first `await`. -/
def init : Client :=
  callConnect .run {
    reader := none, writer := none, taskQueue := [], taskResultQueue := []
    isReconnecting := false, running := .finished, receiving := .reading
    processing := .waiting, sending := .waiting, beating := .sleeping
    connections := 0, closing := [], wire := [], produced := 0, calls := 0 }

/-- What can happen between two suspensions of the event loop. -/
inductive Event where
  | attempted (coroutine : Coroutine) (opened : Bool)
  | delayOver (coroutine : Coroutine)
  | transportClosing (connection : Nat)
  | lineRead (read : Readline)
  | receivePauseOver
  | taskTaken
  | executed (outcome : Except String Json) (now : Nat)
  | resultTaken
  | resultDrained (drained : Except PyError Unit)
  | sendPauseOver
  | heartbeatDue (now : Nat)
  | heartbeatDrained (drained : Except PyError Unit)
  | cancelled

/-- One read of `receive_messages`. -/
def receive (codec : TextCodec) (read : Except PyError (List UInt8)) (client : Client) : Client :=
  match (receiveMessage codec read).run client with
  | .ok _ after => after
  | .error _ after => { after with receiving := .pausing }

/-- The handler of `send_results` puts the result back and pauses. -/
def putBack (result : QueuedResult) (client : Client) : Client :=
  { client with
    taskResultQueue := client.taskResultQueue ++ [result]
    sending := .pausing }

/-- `send_results` with a result it has taken. -/
def sendResult (result : QueuedResult) (client : Client) : Client :=
  match (safeSend (.result result)).run client with
  | .ok true after => { after with sending := .draining result }
  | .ok false after => { after with sending := .waiting }
  | .error _ after => putBack result after

/-- `send_heartbeat` after its sleep. -/
def sendHeartbeat (now : Nat) (client : Client) : Client :=
  match (safeSend (.heartbeat now)).run client with
  | .ok true after => { after with beating := .draining }
  | .ok false after => { after with beating := .sleeping }
  | .error _ after => callConnect .sendHeartbeat after

/-- One event of the coroutines `run` gathers. An event none of them waits for leaves the
client alone. -/
def advance (codec : TextCodec) (client : Client) : Event → Client
  | .lineRead read =>
      match client.receiving, client.reader with
      | .reading, some _ => receive codec read.result client
      | .reading, none => receive codec (.error (.attributeError "readline")) client
      | _, _ => client
  | .receivePauseOver =>
      match client.receiving with
      | .pausing => callConnect .receiveMessages client
      | _ => client
  | .taskTaken =>
      match client.processing, client.taskQueue with
      | .waiting, task :: rest => { client with taskQueue := rest, processing := .executing task }
      | _, _ => client
  | .executed outcome now =>
      match client.processing with
      | .executing task => finishTask task outcome now client
      | _ => client
  | .resultTaken =>
      match client.sending, client.taskResultQueue with
      | .waiting, result :: rest => sendResult result { client with taskResultQueue := rest }
      | _, _ => client
  | .resultDrained drained =>
      match client.sending, drained with
      | .draining _, .ok _ => { client with sending := .waiting }
      | .draining result, .error _ => putBack result client
      | _, _ => client
  | .sendPauseOver =>
      match client.sending with
      | .pausing => callConnect .sendResults client
      | _ => client
  | .heartbeatDue now =>
      match client.beating with
      | .sleeping => sendHeartbeat now client
      | _ => client
  | .heartbeatDrained drained =>
      match client.beating, drained with
      | .draining, .ok _ => { client with beating := .sleeping }
      | .draining, .error _ => callConnect .sendHeartbeat client
      | _, _ => client
  | .cancelled => if client.someStopped then { client with running := .finished } else client
  | _ => client

/-- The call of a coroutine goes on. -/
def goOn (coroutine : Coroutine) (continued : Connecting → Option (Called × Client))
    (client : Client) : Client :=
  match (client.stands coroutine).bind continued with
  | some (called, after) => resume coroutine called after
  | none => client

/-- One event. Besides `run` itself, coroutines run only while they are gathered. -/
def step (codec : TextCodec) (client : Client) (event : Event) : Client :=
  match event with
  | .transportClosing connection => { client with closing := connection :: client.closing }
  | .attempted coroutine opened =>
      if coroutine = .run ∨ client.running = .gathering then
        client.goOn coroutine fun
          | .opening retries => some (connectionAttempted retries opened client)
          | .delaying _ => none
      else client
  | .delayOver coroutine =>
      if coroutine = .run ∨ client.running = .gathering then
        client.goOn coroutine fun
          | .opening _ => none
          | .delaying retries => some (Client.delayOver retries client)
      else client
  | event => if client.running = .gathering then advance codec client event else client

end Client
end NetworkAdapter
