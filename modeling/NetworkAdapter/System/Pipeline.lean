import NetworkAdapter.Client.Results
import NetworkAdapter.Client.TaskController
import NetworkAdapter.Semantics.Custody
import NetworkAdapter.Server.Delivery
import NetworkAdapter.System.Pipe

/-!
# Server and clients over their connections

The coroutines of the server and of any number of clients, one to an IP, with a pipe for
either direction of every connection between them. A connection is known by its client and
the client's number for it; `accepted` lists the connections in the order in which the
server got to serve them, which is the server's number for them. What a read meets is no
choice of the environment here but what the pipe holds.

`sent`, `executed` and `returned` only record what happened; no function reads them.
-/

namespace NetworkAdapter

/-- `{'data':task_data,'type':'task'}`, what `distribute_tasks` sends. -/
def QueuedTask.message (task : QueuedTask) : Json :=
  .obj [("data", .obj task.data), ("type", .str "task")]

/-- What `send_heartbeat` and `send_results` send. -/
def Outgoing.message : Outgoing → Json
  | .heartbeat timestamp => .obj [("type", .str "heartbeat"), ("timestamp", .number timestamp)]
  | .result queued => queued.message

/-- A call of `execute_task` that has come to its end: what became of the calls that leave the
program, what the call returned or raised, and the actions carried out in it. -/
structure Execution where
  client : String
  task : Json
  platform : Platform
  outcome : Except String Json
  performed : List Action

/-- The call by a client whose controller is in this state. -/
def TaskController.execution (clientIp : String) (platform : Platform) (task : Json)
    (controller : TaskController) : Execution where
  client := clientIp
  task := task
  platform := platform
  outcome := controller.outcome platform task
  performed :=
    ((executeTask platform task).leaves controller).performed.drop controller.performed.length

structure Pipeline where
  server : ClientConnectServer
  clients : String → Client
  controllers : String → TaskController
  toClient : String → Nat → Pipe
  toServer : String → Nat → Pipe
  accepted : List (String × Nat)
  sent : List Json
  executed : List Execution
  /-- The tasks put back into the queue after a failed send. -/
  returned : List QueuedTask

namespace Pipeline

/-- What can happen between two suspensions of an event loop, or on the way between them. -/
inductive Event where
  | created (taskData : JsonObject) (taskId : String) (writes : Bool)
  | distributed (now : Nat) (writes : Bool)
  | drained (result : Except PyError Unit)
  | accepted (clientIp : String) (connection clientPort now : Nat)
  | serverRead (number now : Nat) (writes : Bool)
  | serverClosing (number : Nat)
  /-- An event of a client which is neither a read nor the end of an execution. -/
  | client (clientIp : String) (event : Client.Event)
  | clientRead (clientIp : String)
  | executed (clientIp : String) (platform : Platform) (now : Nat)
  | arrivedAtClient (clientIp : String) (connection count : Nat)
  | arrivedAtServer (clientIp : String) (connection count : Nat)
  | cutToClient (clientIp : String) (connection : Nat) (ending : Ending)
  | cutToServer (clientIp : String) (connection : Nat) (ending : Ending)

/-- Every client at its start, the server after `_init_params`, and nothing connected. -/
def init (operationTaskData : Table) (controllers : String → TaskController) : Pipeline where
  server := .init operationTaskData
  clients := fun _ => .init
  controllers := controllers
  toClient := fun _ _ => .empty
  toServer := fun _ _ => .empty
  accepted := []
  sent := []
  executed := []
  returned := []

/-- The pipes with one of them changed. -/
def changeAt (clientIp : String) (connection : Nat) (change : Pipe → Pipe)
    (pipes : String → Nat → Pipe) (client : String) (number : Nat) : Pipe :=
  if client = clientIp ∧ number = connection then change (pipes client number)
  else pipes client number

/-- A line the server has handed to a transport. -/
def carryToClient (json : JsonText) (pipeline : Pipeline) (line : Written) : Pipeline :=
  match pipeline.accepted[line.connection]? with
  | some (clientIp, connection) =>
      let message := line.task.message
      { pipeline with
        toClient := changeAt clientIp connection
          (Pipe.write message (ClientConnectServer.lineBytes json message)) pipeline.toClient
        sent := pipeline.sent ++ [message] }
  | none => pipeline

/-- A line a client has handed to a transport. -/
def carryToServer (json : JsonText) (clientIp : String) (pipeline : Pipeline) (line : SentLine) :
    Pipeline :=
  let message := line.content.message
  { pipeline with
    toServer := changeAt clientIp line.connection
      (Pipe.write message (Client.lineBytes (json.dumps message))) pipeline.toServer
    sent := pipeline.sent ++ [message] }

/-- An event of the server, and what it writes. -/
def serverStep (json : JsonText) (event : ClientConnectServer.Event) (pipeline : Pipeline) :
    Pipeline :=
  let after := ClientConnectServer.step json.codec pipeline.server event
  (after.wire.drop pipeline.server.wire.length).foldl (carryToClient json)
    { pipeline with server := after }

/-- An event of a client, and what it writes. -/
def clientStep (json : JsonText) (clientIp : String) (event : Client.Event)
    (pipeline : Pipeline) : Pipeline :=
  let before := pipeline.clients clientIp
  let after := Client.step json.codec before event
  (after.wire.drop before.wire.length).foldl (carryToServer json clientIp)
    { pipeline with clients := Function.update pipeline.clients clientIp after }

/-- Whether a handler still reads a connection. -/
def isServed (number : Nat) (server : ClientConnectServer) : Bool :=
  server.serving.any fun handler => handler.connection = number

/-- The connection `receive_messages` reads from, while it does. -/
def reading (client : Client) : Option Nat :=
  match client.running, client.receiving with
  | .gathering, .reading => client.reader
  | _, _ => none

/-- The task `execute_task` was called with, while the client runs. -/
def executing (client : Client) : Option Json :=
  match client.running, client.processing with
  | .gathering, .executing task => some task
  | _, _ => none

/-- One event. What cannot happen leaves everything alone. -/
def step (json : JsonText) (pipeline : Pipeline) : Event → Pipeline
  | .created taskData taskId writes =>
      serverStep json (.createTask taskData taskId writes) pipeline
  | .distributed now writes => serverStep json (.taskTaken now writes) pipeline
  | .drained result =>
      let after := serverStep json (.drainDone result) pipeline
      match pipeline.server.distributor, result with
      | .draining task, .error _ => { after with returned := pipeline.returned ++ [task] }
      | _, _ => after
  | .accepted clientIp connection clientPort now =>
      if connection < (pipeline.clients clientIp).connections ∧
          (clientIp, connection) ∉ pipeline.accepted then
        { serverStep json (.connectionOpened clientIp clientPort now) pipeline with
          accepted := pipeline.accepted ++ [(clientIp, connection)] }
      else pipeline
  | .serverRead number now writes =>
      match pipeline.accepted[number]? with
      | some (clientIp, connection) =>
          match (pipeline.toServer clientIp connection).next with
          | some (read, rest) =>
              if isServed number pipeline.server then
                serverStep json (.lineRead number read now writes)
                  { pipeline with
                    toServer := changeAt clientIp connection (fun _ => rest) pipeline.toServer }
              else pipeline
          | none => pipeline
      | none => pipeline
  | .serverClosing number => serverStep json (.transportClosing number) pipeline
  | .client clientIp event =>
      match event with
      | .lineRead _ => pipeline
      | .executed _ _ => pipeline
      | event => clientStep json clientIp event pipeline
  | .clientRead clientIp =>
      match reading (pipeline.clients clientIp) with
      | some connection =>
          match (pipeline.toClient clientIp connection).next with
          | some (read, rest) =>
              clientStep json clientIp (.lineRead read)
                { pipeline with
                  toClient := changeAt clientIp connection (fun _ => rest) pipeline.toClient }
          | none => pipeline
      | none => pipeline
  | .executed clientIp platform now =>
      match executing (pipeline.clients clientIp) with
      | some task =>
          let controller := pipeline.controllers clientIp
          let execution := controller.execution clientIp platform task
          { clientStep json clientIp (.executed execution.outcome now) pipeline with
            controllers := Function.update pipeline.controllers clientIp
              ((TaskController.executeTask platform task).leaves controller)
            executed := pipeline.executed ++ [execution] }
      | none => pipeline
  | .arrivedAtClient clientIp connection count =>
      { pipeline with
        toClient := changeAt clientIp connection (Pipe.arrive count) pipeline.toClient }
  | .arrivedAtServer clientIp connection count =>
      { pipeline with
        toServer := changeAt clientIp connection (Pipe.arrive count) pipeline.toServer }
  | .cutToClient clientIp connection ending =>
      { pipeline with
        toClient := changeAt clientIp connection (Pipe.cut ending) pipeline.toClient }
  | .cutToServer clientIp connection ending =>
      { pipeline with
        toServer := changeAt clientIp connection (Pipe.cut ending) pipeline.toServer }

end Pipeline
end NetworkAdapter
