import NetworkAdapter.System.Reports

/-!
# A client that is served

Once a client is connected, registered and read from, and as long as its connection and its
drains hold, its coroutines stay in their loops and the server keeps its entry, whatever
happens to others. Then nothing of its tasks and reports is lost on the way.
-/

namespace NetworkAdapter

namespace Client

/-- The coroutines are in their loops, over one open connection. -/
structure Attending (connection : Nat) (client : Client) : Prop where
  gathering : client.running = .gathering
  receiving : client.receiving = .reading
  reader : client.reader = some connection
  writer : client.writer = some connection
  alive : connection ∉ client.closing
  processing : ∀ error, client.processing ≠ .stopped error
  sending : client.sending = .waiting ∨ ∃ result, client.sending = .draining result
  beating : client.beating = .sleeping ∨ client.beating = .draining

/-- The connection is not given up and no drain fails. -/
def Undisturbed (connection : Nat) : Event → Prop
  | .transportClosing other => other ≠ connection
  | .resultDrained drained => drained = .ok ()
  | .heartbeatDrained drained => drained = .ok ()
  | _ => True

/-- What a client writes over its connection and takes from its results. -/
inductive Writes (connection : Nat) (before after : Client) : Prop where
  | nothing (queue : after.taskResultQueue = before.taskResultQueue)
      (wire : after.wire = before.wire)
  | heartbeat (now : Nat) (queue : after.taskResultQueue = before.taskResultQueue)
      (wire : after.wire = before.wire ++ [⟨connection, .heartbeat now, false⟩])
  | result (result : QueuedResult)
      (queue : before.taskResultQueue = result :: after.taskResultQueue)
      (wire : after.wire = before.wire ++ [⟨connection, .result result, false⟩])

/-- A read writes nothing. -/
theorem receive_writes (connection : Nat) (codec : TextCodec)
    (read : Except PyError (List UInt8)) (client : Client) :
    Writes connection client (receive codec read client) := by
  cases read with
  | ok raw =>
      rw [receive_line]
      exact .nothing rfl rfl
  | error error =>
      rw [receive_failed]
      exact .nothing rfl rfl

namespace Attending

variable {connection : Nat} {client : Client}

theorem someStopped (attending : Attending connection client) : client.someStopped = false := by
  unfold Client.someStopped
  rw [attending.receiving]
  cases processing : client.processing with
  | stopped error => exact absurd processing (attending.processing error)
  | _ =>
      rcases attending.sending with sending | ⟨result, sending⟩ <;>
        rcases attending.beating with beating | beating <;> simp [sending, beating]

/-- No call of `connect_to_server` is going on. -/
theorem stands (attending : Attending connection client) (coroutine : Coroutine) :
    client.stands coroutine = none := by
  cases coroutine with
  | run => rw [Client.stands, attending.gathering]
  | receiveMessages => rw [Client.stands, attending.receiving]
  | sendResults =>
      rcases attending.sending with waits | ⟨result, drains⟩
      · rw [Client.stands, waits]
      · rw [Client.stands, drains]
  | sendHeartbeat =>
      rcases attending.beating with sleeps | drains
      · rw [Client.stands, sleeps]
      · rw [Client.stands, drains]

theorem goOn (attending : Attending connection client) (coroutine : Coroutine)
    (continued : Connecting → Option (Called × Client)) :
    Client.goOn coroutine continued client = client := by
  rw [Client.goOn, attending.stands]
  rfl

theorem safeSend (attending : Attending connection client) (content : Outgoing) :
    (Client.safeSend content).run client = .ok true { client with
      wire := client.wire ++ [⟨connection, content, false⟩] } := by
  rcases safeSend_run content client with ⟨writer, present, _, sends⟩ | ⟨unopened, _⟩
  · cases attending.writer.symm.trans present
    exact sends
  · exact absurd ⟨connection, attending.writer, attending.alive⟩ unopened

/-- The coroutines stay in their loops. -/
theorem advance (attending : Attending connection client) (codec : TextCodec) {event : Event}
    (undisturbed : Undisturbed connection event) (noRead : ∀ read, event ≠ .lineRead read)
    (noEnd : ∀ outcome now, event ≠ .executed outcome now) :
    Attending connection (Client.advance codec client event) ∧
      Writes connection client (Client.advance codec client event) := by
  have same : Attending connection client ∧ Writes connection client client :=
    ⟨attending, .nothing rfl rfl⟩
  cases event with
  | lineRead read => exact absurd rfl (noRead read)
  | executed outcome now => exact absurd rfl (noEnd outcome now)
  | receivePauseOver =>
      simp only [Client.advance, attending.receiving]
      exact same
  | taskTaken =>
      simp only [Client.advance]
      split
      · exact ⟨{ attending with processing := fun _ stopped => by cases stopped }, .nothing rfl rfl⟩
      · exact same
  | resultTaken =>
      simp only [Client.advance]
      split
      · next result rest waiting queue =>
          have left : Attending connection { client with taskResultQueue := rest } :=
            { attending with }
          rw [sendResult, left.safeSend]
          exact ⟨{ attending with sending := .inr ⟨result, rfl⟩ }, .result result queue rfl⟩
      · exact same
  | resultDrained drained =>
      obtain rfl : drained = .ok () := undisturbed
      simp only [Client.advance]
      rcases attending.sending with waits | ⟨result, drains⟩
      · simp only [waits]
        exact same
      · simp only [drains]
        exact ⟨{ attending with sending := .inl rfl }, .nothing rfl rfl⟩
  | sendPauseOver =>
      simp only [Client.advance]
      rcases attending.sending with waits | ⟨result, drains⟩
      · simp only [waits]
        exact same
      · simp only [drains]
        exact same
  | heartbeatDue now =>
      simp only [Client.advance]
      split
      · rw [sendHeartbeat, attending.safeSend]
        exact ⟨{ attending with beating := .inr rfl }, .heartbeat now rfl rfl⟩
      · exact same
  | heartbeatDrained drained =>
      obtain rfl : drained = .ok () := undisturbed
      simp only [Client.advance]
      rcases attending.beating with sleeps | drains
      · simp only [sleeps]
        exact same
      · simp only [drains]
        exact ⟨{ attending with beating := .inl rfl }, .nothing rfl rfl⟩
  | cancelled =>
      simp only [Client.advance, attending.someStopped]
      exact same
  | _ => exact same

theorem step (attending : Attending connection client) (codec : TextCodec) {event : Event}
    (undisturbed : Undisturbed connection event) (noRead : ∀ read, event ≠ .lineRead read)
    (noEnd : ∀ outcome now, event ≠ .executed outcome now) :
    Attending connection (Client.step codec client event) ∧
      Writes connection client (Client.step codec client event) := by
  have others := attending.advance codec undisturbed noRead noEnd
  cases event with
  | transportClosing other =>
      refine ⟨{ attending with alive := ?_ }, .nothing rfl rfl⟩
      simpa [Client.step] using ⟨Ne.symm undisturbed, attending.alive⟩
  | attempted coroutine opened =>
      simp only [Client.step, attending.goOn, ite_self]
      exact ⟨attending, .nothing rfl rfl⟩
  | delayOver coroutine =>
      simp only [Client.step, attending.goOn, ite_self]
      exact ⟨attending, .nothing rfl rfl⟩
  | _ =>
      simp only [Client.step, if_pos attending.gathering]
      exact others

theorem receive (attending : Attending connection client) (codec : TextCodec)
    (raw : List UInt8) : Attending connection (Client.receive codec (.ok raw) client) := by
  rw [receive_line]
  exact { attending with }

/-- A result for a task is put, and the loop goes on. -/
theorem finishTask (attending : Attending connection client) {execution : Execution} {data : Json}
    (reports : execution.report = some data) (now : Nat) :
    Attending connection (Client.finishTask execution.task execution.outcome now client) := by
  obtain ⟨clientIp, task, platform, outcome, performed⟩ := execution
  cases outcome with
  | ok processed => exact { attending with processing := fun _ stopped => by cases stopped }
  | error text =>
      cases marked : markFailed task text with
      | ok failed =>
          simp only [Client.finishTask, marked]
          exact { attending with processing := fun _ stopped => by cases stopped }
      | error error => simp [Execution.report, reportData, marked, Except.toOption] at reports

end Attending
end Client

namespace ClientConnectServer

/-- The server has the client registered under a connection it reads, and no other one of it. -/
structure Attends (clientIp : String) (number : Nat) (server : ClientConnectServer) : Prop where
  registered : ∃ info, server.connectedClients.get? clientIp = some info ∧ info.writer = number
  alive : number ∉ server.closing
  handled : ∃ handler,
    server.serving.find? (fun other => other.connection = number) = some handler ∧
      handler.clientIp = clientIp
  alone : ∀ handler ∈ server.serving, handler.clientIp = clientIp → handler.connection = number

variable {clientIp : String} {number : Nat} {server : ClientConnectServer}

/-- What keeps the registry and closes nothing. -/
theorem Attends.of_same (attends : Attends clientIp number server) {after : ClientConnectServer}
    (same : SameClients server after) (closing : after.closing = server.closing) :
    Attends clientIp number after := by
  refine ⟨?_, ?_, ?_, ?_⟩
  · rw [same.connectedClients]
    exact attends.registered
  · rw [closing]
    exact attends.alive
  · rw [same.serving]
    exact attends.handled
  · rw [same.serving]
    exact attends.alone

/-- Another client connects. -/
theorem Attends.open (attends : Attends clientIp number server) {other : String}
    (apart : other ≠ clientIp) (clientPort now : Nat) :
    Attends clientIp number (openConnection other clientPort now server) := by
  obtain ⟨info, found, writer⟩ := attends.registered
  obtain ⟨handler, handles, whose⟩ := attends.handled
  refine ⟨⟨info, ?_, writer⟩, attends.alive, ⟨handler, ?_, whose⟩, fun handler member same => ?_⟩
  · simp [openConnection, apart, found]
  · simp [openConnection, List.find?_append, handles]
  · rcases List.mem_append.mp member with earlier | new
    · exact attends.alone handler earlier same
    · cases List.mem_singleton.mp new
      exact absurd same apart

/-- The handler of another connection ends. -/
theorem Attends.end (attends : Attends clientIp number server) {handler : Handler}
    (member : handler ∈ server.serving) (apart : handler.connection ≠ number) :
    Attends clientIp number (endHandler handler server) := by
  obtain ⟨clients, equation, entries⟩ := endHandler_eq handler server
  obtain ⟨info, found, writer⟩ := attends.registered
  obtain ⟨own, handles, whose⟩ := attends.handled
  have foreign : handler.clientIp ≠ clientIp := fun same =>
    apart (attends.alone handler member same)
  rw [equation]
  refine ⟨⟨info, ?_, writer⟩, attends.alive, ⟨own, ?_, whose⟩, fun other remains same => ?_⟩
  · rw [entries, if_neg foreign, found]
  · rw [List.find?_filter, ← handles]
    refine congrArg (List.find? · _) (funext fun other => ?_)
    by_cases same : other.connection = number
    · simp [same, Ne.symm apart]
    · simp [same]
  · exact attends.alone other (List.mem_filter.mp remains).1 same

/-- A line of another connection is read. -/
theorem Attends.readOther (attends : Attends clientIp number server) {handler : Handler}
    (member : handler ∈ server.serving) (apart : handler.connection ≠ number) (codec : TextCodec)
    (read : Readline) (now : Nat) (writes : Bool) :
    Attends clientIp number (readConnection codec handler read now writes server) := by
  have done := readConnection_done codec handler read now writes server
  have foreign : handler.clientIp ≠ clientIp := fun same =>
    apart (attends.alone handler member same)
  generalize readConnection codec handler read now writes server = after at done
  cases done with
  | malformed => exact attends.end member apart
  | unregistered => exact attends.end member apart
  | heartbeat =>
      obtain ⟨info, found, writer⟩ := attends.registered
      exact ⟨⟨info, by simp [refreshed, foreign, found], writer⟩, attends.alive, attends.handled,
        attends.alone⟩
  | taskResult =>
      refine attends.of_same (stored_sameClients writes now _ _ server) ?_
      cases writes <;> rfl
  | other => exact attends

/-- A well-formed line of the connection itself is read. -/
theorem Attends.readOwn (attends : Attends clientIp number server) {handler : Handler}
    (whose : handler.clientIp = clientIp) {codec : TextCodec} {read : Readline}
    (delivers : (received codec read).isSome) (now : Nat) (writes : Bool) :
    Attends clientIp number (readConnection codec handler read now writes server) := by
  have done := readConnection_done codec handler read now writes server
  obtain ⟨info, found, writer⟩ := attends.registered
  generalize readConnection codec handler read now writes server = after at done
  cases done with
  | malformed nothing => simp [nothing] at delivers
  | unregistered _ missing =>
      rw [whose, found] at missing
      cases missing
  | heartbeat _ entry =>
      rw [whose, found] at entry
      cases entry
      exact ⟨⟨{ info with lastHeartbeatTime := now }, by simp [refreshed, whose], writer⟩,
        attends.alive, attends.handled, attends.alone⟩
  | taskResult =>
      refine attends.of_same (stored_sameClients writes now _ _ server) ?_
      cases writes <;> rfl
  | other => exact attends

end ClientConnectServer
end NetworkAdapter
