import NetworkAdapter.Client.Results

/-!
# What an event does to the tasks of a client

Tasks come from the lines that are read, and go from the queue to `execute_task` one at a
time. Everything else a client does leaves them where they are; what it may change is the
connection the next line is read from.
-/

namespace NetworkAdapter.Client

/-- The task `execute_task` was called with. -/
def inHand (client : Client) : Option Json :=
  match client.processing with
  | .executing task => some task
  | _ => none

/-- The tasks stay, and the connection they come from too. -/
structure KeepsTasks (before after : Client) : Prop where
  taskQueue : after.taskQueue = before.taskQueue
  processing : after.processing = before.processing
  reader : after.reader = before.reader
  connections : after.connections = before.connections

/-- The tasks stay, and the connection is the same or a new one. -/
inductive Passes (before after : Client) : Prop where
  | kept (keeps : KeepsTasks before after)
  | opened (taskQueue : after.taskQueue = before.taskQueue)
      (processing : after.processing = before.processing)
      (reader : after.reader = some before.connections)
      (connections : after.connections = before.connections + 1)

theorem KeepsTasks.refl (client : Client) : KeepsTasks client client := ⟨rfl, rfl, rfl, rfl⟩

theorem KeepsTasks.trans {before middle after : Client} (first : KeepsTasks before middle)
    (second : KeepsTasks middle after) : KeepsTasks before after :=
  ⟨second.taskQueue.trans first.taskQueue, second.processing.trans first.processing,
    second.reader.trans first.reader, second.connections.trans first.connections⟩

theorem resume_keepsTasks (coroutine : Coroutine) (called : Called) (client : Client) :
    KeepsTasks client (resume coroutine called client) := by
  cases coroutine <;> exact ⟨rfl, rfl, rfl, rfl⟩

theorem callConnect_keepsTasks (coroutine : Coroutine) (client : Client) :
    KeepsTasks client (callConnect coroutine client) := by
  have called : KeepsTasks client (connectToServer client).2 := by
    unfold connectToServer
    split <;> exact ⟨rfl, rfl, rfl, rfl⟩
  exact called.trans (resume_keepsTasks _ _ _)

/-- A call that goes on passes what its continuation passes. -/
theorem goOn_passes {coroutine : Coroutine} {continued : Connecting → Option (Called × Client)}
    {client : Client} (passes : ∀ stands called after, continued stands = some (called, after) →
      Passes client after) : Passes client (goOn coroutine continued client) := by
  unfold goOn
  split
  · next called after going =>
      obtain ⟨stands, _, continues⟩ := Option.bind_eq_some_iff.mp going
      have resumed := resume_keepsTasks coroutine called after
      cases passes stands called after continues with
      | kept keeps => exact .kept (keeps.trans resumed)
      | opened taskQueue processing reader connections =>
          exact .opened (resumed.taskQueue.trans taskQueue)
            (resumed.processing.trans processing) (resumed.reader.trans reader)
            (resumed.connections.trans connections)
  · exact .kept (.refl client)

theorem sendResult_keepsTasks (result : QueuedResult) (client : Client) :
    KeepsTasks client (sendResult result client) := by
  rcases safeSend_run (.result result) client with ⟨writer, _, _, sends⟩ | ⟨_, skips⟩
  · rw [sendResult, sends]
    exact ⟨rfl, rfl, rfl, rfl⟩
  · rw [sendResult, skips]
    exact ⟨rfl, rfl, rfl, rfl⟩

theorem sendHeartbeat_keepsTasks (now : Nat) (client : Client) :
    KeepsTasks client (sendHeartbeat now client) := by
  rcases safeSend_run (.heartbeat now) client with ⟨writer, _, _, sends⟩ | ⟨_, skips⟩
  · rw [sendHeartbeat, sends]
    exact ⟨rfl, rfl, rfl, rfl⟩
  · rw [sendHeartbeat, skips]
    exact ⟨rfl, rfl, rfl, rfl⟩

theorem advance_keepsTasks (codec : TextCodec) (client : Client) {event : Event}
    (noRead : ∀ read, event ≠ .lineRead read) (noTaking : event ≠ .taskTaken)
    (noEnd : ∀ outcome now, event ≠ .executed outcome now) :
    KeepsTasks client (advance codec client event) := by
  cases event with
  | lineRead read => exact absurd rfl (noRead read)
  | taskTaken => exact absurd rfl noTaking
  | executed outcome now => exact absurd rfl (noEnd outcome now)
  | receivePauseOver =>
      simp only [advance]
      split
      · exact callConnect_keepsTasks _ client
      · exact .refl client
  | resultTaken =>
      simp only [advance]
      split
      · next result rest _ _ =>
          exact (⟨rfl, rfl, rfl, rfl⟩ : KeepsTasks client
            { client with taskResultQueue := rest }).trans (sendResult_keepsTasks result _)
      · exact .refl client
  | resultDrained drained =>
      simp only [advance]
      split <;> exact ⟨rfl, rfl, rfl, rfl⟩
  | sendPauseOver =>
      simp only [advance]
      split
      · exact callConnect_keepsTasks _ client
      · exact .refl client
  | heartbeatDue now =>
      simp only [advance]
      split
      · exact sendHeartbeat_keepsTasks now client
      · exact .refl client
  | heartbeatDrained drained =>
      simp only [advance]
      split
      · exact ⟨rfl, rfl, rfl, rfl⟩
      · exact callConnect_keepsTasks _ client
      · exact .refl client
  | cancelled =>
      simp only [advance]
      split <;> exact ⟨rfl, rfl, rfl, rfl⟩
  | _ => exact .refl client

/-- An event that is no read and neither the beginning nor the end of an execution. -/
theorem step_passes (codec : TextCodec) (client : Client) {event : Event}
    (noRead : ∀ read, event ≠ .lineRead read) (noTaking : event ≠ .taskTaken)
    (noEnd : ∀ outcome now, event ≠ .executed outcome now) :
    Passes client (step codec client event) := by
  have others : Passes client
      (if client.running = .gathering then advance codec client event else client) := by
    split
    · exact .kept (advance_keepsTasks codec client noRead noTaking noEnd)
    · exact .kept (.refl client)
  cases event with
  | transportClosing connection => exact .kept ⟨rfl, rfl, rfl, rfl⟩
  | attempted coroutine opened =>
      simp only [step]
      split
      · refine goOn_passes fun stands called after continues => ?_
        cases stands with
        | opening retries =>
            cases opened with
            | true =>
                cases continues
                exact .opened rfl rfl rfl rfl
            | false =>
                cases continues
                exact .kept (.refl client)
        | delaying retries => cases continues
      · exact .kept (.refl client)
  | delayOver coroutine =>
      simp only [step]
      split
      · refine goOn_passes fun stands called after continues => ?_
        cases stands with
        | opening retries => cases continues
        | delaying retries =>
            have same : (Client.delayOver retries client).2 = client := by
              unfold Client.delayOver
              split <;> rfl
            rw [Option.some.inj continues] at same
            exact .kept (same ▸ .refl _)
      · exact .kept (.refl client)
  | _ => exact others

/-- A read queues the task of its line, if it has one. -/
theorem step_lineRead (codec : TextCodec) {client : Client}
    (gathering : client.running = .gathering) (reading : client.receiving = .reading)
    {connection : Nat} (reader : client.reader = some connection) (read : Readline) :
    step codec client (.lineRead read) = receive codec read.result client := by
  simp only [step, if_pos gathering, advance, reading, reader]

/-- It leaves the connection and the task in hand. -/
theorem receive_kept (codec : TextCodec) (read : Except PyError (List UInt8)) (client : Client) :
    let after := receive codec read client
    after.reader = client.reader ∧ after.connections = client.connections ∧
      after.inHand = client.inHand := by
  cases read with
  | ok raw =>
      rw [receive_line]
      exact ⟨rfl, rfl, rfl⟩
  | error error =>
      rw [receive_failed]
      exact ⟨rfl, rfl, rfl⟩

/-- A task is taken from the queue while none is worked on. -/
theorem step_taskTaken (codec : TextCodec) (client : Client) :
    (∃ task rest, client.inHand = none ∧ client.taskQueue = task :: rest ∧
      step codec client .taskTaken =
        { client with taskQueue := rest, processing := .executing task }) ∨
    step codec client .taskTaken = client := by
  simp only [step, advance]
  split
  · split
    · next task rest waiting queue =>
        exact .inl ⟨task, rest, by simp [inHand, waiting], queue, rfl⟩
    · exact .inr rfl
  · exact .inr rfl

/-- The end of an execution leaves its coroutine waiting, or stopped. -/
theorem step_executed (codec : TextCodec) {client : Client}
    (gathering : client.running = .gathering) {task : Json}
    (executing : client.processing = .executing task) (outcome : Except String Json) (now : Nat) :
    step codec client (.executed outcome now) = finishTask task outcome now client := by
  simp only [step, if_pos gathering, advance, executing]

theorem finishTask_done (task : Json) (outcome : Except String Json) (now : Nat)
    (client : Client) :
    let after := finishTask task outcome now client
    after.inHand = none ∧ after.taskQueue = client.taskQueue ∧ after.reader = client.reader ∧
      after.connections = client.connections ∧ after.wire = client.wire := by
  intro after
  simp only [after, finishTask]
  split
  · exact ⟨rfl, rfl, rfl, rfl, rfl⟩
  · split <;> exact ⟨rfl, rfl, rfl, rfl, rfl⟩

end NetworkAdapter.Client
