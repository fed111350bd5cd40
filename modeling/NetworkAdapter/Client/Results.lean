import NetworkAdapter.Client.Receiving
import NetworkAdapter.Semantics.Execution

/-!
# What becomes of a result

`send_results` takes a result from the queue, writes it and puts it back if the send
raises. But a send to an absent or closing writer does not raise, it does nothing: a
result taken then is gone. `results_kept_iff` says that this is the only way to lose one,
in every order of the coroutines, of lost connections and of reconnects.
-/

namespace NetworkAdapter.Client

open Execution

/-- The result the current iteration of `send_results` holds. -/
def held (client : Client) : List QueuedResult :=
  match client.sending with
  | .draining result => [result]
  | _ => []

/-- `self.writer and not self.writer.is_closing()`. -/
def WriterOpen (client : Client) : Prop :=
  ∃ writer, client.writer = some writer ∧ writer ∉ client.closing

/-- A result was written to a writer that was not closing. -/
def Written (client : Client) (result : QueuedResult) : Prop :=
  ∃ line ∈ client.wire, line.content = .result result ∧ line.transportClosing = false

/-- Every result put into the queue is there, is held, or was written to an open writer. -/
def NoResultLost (client : Client) : Prop :=
  ∀ number < client.produced, ∃ result : QueuedResult, result.number = number ∧
    (result ∈ client.taskResultQueue ∨ result ∈ client.held ∨ client.Written result)

/-- The result an event takes from the queue. -/
def taken (client : Client) : Event → Option QueuedResult
  | .resultTaken =>
      match client.running, client.sending with
      | .gathering, .waiting => client.taskResultQueue.head?
      | _, _ => none
  | _ => none

/-- A result taken while the writer is absent or closing goes back to the queue, from which
it is taken again. -/
def ReturnsUnsent (codec : TextCodec) (client : Client) (event : Event) : Prop :=
  ∀ result, client.taken event = some result → ¬ client.WriterOpen →
    result ∈ (step codec client event).taskResultQueue

/-- No result is taken while the writer is absent or closing. -/
def TakesWhileOpen (client : Client) (event : Event) : Prop :=
  ∀ result, client.taken event = some result → client.WriterOpen

/-- A change of nothing that bears on results, but for lines added to the wire. -/
structure SameResults (before after : Client) : Prop where
  taskResultQueue : after.taskResultQueue = before.taskResultQueue
  produced : after.produced = before.produced
  held : after.held = before.held
  wire : before.wire <+: after.wire

/-- What an event does to the results. -/
inductive Moves (before : Client) (event : Event) : Client → Prop where
  | unchanged {after : Client} (same : SameResults before after) : Moves before event after
  | put {after : Client} (message : Json)
      (queue : after.taskResultQueue = before.taskResultQueue ++ [⟨before.produced, message⟩])
      (produced : after.produced = before.produced + 1) (held : after.held = before.held)
      (wire : after.wire = before.wire) : Moves before event after
  | written {after : Client} {result : QueuedResult} (takes : before.taken event = some result)
      (queue : before.taskResultQueue = result :: after.taskResultQueue)
      (produced : after.produced = before.produced) (idle : before.held = [])
      (held : after.held = [result]) (wire : before.wire <+: after.wire)
      (written : after.Written result) : Moves before event after
  | dropped {after : Client} {result : QueuedResult} (takes : before.taken event = some result)
      (queue : before.taskResultQueue = result :: after.taskResultQueue)
      (produced : after.produced = before.produced) (idle : before.held = [])
      (held : after.held = []) (wire : after.wire = before.wire)
      (unopened : ¬ before.WriterOpen) : Moves before event after
  | drained {after : Client} {result : QueuedResult} (held : before.held = [result])
      (queue : after.taskResultQueue = before.taskResultQueue)
      (produced : after.produced = before.produced) (done : after.held = [])
      (wire : after.wire = before.wire) : Moves before event after
  | returned {after : Client} {result : QueuedResult} (held : before.held = [result])
      (queue : after.taskResultQueue = before.taskResultQueue ++ [result])
      (produced : after.produced = before.produced) (done : after.held = [])
      (wire : after.wire = before.wire) : Moves before event after

theorem SameResults.refl (client : Client) : SameResults client client :=
  ⟨rfl, rfl, rfl, List.prefix_rfl⟩

theorem SameResults.trans {before middle after : Client} (first : SameResults before middle)
    (second : SameResults middle after) : SameResults before after :=
  ⟨second.taskResultQueue.trans first.taskResultQueue, second.produced.trans first.produced,
    second.held.trans first.held, first.wire.trans second.wire⟩

/-- A coroutine that resumes touches results only if it held one. -/
theorem resume_sameResults (coroutine : Coroutine) (called : Called) (client : Client)
    (idle : coroutine = .sendResults → client.held = []) :
    SameResults client (resume coroutine called client) := by
  cases coroutine with
  | sendResults =>
      refine ⟨rfl, rfl, ?_, List.prefix_rfl⟩
      rw [idle rfl]
      cases called <;> rfl
  | _ => exact ⟨rfl, rfl, rfl, List.prefix_rfl⟩

theorem connectToServer_sameResults (client : Client) :
    SameResults client (connectToServer client).2 := by
  unfold connectToServer
  split <;> exact ⟨rfl, rfl, rfl, List.prefix_rfl⟩

theorem connectionAttempted_sameResults (retries : Nat) (opened : Bool) (client : Client) :
    SameResults client (connectionAttempted retries opened client).2 := by
  unfold connectionAttempted
  split <;> exact ⟨rfl, rfl, rfl, List.prefix_rfl⟩

theorem delayOver_sameResults (retries : Nat) (client : Client) :
    SameResults client (Client.delayOver retries client).2 := by
  unfold Client.delayOver
  split <;> exact .refl client

theorem callConnect_sameResults (coroutine : Coroutine) (client : Client)
    (idle : coroutine = .sendResults → client.held = []) :
    SameResults client (callConnect coroutine client) := by
  have called := connectToServer_sameResults client
  exact called.trans (resume_sameResults _ _ _ fun sends => called.held.trans (idle sends))

/-- A coroutine in the loop of `connect_to_server` holds no result. -/
theorem held_of_stands {client : Client} {stands : Connecting}
    (inside : client.stands .sendResults = some stands) : client.held = [] := by
  unfold Client.stands at inside
  unfold held
  split
  · next sending => simp [sending] at inside
  · rfl

theorem goOn_sameResults {coroutine : Coroutine}
    {continued : Connecting → Option (Called × Client)} {client : Client}
    (same : ∀ stands called after, continued stands = some (called, after) →
      SameResults client after) :
    SameResults client (goOn coroutine continued client) := by
  unfold goOn
  split
  · next called after going =>
      obtain ⟨stands, inside, continues⟩ := Option.bind_eq_some_iff.mp going
      have kept := same stands called after continues
      refine kept.trans (resume_sameResults _ _ _ fun sends => ?_)
      rw [kept.held]
      exact held_of_stands (sends ▸ inside)
  · exact .refl client

/-- `_safe_send` writes to an open writer and does nothing otherwise. -/
theorem safeSend_run (content : Outgoing) (client : Client) :
    (∃ writer, client.writer = some writer ∧ writer ∉ client.closing ∧
      (safeSend content).run client = .ok true { client with
        wire := client.wire ++ [⟨writer, content, false⟩] }) ∨
    (¬ client.WriterOpen ∧ (safeSend content).run client = .ok false client) := by
  cases writer : client.writer with
  | none => exact .inr ⟨by simp [WriterOpen, writer], by simp [safeSend, writer]⟩
  | some connection =>
      by_cases closing : connection ∈ client.closing
      · exact .inr ⟨by simp [WriterOpen, writer, closing], by simp [safeSend, writer, closing]⟩
      · exact .inl ⟨connection, rfl, closing, by simp [safeSend, writer, closing]⟩

theorem sendHeartbeat_sameResults (now : Nat) (client : Client) :
    SameResults client (sendHeartbeat now client) := by
  rcases safeSend_run (.heartbeat now) client with ⟨writer, _, _, sends⟩ | ⟨_, skips⟩
  · rw [sendHeartbeat, sends]
    exact ⟨rfl, rfl, rfl, List.prefix_append _ _⟩
  · rw [sendHeartbeat, skips]
    exact ⟨rfl, rfl, rfl, List.prefix_rfl⟩

theorem receive_sameResults (codec : TextCodec) (read : Except PyError (List UInt8))
    (client : Client) : SameResults client (receive codec read client) := by
  cases read with
  | ok raw =>
      rw [receive_line]
      exact ⟨rfl, rfl, rfl, List.prefix_rfl⟩
  | error error =>
      rw [receive_failed]
      exact ⟨rfl, rfl, rfl, List.prefix_rfl⟩

/-- A finished task puts one result, unless it ends its coroutine. -/
theorem finishTask_moves (task : Json) (outcome : Except String Json) (now : Nat)
    (client : Client) (event : Event) :
    Moves client event (finishTask task outcome now client) := by
  unfold finishTask
  split
  · next processed => exact .put (taskResult processed now) rfl rfl rfl rfl
  · split
    · next failed _ => exact .put (taskResult failed now) rfl rfl rfl rfl
    · exact .unchanged ⟨rfl, rfl, rfl, List.prefix_rfl⟩

/-- A result that is taken is written to an open writer, or dropped. -/
theorem sendResult_moves {client : Client} (gathering : client.running = .gathering)
    (waiting : client.sending = .waiting) {result : QueuedResult} {rest : List QueuedResult}
    (queue : client.taskResultQueue = result :: rest) :
    Moves client .resultTaken (sendResult result { client with taskResultQueue := rest }) := by
  have takes : client.taken .resultTaken = some result := by
    simp [taken, gathering, waiting, queue]
  have idle : client.held = [] := by simp [held, waiting]
  rcases safeSend_run (.result result) { client with taskResultQueue := rest } with
    ⟨writer, present, opens, sends⟩ | ⟨unopened, skips⟩
  · rw [sendResult, sends]
    refine .written takes queue rfl idle rfl (List.prefix_append _ _) ?_
    exact ⟨_, List.mem_append_right _ (List.mem_singleton_self _), rfl, rfl⟩
  · rw [sendResult, skips]
    exact .dropped takes queue rfl idle rfl rfl unopened

/-- A drain that ends lets the result go, or puts it back. -/
theorem resultDrained_moves (codec : TextCodec) (client : Client) (drained : Except PyError Unit) :
    Moves client (.resultDrained drained) (advance codec client (.resultDrained drained)) := by
  simp only [advance]
  split
  · next result _ draining =>
      have held : client.held = [result] := by simp [held, draining]
      exact .drained held rfl rfl rfl rfl
  · next result _ draining =>
      have held : client.held = [result] := by simp [held, draining]
      exact .returned held rfl rfl rfl rfl
  · exact .unchanged (.refl client)

/-- Every event of the gathered coroutines does one of these things to the results. -/
theorem advance_moves (codec : TextCodec) {client : Client}
    (gathering : client.running = .gathering) (event : Event) :
    Moves client event (advance codec client event) := by
  cases event with
  | lineRead read =>
      simp only [advance]
      split
      · exact .unchanged (receive_sameResults codec _ client)
      · exact .unchanged (receive_sameResults codec _ client)
      · exact .unchanged (.refl client)
  | receivePauseOver =>
      simp only [advance]
      split
      · exact .unchanged (callConnect_sameResults .receiveMessages client nofun)
      · exact .unchanged (.refl client)
  | taskTaken =>
      simp only [advance]
      split
      · exact .unchanged ⟨rfl, rfl, rfl, List.prefix_rfl⟩
      · exact .unchanged (.refl client)
  | executed outcome now =>
      simp only [advance]
      split
      · exact finishTask_moves _ outcome now client _
      · exact .unchanged (.refl client)
  | resultTaken =>
      simp only [advance]
      split
      · next waiting queue => exact sendResult_moves gathering waiting queue
      · exact .unchanged (.refl client)
  | resultDrained drained => exact resultDrained_moves codec client drained
  | sendPauseOver =>
      simp only [advance]
      split
      · next pausing =>
          exact .unchanged (callConnect_sameResults .sendResults client fun _ => by
            simp [held, pausing])
      · exact .unchanged (.refl client)
  | heartbeatDue now =>
      simp only [advance]
      split
      · exact .unchanged (sendHeartbeat_sameResults now client)
      · exact .unchanged (.refl client)
  | heartbeatDrained drained =>
      simp only [advance]
      split
      · exact .unchanged ⟨rfl, rfl, rfl, List.prefix_rfl⟩
      · exact .unchanged (callConnect_sameResults .sendHeartbeat client nofun)
      · exact .unchanged (.refl client)
  | cancelled =>
      simp only [advance]
      split
      · exact .unchanged ⟨rfl, rfl, rfl, List.prefix_rfl⟩
      · exact .unchanged (.refl client)
  | _ => exact .unchanged (.refl client)

/-- Every event does one of these things to the results. -/
theorem step_moves (codec : TextCodec) (client : Client) (event : Event) :
    Moves client event (step codec client event) := by
  have others : Moves client event
      (if client.running = .gathering then advance codec client event else client) := by
    split
    · next gathering => exact advance_moves codec gathering event
    · exact .unchanged (.refl client)
  cases event with
  | transportClosing connection => exact .unchanged ⟨rfl, rfl, rfl, List.prefix_rfl⟩
  | attempted coroutine opened =>
      simp only [step]
      split
      · refine .unchanged (goOn_sameResults fun stands called after continues => ?_)
        cases stands with
        | opening retries =>
            have same := connectionAttempted_sameResults retries opened client
            rwa [Option.some.inj continues] at same
        | delaying retries => cases continues
      · exact .unchanged (.refl client)
  | delayOver coroutine =>
      simp only [step]
      split
      · refine .unchanged (goOn_sameResults fun stands called after continues => ?_)
        cases stands with
        | opening retries => cases continues
        | delaying retries =>
            have same := delayOver_sameResults retries client
            rwa [Option.some.inj continues] at same
      · exact .unchanged (.refl client)
  | _ => exact others

/-- The results that wait or are held have different numbers, of results that were put. A
result that is held has been written to an open writer. -/
structure Numbered (client : Client) : Prop where
  distinct : ((client.taskResultQueue ++ client.held).map QueuedResult.number).Nodup
  put : ∀ result ∈ client.taskResultQueue ++ client.held, result.number < client.produced
  written : ∀ result ∈ client.held, client.Written result

theorem Written.mono {before after : Client} {result : QueuedResult}
    (wire : before.wire <+: after.wire) (written : before.Written result) :
    after.Written result := by
  obtain ⟨line, member, content⟩ := written
  exact ⟨line, wire.subset member, content⟩

/-- Numbering is kept where the outstanding results only lose some or change their order. -/
theorem Numbered.of_outstanding {before after : Client} (numbered : Numbered before)
    (outstanding : ∃ outstanding, (after.taskResultQueue ++ after.held).Perm outstanding ∧
      outstanding.Sublist (before.taskResultQueue ++ before.held))
    (produced : after.produced = before.produced)
    (written : ∀ result ∈ after.held, after.Written result) : Numbered after := by
  obtain ⟨outstanding, perm, sublist⟩ := outstanding
  refine ⟨?_, fun result member => ?_, written⟩
  · exact ((perm.map _).nodup_iff).mpr (numbered.distinct.sublist (sublist.map _))
  · rw [produced]
    exact numbered.put result (sublist.subset (perm.subset member))

theorem Moves.numbered {before after : Client} {event : Event} (moves : Moves before event after)
    (numbered : Numbered before) : Numbered after := by
  cases moves with
  | unchanged same =>
      refine numbered.of_outstanding ⟨_, .refl _, ?_⟩ same.produced fun result member => ?_
      · rw [same.taskResultQueue, same.held]
      · exact (numbered.written result (same.held ▸ member)).mono same.wire
  | put message queue produced held wire =>
      have outstanding : (after.taskResultQueue ++ after.held).Perm
          (⟨before.produced, message⟩ :: (before.taskResultQueue ++ before.held)) := by
        rw [queue, held, List.append_assoc, List.singleton_append]
        exact List.perm_middle
      refine ⟨((outstanding.map _).nodup_iff).mpr ?_, fun result member => ?_,
        fun result member => ?_⟩
      · refine List.nodup_cons.mpr ⟨fun member => ?_, numbered.distinct⟩
        obtain ⟨result, inside, same⟩ := List.mem_map.mp member
        exact absurd same (Nat.ne_of_lt (numbered.put result inside))
      · rw [produced]
        rcases List.mem_cons.mp (outstanding.subset member) with rfl | earlier
        · exact Nat.lt_succ_self _
        · exact Nat.lt_succ_of_lt (numbered.put result earlier)
      · exact (numbered.written result (held ▸ member)).mono (wire ▸ List.prefix_rfl)
  | @written result takes queue produced idle held wire written =>
      refine numbered.of_outstanding ⟨result :: after.taskResultQueue, ?_, ?_⟩ produced
        fun other member => ?_
      · rw [held]
        exact List.perm_append_singleton result _
      · rw [queue, idle, List.append_nil]
      · rw [held] at member
        exact List.mem_singleton.mp member ▸ written
  | dropped takes queue produced idle held wire unopened =>
      refine numbered.of_outstanding ⟨_, .refl _, ?_⟩ produced (by simp [held])
      rw [queue, idle, held, List.append_nil, List.append_nil]
      exact List.sublist_cons_self _ _
  | drained held queue produced done wire =>
      refine numbered.of_outstanding ⟨_, .refl _, ?_⟩ produced (by simp [done])
      rw [queue, done, List.append_nil]
      exact List.sublist_append_left _ _
  | returned held queue produced done wire =>
      refine numbered.of_outstanding ⟨_, .refl _, ?_⟩ produced (by simp [done])
      rw [queue, done, held, List.append_nil]

/-- Nothing is lost where each result that was queued or held still is, or was written. -/
theorem NoResultLost.carry {before after : Client} (kept : NoResultLost before)
    (produced : after.produced = before.produced) (wire : before.wire <+: after.wire)
    (waiting : ∀ result ∈ before.taskResultQueue, result ∈ after.taskResultQueue ∨
      result ∈ after.held ∨ after.Written result)
    (holding : ∀ result ∈ before.held, result ∈ after.taskResultQueue ∨
      result ∈ after.held ∨ after.Written result) : NoResultLost after := by
  intro number below
  obtain ⟨result, same, place⟩ := kept number (produced ▸ below)
  refine ⟨result, same, ?_⟩
  rcases place with queued | held | written
  · exact waiting result queued
  · exact holding result held
  · exact .inr (.inr (written.mono wire))

/-- Nothing is lost by an event that drops no result. -/
theorem Moves.noResultLost {before after : Client} {event : Event}
    (moves : Moves before event after) (numbered : Numbered before)
    (opens : TakesWhileOpen before event) (kept : NoResultLost before) : NoResultLost after := by
  cases moves with
  | unchanged same =>
      refine kept.carry same.produced same.wire (fun result member => .inl ?_)
        fun result member => .inr (.inl ?_)
      · rw [same.taskResultQueue]
        exact member
      · rw [same.held]
        exact member
  | put message queue produced held wire =>
      intro number below
      rw [produced] at below
      rcases Nat.lt_succ_iff_lt_or_eq.mp below with earlier | latest
      · obtain ⟨result, same, place⟩ := kept number earlier
        refine ⟨result, same, ?_⟩
        rcases place with queued | holds | written
        · exact .inl (queue ▸ List.mem_append_left _ queued)
        · exact .inr (.inl (held ▸ holds))
        · exact .inr (.inr (written.mono (wire ▸ List.prefix_rfl)))
      · exact ⟨⟨before.produced, message⟩, latest.symm, .inl (by simp [queue])⟩
  | @written result takes queue produced idle held wire written =>
      refine kept.carry produced wire (fun other member => ?_) (by simp [idle])
      rw [queue] at member
      rcases List.mem_cons.mp member with rfl | later
      · exact .inr (.inr written)
      · exact .inl later
  | dropped takes queue produced idle held wire unopened => exact absurd (opens _ takes) unopened
  | @drained result held queue produced done wire =>
      refine kept.carry produced (wire ▸ List.prefix_rfl) (fun other member => .inl ?_)
        fun other member => .inr (.inr ?_)
      · rw [queue]
        exact member
      · exact (numbered.written other member).mono (wire ▸ List.prefix_rfl)
  | @returned result held queue produced done wire =>
      refine kept.carry produced (wire ▸ List.prefix_rfl) (fun other member => .inl ?_)
        fun other member => .inl ?_
      · rw [queue]
        exact List.mem_append_left _ member
      · rw [held] at member
        rw [queue]
        exact List.mem_append_right _ member

/-- Only the iteration of `send_results` that waits takes a result, the first one. -/
theorem taken_eq_some {client : Client} {event : Event} {result : QueuedResult}
    (takes : client.taken event = some result) :
    event = .resultTaken ∧ client.running = .gathering ∧ client.sending = .waiting ∧
      ∃ rest, client.taskResultQueue = result :: rest := by
  unfold taken at takes
  split at takes
  · split at takes
    · next gathering waiting =>
        obtain ⟨rest, queue⟩ := List.head?_eq_some_iff.mp takes
        exact ⟨rfl, gathering, waiting, rest, queue⟩
    · cases takes
  · cases takes

theorem step_resultTaken {codec : TextCodec} {client : Client}
    (gathering : client.running = .gathering) (waiting : client.sending = .waiting)
    {result : QueuedResult} {rest : List QueuedResult}
    (queue : client.taskResultQueue = result :: rest) :
    step codec client .resultTaken =
      sendResult result { client with taskResultQueue := rest } := by
  simp only [step, if_pos gathering, advance]
  split
  · next _ queue' =>
      rw [queue] at queue'
      cases queue'
      rfl
  · next none => exact (none _ _ waiting queue).elim

/-- A result taken while the writer is absent or closing does not go back: the queue holds no
other one of its number. -/
theorem not_returned {codec : TextCodec} {client : Client} (numbered : Numbered client)
    {event : Event} {result : QueuedResult} (takes : client.taken event = some result)
    (unopened : ¬ client.WriterOpen) : result ∉ (step codec client event).taskResultQueue := by
  obtain ⟨rfl, gathering, waiting, rest, queue⟩ := taken_eq_some takes
  have dropped : (sendResult result { client with taskResultQueue := rest }).taskResultQueue =
      rest := by
    rcases safeSend_run (.result result) { client with taskResultQueue := rest } with
      ⟨writer, present, opens, _⟩ | ⟨_, skips⟩
    · exact absurd ⟨writer, present, opens⟩ unopened
    · rw [sendResult, skips]
  rw [step_resultTaken gathering waiting queue, dropped]
  intro member
  have distinct := numbered.distinct
  rw [queue, List.cons_append, List.map_cons, List.nodup_cons] at distinct
  exact distinct.1 (List.mem_map_of_mem (List.mem_append_left _ member))

theorem init_numbered : Numbered init := ⟨List.nodup_nil, nofun, nofun⟩

theorem step_numbered (codec : TextCodec) (client : Client) (event : Event)
    (numbered : Numbered client) : Numbered (step codec client event) :=
  (step_moves codec client event).numbered numbered

/-- A step returns what it takes unsent just if it takes nothing from an unopened writer. -/
theorem returnsUnsent_iff (codec : TextCodec) (client : Client) (event : Event)
    (numbered : Numbered client) :
    ReturnsUnsent codec client event ↔ TakesWhileOpen client event := by
  constructor
  · intro returns result takes
    by_contra unopened
    exact not_returned numbered takes unopened (returns result takes unopened)
  · intro opens result takes unopened
    exact absurd (opens result takes) unopened

/-- No result is lost in a run, and those that could not be sent go back to the queue, just if
`send_results` never takes one while the writer is absent or closing. -/
theorem results_kept_iff (codec : TextCodec) (events : List Event) :
    (Along (step codec) NoResultLost init events ∧
        Each (step codec) (ReturnsUnsent codec) init events) ↔
      Each (step codec) TakesWhileOpen init events := by
  have returns : Each (step codec) (ReturnsUnsent codec) init events ↔
      Each (step codec) TakesWhileOpen init events :=
    each_congr_of_invariant Numbered (step_numbered codec) (returnsUnsent_iff codec)
      init_numbered events
  refine ⟨fun kept => returns.mp kept.2, fun opens => ⟨?_, returns.mpr opens⟩⟩
  have both : Along (step codec) (fun client => Numbered client ∧ NoResultLost client) init
      events := by
    refine along_of_each (fun client event holds opens => ?_) ⟨init_numbered, nofun⟩ opens
    exact ⟨step_numbered codec client event holds.1,
      (step_moves codec client event).noResultLost holds.1 opens holds.2⟩
  exact both.mono fun client holds => holds.2

/-- The line of a task, and the text functions as they are on that line. -/
def taskLine : String :=
  "\x7b\"type\": \"task\", \"data\": \x7b\"task_id\": 7\x7d\x7d"

def taskCodec : TextCodec where
  decode := Text.decode
  strip := Text.strip
  loads text :=
    if text = taskLine then
      .ok (.obj [("type", .str "task"), ("data", .obj [("task_id", .number 7)])])
    else .error .jsonDecodeError

/-- The connection closes while its task runs. -/
def closedWhileWorking : List Event :=
  [.attempted .run true, .lineRead (.line (lineBytes taskLine)), .taskTaken,
    .transportClosing 0, .executed (.ok (.obj [("task_id", .number 7)])) 60, .resultTaken]

/-- The result is in the queue no more, is not held and was never written. -/
theorem unsent_result_lost :
    ¬ Along (step taskCodec) NoResultLost init closedWhileWorking := by
  intro along
  have produced : (run (step taskCodec) init closedWhileWorking).produced = 1 := by
    decide +kernel
  have queue : (run (step taskCodec) init closedWhileWorking).taskResultQueue.length = 0 := by
    decide +kernel
  have held : (run (step taskCodec) init closedWhileWorking).held.length = 0 := by
    decide +kernel
  have wire : (run (step taskCodec) init closedWhileWorking).wire.length = 0 := by
    decide +kernel
  obtain ⟨result, _, queued | holds | ⟨line, written, _⟩⟩ := along.last 0 (by rw [produced]; simp)
  · rw [List.length_eq_zero_iff.mp queue] at queued
    cases queued
  · rw [List.length_eq_zero_iff.mp held] at holds
    cases holds
  · rw [List.length_eq_zero_iff.mp wire] at written
    cases written

end NetworkAdapter.Client
