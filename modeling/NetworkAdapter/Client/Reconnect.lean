import Mathlib.Logic.Function.Basic
import NetworkAdapter.Client.Results

/-!
# The reconnect guard

`is_reconnecting` is a lock made by hand: `connect_to_server` tests and sets it before its
first `await` and clears it when an attempt succeeds. The other two ways out of the loop
leave it set: a call that gives up, and a call that is cancelled with its task. From then on
a call returns as if it had connected. `reconnect_guarded_iff` says that the guard works in
exactly the runs in which every call that leaves the loop has connected.
-/

namespace NetworkAdapter.Client

open Execution

/-- A call of `connect_to_server` made by this coroutine is inside the retry loop. -/
def Inside (client : Client) (coroutine : Coroutine) : Prop :=
  (coroutine = .run ∨ client.running = .gathering) ∧ client.stands coroutine ≠ none

instance (client : Client) (coroutine : Coroutine) : Decidable (client.Inside coroutine) :=
  inferInstanceAs (Decidable (_ ∧ _))

/-- The client and, for each coroutine, how often its present call has come to
`await self._establish_connection()`. -/
structure Tracked where
  client : Client
  attempts : Coroutine → Nat

/-- The attempts of a call after a step that leaves it standing elsewhere. -/
def countAttempts (before after : Option Connecting) (attempts : Nat) : Nat :=
  match before, after with
  | _, none => 0
  | none, some _ => 1
  | some (.delaying _), some (.opening _) => attempts + 1
  | some _, some _ => attempts

def track (codec : TextCodec) (tracked : Tracked) (event : Event) : Tracked :=
  let after := step codec tracked.client event
  { client := after
    attempts := fun coroutine =>
      countAttempts (tracked.client.stands coroutine) (after.stands coroutine)
        (tracked.attempts coroutine) }

/-- `run` has come to its first attempt. -/
def start : Tracked := ⟨init, fun coroutine => if coroutine = .run then 1 else 0⟩

/-- At most one call is inside the loop, no call makes more than `MAX_RETRIES + 1` attempts,
the flag is set exactly while a call is inside, and when none is the next call connects. -/
structure Guarded (tracked : Tracked) : Prop where
  one : ∀ first second, tracked.client.Inside first → tracked.client.Inside second →
    first = second
  few : ∀ coroutine, tracked.attempts coroutine ≤ maxRetries + 1
  flag : tracked.client.isReconnecting = true ↔ ∃ coroutine, tracked.client.Inside coroutine
  retried : (∀ coroutine, ¬ tracked.client.Inside coroutine) →
    (connectToServer tracked.client).1 = .suspended (.opening 0)

/-- The event ends the last delay of a call, which gives up. -/
def GivesUp (client : Client) (event : Event) : Prop :=
  ∃ coroutine retries, event = .delayOver coroutine ∧ client.Inside coroutine ∧
    client.stands coroutine = some (.delaying retries) ∧ maxRetries < retries

/-- The event cancels the coroutines, one of which is inside the loop. -/
def CutShort (client : Client) (event : Event) : Prop :=
  event = .cancelled ∧ client.running = .gathering ∧ client.someStopped = true ∧
    ∃ coroutine, client.Inside coroutine

/-- No call leaves the loop but by connecting. -/
def LeavesConnected (client : Client) (event : Event) : Prop :=
  ¬ client.GivesUp event ∧ ¬ client.CutShort event

/-- A change that no call of `connect_to_server` notices. -/
structure SameLoop (before after : Client) : Prop where
  isReconnecting : after.isReconnecting = before.isReconnecting
  running : after.running = before.running
  stands : after.stands = before.stands

/-- From where to where a call goes while it stays in the loop. -/
inductive Continues : Connecting → Connecting → Prop where
  | failed (retries : Nat) : Continues (.opening retries) (.delaying (retries + 1))
  | again (retries : Nat) (few : retries ≤ maxRetries) :
      Continues (.delaying retries) (.opening retries)

/-- What an event does to the calls of `connect_to_server`. -/
inductive Turns (before : Client) (event : Event) : Client → Prop where
  | same {after : Client} (same : SameLoop before after) : Turns before event after
  | entered {after : Client} (coroutine : Coroutine) (free : before.isReconnecting = false)
      (gathering : before.running = .gathering) (outside : before.stands coroutine = none)
      (flag : after.isReconnecting = true) (running : after.running = before.running)
      (stands : after.stands = Function.update before.stands coroutine (some (.opening 0))) :
      Turns before event after
  | wentOn {after : Client} (coroutine : Coroutine) {stood now : Connecting}
      (inside : before.Inside coroutine) (stands : before.stands coroutine = some stood)
      (continues : Continues stood now) (flag : after.isReconnecting = before.isReconnecting)
      (running : after.running = .gathering ↔ before.running = .gathering)
      (moved : after.stands = Function.update before.stands coroutine (some now)) :
      Turns before event after
  | connected {after : Client} (coroutine : Coroutine) (inside : before.Inside coroutine)
      (flag : after.isReconnecting = false) (running : after.running = .gathering)
      (moved : after.stands = Function.update before.stands coroutine none) :
      Turns before event after
  | gaveUp {after : Client} (coroutine : Coroutine) (inside : before.Inside coroutine)
      (givesUp : before.GivesUp event) (flag : after.isReconnecting = before.isReconnecting)
      (running : after.running = .gathering → before.running = .gathering)
      (moved : after.stands = Function.update before.stands coroutine none) :
      Turns before event after
  | cancelled {after : Client} (cancels : event = .cancelled)
      (gathering : before.running = .gathering) (stopped : before.someStopped = true)
      (flag : after.isReconnecting = before.isReconnecting) (running : after.running = .finished)
      (stands : after.stands = before.stands) : Turns before event after

theorem SameLoop.refl (client : Client) : SameLoop client client := ⟨rfl, rfl, rfl⟩

/-- The place of a call, if it has been suspended. -/
def standing : Called → Option Connecting
  | .suspended stands => some stands
  | .returned => none
  | .raised => none

@[simp] theorem resume_isReconnecting (coroutine : Coroutine) (called : Called)
    (client : Client) :
    (resume coroutine called client).isReconnecting = client.isReconnecting := by
  cases coroutine <;> rfl

theorem resume_running {coroutine : Coroutine} (other : coroutine ≠ .run) (called : Called)
    (client : Client) : (resume coroutine called client).running = client.running := by
  cases coroutine with
  | run => exact absurd rfl other
  | _ => rfl

theorem resume_run_running (called : Called) (client : Client) :
    (resume .run called client).running = match called with
      | .suspended stands => .connecting stands
      | .returned => .gathering
      | .raised => .finished := rfl

/-- Only the coroutine that goes on stands elsewhere. -/
theorem resume_stands (coroutine : Coroutine) (called : Called) (client : Client) :
    (resume coroutine called client).stands =
      Function.update client.stands coroutine (standing called) := by
  funext other
  by_cases same : other = coroutine
  · subst same
    rw [Function.update_self]
    cases other <;> cases called <;> rfl
  · rw [Function.update_of_ne same]
    cases other <;> cases coroutine <;> first | rfl | exact absurd rfl same

/-- Where the calls stand is read off four fields. -/
theorem stands_congr {first second : Client} (running : second.running = first.running)
    (receiving : second.receiving = first.receiving) (sending : second.sending = first.sending)
    (beating : second.beating = first.beating) : second.stands = first.stands := by
  funext coroutine
  cases coroutine <;> simp only [Client.stands, running, receiving, sending, beating]

/-- A call made outside the loop enters it, unless the flag is set. -/
theorem callConnect_turns {client : Client} {event : Event} {coroutine : Coroutine}
    (other : coroutine ≠ .run) (gathering : client.running = .gathering)
    (outside : client.stands coroutine = none) :
    Turns client event (callConnect coroutine client) := by
  have unmoved : (connectToServer client).2.stands = client.stands := by
    unfold connectToServer
    split <;> exact stands_congr rfl rfl rfl rfl
  have moved : (callConnect coroutine client).stands =
      Function.update client.stands coroutine (standing (connectToServer client).1) := by
    rw [callConnect, resume_stands, unmoved]
  have running : (callConnect coroutine client).running = client.running := by
    rw [callConnect, resume_running other]
    unfold connectToServer
    split <;> rfl
  cases flag : client.isReconnecting with
  | true =>
      refine .same ⟨by simp [callConnect, connectToServer, flag], running, ?_⟩
      have returned : (connectToServer client).1 = .returned := by simp [connectToServer, flag]
      rw [moved, returned, standing, ← outside, Function.update_eq_self]
  | false =>
      refine .entered coroutine flag gathering outside ?_ running ?_
      · simp [callConnect, connectToServer, flag]
      · rw [moved]
        simp [connectToServer, flag, standing]

/-- A call that an attempt lets go on. -/
theorem connectionAttempted_turns {client : Client} (event : Event) {coroutine : Coroutine}
    (inside : client.Inside coroutine) {retries : Nat}
    (stands : client.stands coroutine = some (.opening retries)) (opened : Bool) :
    Turns client event (resume coroutine (connectionAttempted retries opened client).1
      (connectionAttempted retries opened client).2) := by
  have unmoved : (connectionAttempted retries opened client).2.stands = client.stands := by
    unfold connectionAttempted
    split <;> exact stands_congr rfl rfl rfl rfl
  have running : (connectionAttempted retries opened client).2.running = client.running := by
    unfold connectionAttempted
    split <;> rfl
  cases opened with
  | true =>
      refine .connected coroutine inside (by simp [connectionAttempted]) ?_ ?_
      · by_cases isRun : coroutine = .run
        · subst isRun
          rfl
        · rw [resume_running isRun, running]
          exact inside.1.resolve_left isRun
      · rw [resume_stands, unmoved]
        rfl
  | false =>
      refine .wentOn coroutine inside stands (.failed retries) (by simp [connectionAttempted]) ?_ ?_
      · by_cases isRun : coroutine = .run
        · subst isRun
          have connecting : client.running ≠ .gathering := by
            intro gathering
            simp [Client.stands, gathering] at stands
          simp [connectionAttempted, resume_run_running, connecting]
        · rw [resume_running isRun, running]
      · rw [resume_stands, unmoved]
        rfl

/-- A call whose delay is over. -/
theorem delayOver_turns {client : Client} {coroutine : Coroutine}
    (inside : client.Inside coroutine) {retries : Nat}
    (stands : client.stands coroutine = some (.delaying retries)) :
    Turns client (.delayOver coroutine) (resume coroutine (Client.delayOver retries client).1
      (Client.delayOver retries client).2) := by
  have unchanged : (Client.delayOver retries client).2 = client := by
    unfold Client.delayOver
    split <;> rfl
  have connecting : coroutine = .run → client.running ≠ .gathering := by
    rintro rfl gathering
    simp [Client.stands, gathering] at stands
  by_cases few : retries ≤ maxRetries
  · have called : (Client.delayOver retries client).1 = .suspended (.opening retries) := by
      simp [Client.delayOver, few]
    refine .wentOn coroutine inside stands (.again retries few) (by simp [unchanged]) ?_ ?_
    · by_cases isRun : coroutine = .run
      · have before := connecting isRun
        subst isRun
        simp [called, resume_run_running, before]
      · rw [resume_running isRun, unchanged]
    · rw [resume_stands, unchanged, called]
      rfl
  · have called : (Client.delayOver retries client).1 = .raised := by
      simp [Client.delayOver, few]
    have givesUp : client.GivesUp (.delayOver coroutine) :=
      ⟨coroutine, retries, rfl, inside, stands, Nat.lt_of_not_le few⟩
    refine .gaveUp coroutine inside givesUp (by simp [unchanged]) ?_ ?_
    · by_cases isRun : coroutine = .run
      · subst isRun
        simp [called, resume_run_running]
      · rw [resume_running isRun, unchanged]
        exact id
    · rw [resume_stands, unchanged, called]
      rfl

/-- A change of coroutines that are outside the loop and stay there. -/
theorem sameLoop_of_stands {before after : Client}
    (flag : after.isReconnecting = before.isReconnecting) (running : after.running = before.running)
    (receives : after.stands .receiveMessages = before.stands .receiveMessages)
    (sends : after.stands .sendResults = before.stands .sendResults)
    (beats : after.stands .sendHeartbeat = before.stands .sendHeartbeat) :
    SameLoop before after := by
  refine ⟨flag, running, funext fun coroutine => ?_⟩
  cases coroutine with
  | run => simp only [Client.stands, running]
  | receiveMessages => exact receives
  | sendResults => exact sends
  | sendHeartbeat => exact beats

theorem sendResult_sameLoop {client : Client} (waiting : client.sending = .waiting)
    (result : QueuedResult) (rest : List QueuedResult) :
    SameLoop client (sendResult result { client with taskResultQueue := rest }) := by
  rcases safeSend_run (.result result) { client with taskResultQueue := rest } with
    ⟨writer, _, _, sends⟩ | ⟨_, skips⟩
  · rw [sendResult, sends]
    exact sameLoop_of_stands rfl rfl rfl (by simp [Client.stands, waiting]) rfl
  · rw [sendResult, skips]
    exact sameLoop_of_stands rfl rfl rfl (by simp [Client.stands, waiting]) rfl

theorem sendHeartbeat_sameLoop {client : Client} (sleeping : client.beating = .sleeping)
    (now : Nat) : SameLoop client (sendHeartbeat now client) := by
  rcases safeSend_run (.heartbeat now) client with ⟨writer, _, _, sends⟩ | ⟨_, skips⟩
  · rw [sendHeartbeat, sends]
    exact sameLoop_of_stands rfl rfl rfl rfl (by simp [Client.stands, sleeping])
  · rw [sendHeartbeat, skips]
    exact sameLoop_of_stands rfl rfl rfl rfl (by simp [Client.stands, sleeping])

theorem receive_sameLoop {client : Client} (reading : client.receiving = .reading)
    (codec : TextCodec) (read : Except PyError (List UInt8)) :
    SameLoop client (receive codec read client) := by
  cases read with
  | ok raw =>
      rw [receive_line]
      exact sameLoop_of_stands rfl rfl rfl rfl rfl
  | error error =>
      rw [receive_failed]
      exact sameLoop_of_stands rfl rfl (by simp [Client.stands, reading]) rfl rfl

theorem finishTask_sameLoop (task : Json) (outcome : Except String Json) (now : Nat)
    (client : Client) : SameLoop client (finishTask task outcome now client) := by
  unfold finishTask
  split
  · exact sameLoop_of_stands rfl rfl rfl rfl rfl
  · split <;> exact sameLoop_of_stands rfl rfl rfl rfl rfl

/-- Every event of the gathered coroutines does one of these things to their calls. -/
theorem advance_turns (codec : TextCodec) {client : Client}
    (gathering : client.running = .gathering) (event : Event) :
    Turns client event (advance codec client event) := by
  cases event with
  | lineRead read =>
      simp only [advance]
      split
      · next reading _ => exact .same (receive_sameLoop reading codec _)
      · next reading _ => exact .same (receive_sameLoop reading codec _)
      · exact .same (.refl client)
  | receivePauseOver =>
      simp only [advance]
      split
      · next pausing =>
          exact callConnect_turns (by simp) gathering (by simp [Client.stands, pausing])
      · exact .same (.refl client)
  | taskTaken =>
      simp only [advance]
      split
      · exact .same (sameLoop_of_stands rfl rfl rfl rfl rfl)
      · exact .same (.refl client)
  | executed outcome now =>
      simp only [advance]
      split
      · exact .same (finishTask_sameLoop _ outcome now client)
      · exact .same (.refl client)
  | resultTaken =>
      simp only [advance]
      split
      · next waiting _ => exact .same (sendResult_sameLoop waiting _ _)
      · exact .same (.refl client)
  | resultDrained drained =>
      simp only [advance]
      split
      · next draining =>
          exact .same (sameLoop_of_stands rfl rfl rfl (by simp [Client.stands, draining]) rfl)
      · next draining =>
          exact .same (sameLoop_of_stands rfl rfl rfl
            (by simp [Client.stands, putBack, draining]) rfl)
      · exact .same (.refl client)
  | sendPauseOver =>
      simp only [advance]
      split
      · next pausing =>
          exact callConnect_turns (by simp) gathering (by simp [Client.stands, pausing])
      · exact .same (.refl client)
  | heartbeatDue now =>
      simp only [advance]
      split
      · next sleeping => exact .same (sendHeartbeat_sameLoop sleeping now)
      · exact .same (.refl client)
  | heartbeatDrained drained =>
      simp only [advance]
      split
      · next draining =>
          exact .same (sameLoop_of_stands rfl rfl rfl rfl (by simp [Client.stands, draining]))
      · next draining =>
          exact callConnect_turns (by simp) gathering (by simp [Client.stands, draining])
      · exact .same (.refl client)
  | cancelled =>
      simp only [advance]
      split
      · next stopped =>
          refine .cancelled rfl gathering stopped rfl rfl (funext fun coroutine => ?_)
          cases coroutine <;> simp [Client.stands, gathering]
      · exact .same (.refl client)
  | _ => exact .same (.refl client)

/-- Every event does one of these things to the calls of `connect_to_server`. -/
theorem step_turns (codec : TextCodec) (client : Client) (event : Event) :
    Turns client event (step codec client event) := by
  have others : Turns client event
      (if client.running = .gathering then advance codec client event else client) := by
    split
    · next gathering => exact advance_turns codec gathering event
    · exact .same (.refl client)
  cases event with
  | transportClosing connection => exact .same (sameLoop_of_stands rfl rfl rfl rfl rfl)
  | attempted coroutine opened =>
      simp only [step]
      split
      · next alive =>
          cases stands : client.stands coroutine with
          | none => simpa [goOn, stands] using .same (.refl client)
          | some stood =>
              cases stood with
              | opening retries =>
                  have inside : client.Inside coroutine := ⟨alive, by simp [stands]⟩
                  have turns := connectionAttempted_turns (.attempted coroutine opened) inside
                    stands opened
                  simpa [goOn, stands] using turns
              | delaying retries => simpa [goOn, stands] using .same (.refl client)
      · exact .same (.refl client)
  | delayOver coroutine =>
      simp only [step]
      split
      · next alive =>
          cases stands : client.stands coroutine with
          | none => simpa [goOn, stands] using .same (.refl client)
          | some stood =>
              cases stood with
              | opening retries => simpa [goOn, stands] using .same (.refl client)
              | delaying retries =>
                  have inside : client.Inside coroutine := ⟨alive, by simp [stands]⟩
                  simpa [goOn, stands] using delayOver_turns inside stands
      · exact .same (.refl client)
  | _ => exact others

/-- What the attempts counted so far say about a call that stands here. -/
def Counts (stands : Option Connecting) (attempts : Nat) : Prop :=
  match stands with
  | none => attempts = 0
  | some (.opening retries) => retries ≤ maxRetries ∧ attempts = retries + 1
  | some (.delaying retries) => retries ≤ maxRetries + 1 ∧ attempts = retries

/-- What holds whether or not the guard works: the counts are those of the loop variable, and
while `run` connects it is the only coroutine there is. -/
structure Standing (tracked : Tracked) : Prop where
  counted : ∀ coroutine, Counts (tracked.client.stands coroutine) (tracked.attempts coroutine)
  alone : tracked.client.stands .run ≠ none → ∀ coroutine, coroutine ≠ .run →
    tracked.client.stands coroutine = none

theorem stands_run_of_gathering {client : Client} (gathering : client.running = .gathering) :
    client.stands .run = none := by
  simp [Client.stands, gathering]

theorem Counts.few {stands : Option Connecting} {attempts : Nat}
    (counts : Counts stands attempts) : attempts ≤ maxRetries + 1 := by
  unfold Counts at counts
  split at counts <;> omega

/-- A call that stays where it is makes no attempt. -/
theorem Counts.stay {stands : Option Connecting} {attempts : Nat}
    (counts : Counts stands attempts) : Counts stands (countAttempts stands stands attempts) := by
  cases stands with
  | none => rfl
  | some stood => cases stood <;> exact counts

/-- A call that goes on has made as many attempts as its loop variable says. -/
theorem Counts.continue {stood now : Connecting} {attempts : Nat}
    (counts : Counts (some stood) attempts) (continues : Continues stood now) :
    Counts (some now) (countAttempts (some stood) (some now) attempts) := by
  cases continues with
  | failed retries => exact ⟨Nat.succ_le_succ counts.1, counts.2⟩
  | again retries few => exact ⟨few, congrArg (· + 1) counts.2⟩

/-- Where one call moves, it counts its attempts and the others keep theirs. -/
theorem counted_update {before after : Coroutine → Option Connecting} {attempts : Coroutine → Nat}
    (counted : ∀ coroutine, Counts (before coroutine) (attempts coroutine)) {moving : Coroutine}
    {now : Option Connecting} (moved : after = Function.update before moving now)
    (counts : Counts now (countAttempts (before moving) now (attempts moving)))
    (coroutine : Coroutine) :
    Counts (after coroutine)
      (countAttempts (before coroutine) (after coroutine) (attempts coroutine)) := by
  subst moved
  by_cases same : coroutine = moving
  · subst same
    rw [Function.update_self]
    exact counts
  · rw [Function.update_of_ne same]
    exact (counted coroutine).stay

/-- A coroutine other than `run` is inside the loop only while `run` gathers. -/
theorem Inside.run_stands {client : Client} {coroutine : Coroutine}
    (inside : client.Inside coroutine) (other : coroutine ≠ .run) : client.stands .run = none :=
  stands_run_of_gathering (inside.1.resolve_left other)

theorem track_standing (codec : TextCodec) (tracked : Tracked) (event : Event)
    (standing : Standing tracked) : Standing (track codec tracked event) := by
  obtain ⟨counted, alone⟩ := standing
  have unmoved {after : Coroutine → Option Connecting} (same : after = tracked.client.stands)
      (coroutine : Coroutine) : Counts (after coroutine) (countAttempts
        (tracked.client.stands coroutine) (after coroutine) (tracked.attempts coroutine)) := by
    rw [same]
    exact (counted coroutine).stay
  cases step_turns codec tracked.client event with
  | same same => exact ⟨unmoved same.stands, by simpa [track, same.stands] using alone⟩
  | entered coroutine free gathering outside flag running stands =>
      refine ⟨counted_update counted stands ?_, ?_⟩
      · rw [outside]
        exact ⟨Nat.zero_le _, rfl⟩
      · intro connecting
        have none := stands_run_of_gathering (running.trans gathering)
        exact absurd none connecting
  | @wentOn coroutine stood now inside stands continues flag running moved =>
      refine ⟨counted_update counted moved ?_, fun connecting other different => ?_⟩
      · rw [stands]
        have counts := counted coroutine
        rw [stands] at counts
        exact counts.continue continues
      · change (step codec tracked.client event).stands other = none
        by_cases isRun : coroutine = .run
        · subst isRun
          rw [moved, Function.update_of_ne different]
          exact alone inside.2 other different
        · refine absurd ?_ connecting
          change (step codec tracked.client event).stands .run = none
          rw [moved, Function.update_of_ne (Ne.symm isRun)]
          exact inside.run_stands isRun
  | connected coroutine inside flag running moved =>
      refine ⟨counted_update counted moved rfl, fun connecting => ?_⟩
      exact absurd (stands_run_of_gathering running) connecting
  | gaveUp coroutine inside givesUp flag running moved =>
      refine ⟨counted_update counted moved rfl, fun connecting => absurd ?_ connecting⟩
      change (step codec tracked.client event).stands .run = none
      by_cases isRun : coroutine = .run
      · rw [moved, isRun, Function.update_self]
      · rw [moved, Function.update_of_ne (Ne.symm isRun)]
        exact inside.run_stands isRun
  | cancelled cancels gathering stopped flag running stands =>
      exact ⟨unmoved stands, by simpa [track, stands] using alone⟩

theorem start_standing : Standing start := by
  refine ⟨fun coroutine => ?_, fun _ coroutine other => ?_⟩
  · cases coroutine with
    | run => exact ⟨Nat.zero_le _, rfl⟩
    | _ => exact rfl
  · cases coroutine with
    | run => exact absurd rfl other
    | _ => rfl

/-- The guard works where no call is inside the loop and the flag is clear. -/
theorem guarded_of_none {tracked : Tracked} (standing : Standing tracked)
    (clear : tracked.client.isReconnecting = false)
    (none : ∀ coroutine, ¬ tracked.client.Inside coroutine) : Guarded tracked where
  one first _ inside _ := absurd inside (none first)
  few coroutine := (standing.counted coroutine).few
  flag := by simp [clear, none]
  retried _ := by simp [connectToServer, clear]

/-- The guard works where one call is inside the loop and the flag is set. -/
theorem guarded_of_only {tracked : Tracked} (standing : Standing tracked)
    (set : tracked.client.isReconnecting = true) (only : Coroutine)
    (inside : tracked.client.Inside only)
    (single : ∀ coroutine, tracked.client.Inside coroutine → coroutine = only) :
    Guarded tracked where
  one first second insideFirst insideSecond :=
    (single first insideFirst).trans (single second insideSecond).symm
  few coroutine := (standing.counted coroutine).few
  flag := ⟨fun _ => ⟨only, inside⟩, fun _ => set⟩
  retried none := absurd inside (none only)

/-- A call that has not moved was inside before. -/
theorem Inside.before {before after : Client} {moving : Coroutine} {now : Option Connecting}
    (moved : after.stands = Function.update before.stands moving now)
    (running : after.running = .gathering → before.running = .gathering) {coroutine : Coroutine}
    (other : coroutine ≠ moving) (inside : after.Inside coroutine) : before.Inside coroutine := by
  have stands := inside.2
  rw [moved, Function.update_of_ne other] at stands
  exact ⟨inside.1.imp_right running, stands⟩

/-- Where the only call inside leaves the loop, none is left inside. -/
theorem none_inside_after {before after : Client} {leaving : Coroutine}
    (moved : after.stands = Function.update before.stands leaving none)
    (running : after.running = .gathering → before.running = .gathering)
    (single : ∀ coroutine, before.Inside coroutine → coroutine = leaving)
    (coroutine : Coroutine) : ¬ after.Inside coroutine := by
  intro inside
  by_cases same : coroutine = leaving
  · subst same
    have stands := inside.2
    rw [moved, Function.update_self] at stands
    exact stands rfl
  · exact same (single coroutine (inside.before moved running same))

/-- A step out of a guarded state in which no call leaves the loop but by connecting. -/
theorem track_guarded (codec : TextCodec) (tracked : Tracked) (event : Event)
    (known : Standing tracked) (guarded : Guarded tracked)
    (leaves : tracked.client.LeavesConnected event) : Guarded (track codec tracked event) := by
  have known' := track_standing codec tracked event known
  have idle (clear : tracked.client.isReconnecting = false) (coroutine : Coroutine) :
      ¬ tracked.client.Inside coroutine := by
    intro inside
    simp [guarded.flag.mpr ⟨coroutine, inside⟩] at clear
  cases step_turns codec tracked.client event with
  | same same =>
      have insides (coroutine : Coroutine) :
          (track codec tracked event).client.Inside coroutine ↔
            tracked.client.Inside coroutine := by
        simp [track, Inside, same.running, same.stands]
      cases flag : tracked.client.isReconnecting with
      | false =>
          exact guarded_of_none known' (same.isReconnecting.trans flag) fun coroutine inside =>
            idle flag coroutine ((insides coroutine).mp inside)
      | true =>
          obtain ⟨only, inside⟩ := guarded.flag.mp flag
          exact guarded_of_only known' (same.isReconnecting.trans flag) only
            ((insides only).mpr inside) fun coroutine also =>
              guarded.one coroutine only ((insides coroutine).mp also) inside
  | entered coroutine free gathering outside flag running stands =>
      refine guarded_of_only known' flag coroutine ?_ fun other inside => ?_
      · refine ⟨.inr (running.trans gathering), ?_⟩
        change (step codec tracked.client event).stands coroutine ≠ none
        simp [stands]
      · by_contra different
        exact idle free other (inside.before stands (fun _ => gathering) different)
  | @wentOn coroutine stood now inside _ continues flag running moved =>
      have set := guarded.flag.mpr ⟨coroutine, inside⟩
      refine guarded_of_only known' (flag.trans set) coroutine ?_ fun other also => ?_
      · refine ⟨inside.1.imp_right running.mpr, ?_⟩
        change (step codec tracked.client event).stands coroutine ≠ none
        simp [moved]
      · by_contra different
        exact different (guarded.one other coroutine
          (also.before moved running.mp different) inside)
  | connected coroutine inside flag running moved =>
      refine guarded_of_none known' flag fun other also => ?_
      by_cases isRun : coroutine = .run
      · -- `run` was alone, and the coroutines it starts are outside.
        subst isRun
        have stands : (step codec tracked.client event).stands other ≠ none := also.2
        rw [moved] at stands
        by_cases same : other = .run
        · simp [same] at stands
        · rw [Function.update_of_ne same] at stands
          exact stands (known.alone inside.2 other same)
      · exact none_inside_after moved (fun _ => inside.1.resolve_left isRun)
          (fun any within => guarded.one any coroutine within inside) other also
  | gaveUp coroutine inside givesUp flag running moved => exact absurd givesUp leaves.1
  | cancelled cancels gathering stopped flag running stands =>
      have none (coroutine : Coroutine) : ¬ tracked.client.Inside coroutine := fun inside =>
        leaves.2 ⟨cancels, gathering, stopped, coroutine, inside⟩
      have clear : tracked.client.isReconnecting = false := by
        rw [Bool.eq_false_iff]
        exact fun set => (guarded.flag.mp set).elim none
      refine guarded_of_none known' (flag.trans clear) fun coroutine inside => ?_
      have standing : (step codec tracked.client event).stands coroutine ≠ Option.none := inside.2
      rw [stands] at standing
      exact none coroutine ⟨.inr gathering, standing⟩

/-- A call that gives up raises. -/
theorem step_of_givesUp (codec : TextCodec) {client : Client} {event : Event}
    (givesUp : client.GivesUp event) :
    ∃ coroutine, client.Inside coroutine ∧
      step codec client event = resume coroutine .raised client := by
  obtain ⟨coroutine, retries, rfl, inside, stands, many⟩ := givesUp
  refine ⟨coroutine, inside, ?_⟩
  simp [step, inside.1, goOn, stands, Client.delayOver, Nat.not_le_of_lt many]

theorem gathering_of_raised {coroutine : Coroutine} {client : Client}
    (gathering : (resume coroutine .raised client).running = .gathering) :
    client.running = .gathering := by
  cases coroutine with
  | run => cases gathering
  | _ => exact gathering

/-- Where the guard works before and after a step, no call has left the loop but by
connecting. -/
theorem leaves_of_guarded (codec : TextCodec) (tracked : Tracked) (event : Event)
    (guarded : Guarded tracked) (after : Guarded (track codec tracked event)) :
    tracked.client.LeavesConnected event := by
  constructor
  · intro givesUp
    obtain ⟨coroutine, inside, raises⟩ := step_of_givesUp codec givesUp
    have set := guarded.flag.mpr ⟨coroutine, inside⟩
    have stillSet : (track codec tracked event).client.isReconnecting = true := by
      simp [track, raises, set]
    obtain ⟨other, also⟩ := after.flag.mp stillSet
    rw [show (track codec tracked event).client = resume coroutine .raised tracked.client
      from raises] at also
    exact none_inside_after (resume_stands coroutine .raised tracked.client) gathering_of_raised
      (fun any within => guarded.one any coroutine within inside) other also
  · rintro ⟨rfl, gathering, stopped, coroutine, inside⟩
    have set := guarded.flag.mpr ⟨coroutine, inside⟩
    have cancels : (track codec tracked .cancelled).client =
        { tracked.client with running := .finished } := by
      simp [track, step, gathering, advance, stopped]
    have stillSet : (track codec tracked .cancelled).client.isReconnecting = true := by
      rw [cancels]
      exact set
    obtain ⟨other, also⟩ := after.flag.mp stillSet
    rw [cancels] at also
    rcases also with ⟨rfl | gathers, standing⟩
    · exact standing rfl
    · cases gathers

theorem start_guarded : Guarded start := by
  refine guarded_of_only start_standing rfl .run ⟨.inl rfl, nofun⟩ fun coroutine inside => ?_
  rcases inside.1 with run | gathering
  · exact run
  · cases gathering

/-- The guard works along a run just if no call leaves the loop but by connecting: none gives
up, and none is cancelled inside. -/
theorem reconnect_guarded_iff (codec : TextCodec) (events : List Event) :
    Along (track codec) Guarded start events ↔
      Each (track codec) (fun tracked event => tracked.client.LeavesConnected event) start
        events := by
  refine along_iff_each (track_standing codec) (fun tracked event known guarded => ?_)
    start_standing start_guarded events
  exact ⟨leaves_of_guarded codec tracked event guarded,
    track_guarded codec tracked event known guarded⟩

/-- The connection is lost, six attempts to reconnect fail, and then a heartbeat fails too. -/
def givenUp : List Event :=
  [.attempted .run true, .heartbeatDue 20, .lineRead .failed, .receivePauseOver] ++
    (List.replicate 6 [.attempted .receiveMessages false, .delayOver .receiveMessages]).flatten ++
    [.heartbeatDrained (.error .connectionError)]

/-- The call of the heartbeat has returned as if it had connected. -/
theorem given_up_unguarded : ¬ Along (track plainCodec) Guarded start givenUp := by
  intro along
  have guarded := along.last
  have outside : ∀ coroutine, ¬ (run (track plainCodec) start givenUp).client.Inside coroutine := by
    intro coroutine
    cases coroutine <;> decide +kernel
  have set : (run (track plainCodec) start givenUp).client.isReconnecting = true := by
    decide +kernel
  obtain ⟨coroutine, inside⟩ := guarded.flag.mp set
  exact outside coroutine inside

end NetworkAdapter.Client
