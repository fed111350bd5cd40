import NetworkAdapter.Controller.FalseAlarm

/-!
# The counter behind the alarm

`ip_white_table` as a machine on verdicts: a counter, the flag of an attack, and
whether the next verdict is the second one of a call, which decides on recovery. The
counter is cut off at twenty from above and at nothing from below, so eleven normal
verdicts always bring it down, while eleven anomalous ones raise the alarm only if
no excess of normal ones went before.
-/

namespace NetworkAdapter

open Execution

/-- What verdicts change. -/
structure Alarm where
  ddosingCount : Int
  isDDoSAttacking : Bool
  /-- `ip_white_table` asks for a second verdict. -/
  confirming : Bool
deriving DecidableEq

namespace Alarm

/-- No verdict taken yet. -/
def init : Alarm := ⟨0, false, false⟩

/-- What `ip_white_table` does with a verdict. A second one changes nothing: after a normal
one the branch raises before it resets the counter and the flag. -/
def step (alarm : Alarm) (anomalous : Bool) : Alarm :=
  if alarm.confirming then { alarm with confirming := false }
  else
    let count := DDoSSimulationAPP.countVerdict anomalous alarm.ddosingCount
    { ddosingCount := count
      isDDoSAttacking := alarm.isDDoSAttacking || decide (count > 10)
      confirming := alarm.isDDoSAttacking && !decide (count > 10) }

/-- Eleven anomalous verdicts in a row are an attack, and after eleven normal ones the counter
is no longer above the threshold. -/
structure Responsive (alarm : Alarm) : Prop where
  detects : (run step alarm (List.replicate 11 true)).isDDoSAttacking = true
  recovers : (run step alarm (List.replicate 11 false)).ddosingCount ≤ 10

instance (alarm : Alarm) : Decidable alarm.Responsive :=
  decidable_of_iff (_ ∧ _) ⟨fun both => ⟨both.1, both.2⟩, fun holds => ⟨holds.1, holds.2⟩⟩

/-- A second verdict is asked for during an attack and below the threshold. -/
def Confirms (alarm : Alarm) : Prop :=
  alarm.confirming = true → alarm.isDDoSAttacking = true ∧ alarm.ddosingCount ≤ 10

theorem step_confirms (alarm : Alarm) (anomalous : Bool) : (step alarm anomalous).Confirms := by
  unfold step Confirms
  split
  · simp
  · intro confirming
    simp only [Bool.and_eq_true, Bool.not_eq_true', decide_eq_false_iff_not, not_lt]
      at confirming
    simp [confirming.1, confirming.2]

theorem run_confirms (verdicts : List Bool) : (run step init verdicts).Confirms :=
  run_invariant Confirms (fun _ _ _ => step_confirms _ _) (by simp [Confirms, init]) verdicts

/-- The flag is never lowered. -/
theorem run_attacking {alarm : Alarm} (attacking : alarm.isDDoSAttacking = true)
    (verdicts : List Bool) : (run step alarm verdicts).isDDoSAttacking = true := by
  refine run_invariant (fun alarm : Alarm => alarm.isDDoSAttacking = true)
    (fun alarm verdict flag => ?_) attacking verdicts
  unfold step
  split
  · exact flag
  · simp [flag]

theorem step_calm (count : Int) (anomalous : Bool) :
    step ⟨count, false, false⟩ anomalous =
      let count := DDoSSimulationAPP.countVerdict anomalous count
      ⟨count, decide (count > 10), false⟩ := by
  simp [step]

/-- Out of a calm state, anomalous verdicts raise the alarm once they take the counter
above the threshold. -/
theorem calm_detects_iff (count : Int) (verdicts : Nat) (low : count ≤ 10) :
    (run step ⟨count, false, false⟩ (List.replicate verdicts true)).isDDoSAttacking = true ↔
      10 < count + verdicts := by
  induction verdicts generalizing count with
  | zero => simpa using low
  | succ verdicts inductionHypothesis =>
      rw [List.replicate_succ, run_cons, step_calm]
      simp only [DDoSSimulationAPP.countVerdict, if_true]
      by_cases high : count + 1 > 10
      · have attacking : (Alarm.mk (count + 1) (decide (count + 1 > 10)) false).isDDoSAttacking =
            true := decide_eq_true high
        refine iff_of_true (run_attacking attacking _) ?_
        push_cast
        omega
      · rw [decide_eq_false high, inductionHypothesis (count + 1) (by omega)]
        push_cast
        omega

/-- A calm counter is not above the threshold. -/
def Calm (alarm : Alarm) : Prop := alarm.isDDoSAttacking = false → alarm.ddosingCount ≤ 10

theorem run_calm (verdicts : List Bool) : (run step init verdicts).Calm := by
  refine run_invariant Calm (fun alarm verdict calm => ?_) (by simp [Calm, init]) verdicts
  unfold step Calm at *
  split
  · exact calm
  · intro off
    simpa using (Bool.or_eq_false_iff.mp off).2

/-- A normal verdict below twenty lowers a counter that is above the threshold. -/
theorem normal_lowers {alarm : Alarm} (confirms : alarm.Confirms) (verdicts : Nat)
    (few : verdicts ≤ 10) (bound : alarm.ddosingCount ≤ 10 + verdicts) :
    (run step alarm (List.replicate verdicts false)).ddosingCount ≤ 10 := by
  induction verdicts generalizing alarm with
  | zero => simpa using bound
  | succ verdicts inductionHypothesis =>
      rw [List.replicate_succ, run_cons]
      refine inductionHypothesis (step_confirms _ _) (by omega) ?_
      push_cast at bound
      unfold step
      split
      · next confirming =>
          have low := (confirms confirming).2
          show alarm.ddosingCount ≤ 10 + verdicts
          omega
      · have notClamped : ¬ alarm.ddosingCount > 20 := by omega
        show DDoSSimulationAPP.countVerdict false alarm.ddosingCount ≤ 10 + verdicts
        simp only [DDoSSimulationAPP.countVerdict, notClamped, Bool.false_eq_true, if_false]
        omega

/-- However high the counter was, the first of eleven normal verdicts cuts it off. -/
theorem normal_recovers {alarm : Alarm} (confirms : alarm.Confirms) :
    (run step alarm (List.replicate 11 false)).ddosingCount ≤ 10 := by
  rw [List.replicate_succ, run_cons]
  refine normal_lowers (step_confirms _ _) 10 le_rfl ?_
  unfold step
  split
  · next confirming =>
      have low := (confirms confirming).2
      show alarm.ddosingCount ≤ _
      omega
  · show DDoSSimulationAPP.countVerdict false alarm.ddosingCount ≤ _
    simp only [DDoSSimulationAPP.countVerdict, Bool.false_eq_true, if_false]
    split <;> omega

/-- After any verdicts the next eleven have their effect exactly if the attack is declared
already or the counter is not negative. -/
theorem responsive_iff (verdicts : List Bool) :
    (run step init verdicts).Responsive ↔
      (run step init verdicts).isDDoSAttacking = true ∨
        0 ≤ (run step init verdicts).ddosingCount := by
  have confirms := run_confirms verdicts
  have calm := run_calm verdicts
  generalize run step init verdicts = alarm at confirms calm
  have recovers := normal_recovers confirms
  obtain ⟨count, attacking, confirming⟩ := alarm
  cases attacking with
  | true => exact iff_of_true ⟨run_attacking rfl _, recovers⟩ (.inl rfl)
  | false =>
      have idle : confirming = false := by
        cases confirming with
        | false => rfl
        | true => cases (confirms rfl).1
      subst idle
      have detects := calm_detects_iff count 11 (calm rfl)
      constructor
      · intro responsive
        have above := detects.mp responsive.detects
        push_cast at above
        exact .inr (show 0 ≤ count by omega)
      · rintro (attacked | high)
        · cases attacked
        · have positive : 0 ≤ count := high
          exact ⟨detects.mpr (by push_cast; omega), recovers⟩

/-- One normal verdict, and eleven anomalous ones are not enough. -/
theorem normal_verdict_delays_alarm : ¬ (run step init [false]).Responsive := by decide

end Alarm

namespace DDoSSimulationAPP

variable {K : Type}

/-- The alarm of the application, between two calls of `ip_white_table`. -/
def alarm (app : DDoSSimulationAPP K) : Alarm := ⟨app.ddosingCount, app.isDDoSAttacking, false⟩

theorem Observed.alarm {before after : DDoSSimulationAPP K} (observed : Observed before after) :
    after.alarm = before.alarm := by
  simp [DDoSSimulationAPP.alarm, observed.ddosingCount, observed.isDDoSAttacking]

variable [EntropyArithmetic K]

/-- The verdicts a call of `ip_white_table` takes. -/
def verdicts (app : DDoSSimulationAPP K) : List Bool :=
  (detectDdosByEntropy app).1 ::
    if app.isDDoSAttacking = true ∧ ¬ (judge app).ddosingCount > 10 then
      [(detectDdosByEntropy (judge app)).1]
    else []

/-- The verdicts an event takes. -/
def verdictsOf (app : DDoSSimulationAPP K) : Event → List Bool
  | .packetIn message =>
      match (samplePacketIn message).run app with
      | .ok _ sampled =>
          if sampled.ruleSet message.datapath "ip_white_table" then sampled.verdicts else []
      | .error _ _ => []
  | _ => []

/-- The verdicts of a run. -/
def verdictsAlong (app : DDoSSimulationAPP K) : List Event → List Bool
  | [] => []
  | event :: rest => verdictsOf app event ++ verdictsAlong (step app event) rest

theorem judge_isDDoSAttacking (app : DDoSSimulationAPP K) :
    (judge app).isDDoSAttacking = app.isDDoSAttacking := rfl

theorem detectDdosByEntropy_alarm (app : DDoSSimulationAPP K) :
    (detectDdosByEntropy app).2.alarm = app.alarm := rfl

/-- The first verdict of a call is counted. -/
theorem alarm_step_judge (app : DDoSSimulationAPP K) :
    app.alarm.step (detectDdosByEntropy app).1 =
      ⟨(judge app).ddosingCount,
        app.isDDoSAttacking || decide ((judge app).ddosingCount > 10),
        app.isDDoSAttacking && !decide ((judge app).ddosingCount > 10)⟩ := rfl

/-- A call that does not get to the recovery branch takes one verdict. -/
theorem run_verdicts_single {app : DDoSSimulationAPP K}
    (settled : ¬ (app.isDDoSAttacking = true ∧ ¬ (judge app).ddosingCount > 10)) :
    run Alarm.step app.alarm app.verdicts =
      ⟨(judge app).ddosingCount,
        app.isDDoSAttacking || decide ((judge app).ddosingCount > 10),
        app.isDDoSAttacking && !decide ((judge app).ddosingCount > 10)⟩ := by
  rw [verdicts, if_neg settled, run_cons, run_nil, alarm_step_judge]

/-- The recovery branch takes a second one. -/
theorem run_verdicts_double {app : DDoSSimulationAPP K} (attacking : app.isDDoSAttacking = true)
    (low : ¬ (judge app).ddosingCount > 10) :
    run Alarm.step app.alarm app.verdicts =
      Alarm.step ⟨(judge app).ddosingCount, true, true⟩ (detectDdosByEntropy (judge app)).1 := by
  rw [verdicts, if_pos ⟨attacking, low⟩, run_cons, run_cons, run_nil, alarm_step_judge]
  simp [attacking, low]

/-- An event whose call is guarded changes the alarm by the verdicts of that call. -/
theorem run_verdictsOf {app sampled : DDoSSimulationAPP K} {message : PacketIn} {value : Unit}
    (returns : (samplePacketIn message).run app = .ok value sampled)
    (on : sampled.ruleSet message.datapath "ip_white_table" = true) :
    run Alarm.step app.alarm (verdictsOf app (.packetIn message)) =
      run Alarm.step sampled.alarm sampled.verdicts := by
  rw [verdictsOf, returns, (samplePacketIn_observed_of_ok returns).alarm]
  simp only [on, if_true]

/-- An event changes the alarm as its verdicts do. -/
theorem step_alarm (app : DDoSSimulationAPP K) (event : Event) :
    (step app event).alarm = run Alarm.step app.alarm (verdictsOf app event) := by
  by_cases packet : ∃ message, event = .packetIn message
  · obtain ⟨message, rfl⟩ := packet
    have handled : Handled message app (step app (.packetIn message)) :=
      packetInHandler_handled message app
    generalize step app (.packetIn message) = after at handled
    cases handled with
    | @refused error sampled raises =>
        have observed := samplePacketIn_observed message app
        rw [Effect.leaves_of_error raises] at observed
        simp [verdictsOf, raises, observed.alarm]
    | @unguarded sampled returns off =>
        rw [(enforceBans_observed message sampled).alarm,
          (samplePacketIn_observed_of_ok returns).alarm]
        simp [verdictsOf, returns, off]
    | @noted sampled returns on settled =>
        rw [(enforceBans_observed message _).alarm, run_verdictsOf returns on,
          run_verdicts_single fun both => both.2 (settled.mpr both.1)]
        by_cases high : (judge sampled).ddosingCount > 10
        · simp [alarm, judge_isDDoSAttacking, high, settled.mp high]
        · have calm : sampled.isDDoSAttacking = false := by
            simpa using fun attacking => high (settled.mpr attacking)
          simp [alarm, judge_isDDoSAttacking, high, calm]
    | @alarmed sampled returns on high calm =>
        rw [(enforceBans_observed message _).alarm, run_verdictsOf returns on,
          run_verdicts_single fun both => both.2 high, createDefenseFlowRule_eq]
        simp [alarm, high, calm]
    | @doubted sampled returns on low attacking anomalous =>
        rw [(enforceBans_observed message _).alarm, run_verdictsOf returns on,
          run_verdicts_double attacking low, detectDdosByEntropy_alarm]
        simp [alarm, judge_isDDoSAttacking, attacking, Alarm.step]
    | @failed sampled returns on low attacking normal =>
        rw [run_verdictsOf returns on, run_verdicts_double attacking low,
          detectDdosByEntropy_alarm]
        simp [alarm, judge_isDDoSAttacking, attacking, Alarm.step]
  · have quiet := step_observed app event fun message same => packet ⟨message, same⟩
    rw [quiet.alarm]
    cases event with
    | packetIn message => exact absurd ⟨message, rfl⟩ packet
    | _ => rfl

/-- The application is the machine, run on the verdicts its events take. -/
theorem run_alarm (app : DDoSSimulationAPP K) (events : List Event) :
    (run step app events).alarm = run Alarm.step app.alarm (verdictsAlong app events) := by
  induction events generalizing app with
  | nil => rfl
  | cons event rest inductionHypothesis =>
      rw [run_cons, verdictsAlong, run_append, ← step_alarm, inductionHypothesis]

end DDoSSimulationAPP
end NetworkAdapter
