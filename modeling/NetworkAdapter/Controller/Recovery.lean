import NetworkAdapter.Controller.Handling

/-!
# Recovery from an attack

When the counter has come down and the verdict is normal, `ip_white_table` sets
out to remove the rules of the defence. `Recovers` is what that should achieve.
It never does: the list of addresses is looked up under a name no object has,
so the branch raises before it removes anything, with the attack still declared.
-/

namespace NetworkAdapter.DDoSSimulationAPP

open Execution

variable {K : Type}

/-- The slots of the rules the latest defence installed on a switch. -/
def defenceSlots (app : DDoSSimulationAPP K) (datapath : Nat) : List (Nat × OFPMatch) :=
  app.defence.filterMap fun entry =>
    match entry.2 with
    | .flowMod body => if entry.1 = datapath then some (body.priority, body.fields) else none
    | .packetOut _ => none

/-- The attack is over, and of all flow entries exactly those of its defence are gone. -/
structure Recovered (before after : DDoSSimulationAPP K) : Prop where
  calm : after.isDDoSAttacking = false
  flows : ∀ datapath slot, (after.flows datapath).get? slot =
    if slot ∈ before.defenceSlots datapath then none else (before.flows datapath).get? slot

variable [EntropyArithmetic K]

/-- `ip_white_table` decides that traffic is back to normal. -/
def ReturnsToNormal (app : DDoSSimulationAPP K) : Prop :=
  app.isDDoSAttacking = true ∧ (judge app).ddosingCount ≤ 10 ∧
    (detectDdosByEntropy (judge app)).1 = false

instance (app : DDoSSimulationAPP K) : Decidable app.ReturnsToNormal :=
  inferInstanceAs (Decidable (_ ∧ _ ∧ _))

/-- The event is a packet-in whose handling gets to that decision. -/
def decidesRecovery (app : DDoSSimulationAPP K) : Event → Bool
  | .packetIn message =>
      match (samplePacketIn message).run app with
      | .ok _ sampled =>
          sampled.ruleSet message.datapath "ip_white_table" && sampled.ReturnsToNormal
      | .error _ _ => false
  | _ => false

/-- Whenever the decision is made, `ip_white_table` completes and recovers. -/
def RecoversWhenDecided (app : DDoSSimulationAPP K) (event : Event) : Prop :=
  ∀ message sampled, event = .packetIn message →
    (samplePacketIn message).run app = .ok () sampled →
      sampled.ruleSet message.datapath "ip_white_table" = true → sampled.ReturnsToNormal →
        ∃ after, (ipWhiteTable message).run sampled = .ok () after ∧ Recovered sampled after

/-- The branch of the decision raises, and the attack stays declared. -/
theorem ipWhiteTable_of_returnsToNormal (message : PacketIn) {app : DDoSSimulationAPP K}
    (normal : app.ReturnsToNormal) :
    ∃ after, (ipWhiteTable message).run app = .error (.attributeError "ip_white_list") after ∧
      after.isDDoSAttacking = true ∧ after.sent = app.sent := by
  obtain ⟨attacking, low, verdict⟩ := normal
  have notHigh : ¬ (judge app).ddosingCount > 10 := by omega
  have stillAttacking : (judge app).isDDoSAttacking = true := attacking
  refine ⟨(detectDdosByEntropy (judge app)).2, ?_, attacking, rfl⟩
  rw [ipWhiteTable_run]
  simp [notHigh, stillAttacking, verdict]

theorem recoversWhenDecided_iff (app : DDoSSimulationAPP K) (event : Event) :
    RecoversWhenDecided app event ↔ decidesRecovery app event = false := by
  constructor
  · intro recovers
    by_contra decided
    rw [Bool.not_eq_false] at decided
    cases event with
    | packetIn message =>
        simp only [decidesRecovery] at decided
        split at decided
        · next returns =>
            obtain ⟨on, normal⟩ := (Bool.and_eq_true _ _).mp decided
            have returnsToNormal := of_decide_eq_true normal
            obtain ⟨after, completes, _⟩ := recovers message _ rfl returns on returnsToNormal
            obtain ⟨_, raises, _⟩ := ipWhiteTable_of_returnsToNormal message returnsToNormal
            rw [raises] at completes
            cases completes
        · cases decided
    | _ => cases decided
  · rintro undecided message sampled rfl returns on normal
    simp [decidesRecovery, returns, on, normal] at undecided

/-- Recovery is right on exactly the runs on which it is never decided: each time
the decision is made the step raises and the defence stays. -/
theorem recovery_iff_never_decided (events : List Event) :
    Each step RecoversWhenDecided (init : DDoSSimulationAPP K) events ↔
      Each step (fun app event => decidesRecovery app event = false) (init : DDoSSimulationAPP K)
        events :=
  each_congr recoversWhenDecided_iff init events

/-- A guarded switch raises the alarm, a second one brings two normal windows, and
the next packet of the first one decides that traffic is back to normal. -/
def attackThenNormal : List Event :=
  guardedSwitch ++ .switchFeatures 2 :: (List.replicate 11 (.packetIn (arpFrom 1)) ++
    List.replicate 5 (.packetIn (datagram 2 "10.0.0.1" 1000)) ++
      List.replicate 5 (.packetIn (datagram 2 "10.0.0.2" 2000)) ++
        List.replicate 489 (.packetIn (arpFrom 2)) ++ [.packetIn (arpFrom 1)])

/-- Recovery is decided at the end of that run and fails. -/
theorem normal_traffic_never_recovers :
    ¬ Each step RecoversWhenDecided (init : DDoSSimulationAPP Rat) attackThenNormal := by
  rw [each_congr recoversWhenDecided_iff]
  decide +kernel

end NetworkAdapter.DDoSSimulationAPP
