import NetworkAdapter.Controller.Alarm

/-!
# Which window a verdict is about

The entropies of a window wait in queues until a verdict takes them, so a verdict
judges the oldest window no verdict has judged yet, and two zeros when there is none.
`Fresh` asks that it judge the newest window. The two agree exactly if the oldest unread
window is as anomalous as the newest, or the newest is anomalous where none is unread.
-/

namespace NetworkAdapter.DDoSSimulationAPP

open Execution

variable {K : Type}

variable [EntropyArithmetic K]

/-- A verdict taken now is the threshold test on the newest window. -/
def Fresh (app : DDoSSimulationAPP K) : Prop :=
  ∀ newest ∈ app.windows.getLast?, (detectDdosByEntropy app).1 = decide newest.Anomalous

instance (app : DDoSSimulationAPP K) : Decidable app.Fresh :=
  inferInstanceAs (Decidable (∀ newest ∈ app.windows.getLast?, _ = _))

/-- The first window in the queues falls on the same side of the threshold as the newest one,
and if the queues are empty the newest is anomalous. -/
structure Timely (app : DDoSSimulationAPP K) (newest : Window K) : Prop where
  exhausted : app.unread = [] → newest.Anomalous
  backlog : ∀ oldest ∈ app.unread.head?, (oldest.Anomalous ↔ newest.Anomalous)

/-- The states in which a call of `ip_white_table` takes a verdict: before the first one, and
before the second if there is one. -/
def judging (app : DDoSSimulationAPP K) : List (DDoSSimulationAPP K) :=
  app :: if app.isDDoSAttacking = true ∧ ¬ (judge app).ddosingCount > 10 then [judge app] else []

/-- The states in which an event takes a verdict. -/
def judgingIn (app : DDoSSimulationAPP K) : Event → List (DDoSSimulationAPP K)
  | .packetIn message =>
      match (samplePacketIn message).run app with
      | .ok _ sampled =>
          if sampled.ruleSet message.datapath "ip_white_table" then sampled.judging else []
      | .error _ _ => []
  | _ => []

/-- Every verdict of an event is about the newest window. -/
def VerdictsFresh (app : DDoSSimulationAPP K) (event : Event) : Prop :=
  ∀ judged ∈ judgingIn app event, judged.Fresh

instance : DecidableRel (VerdictsFresh (K := K)) :=
  fun app event => inferInstanceAs (Decidable (∀ judged ∈ judgingIn app event, judged.Fresh))

/-- Every verdict of an event is taken when the queues are in step with the windows. -/
def VerdictsTimely (app : DDoSSimulationAPP K) (event : Event) : Prop :=
  ∀ judged ∈ judgingIn app event, ∀ newest ∈ judged.windows.getLast?, judged.Timely newest

theorem Aligned.fresh_iff {app : DDoSSimulationAPP K} {unread : List (Window K)}
    (aligned : app.Aligned unread) :
    app.Fresh ↔ ∀ newest ∈ app.windows.getLast?, app.Timely newest := by
  refine forall₂_congr fun newest _ => ?_
  rw [← Bool.coe_iff_coe, aligned.detects_iff, decide_eq_true_iff]
  have same := aligned.unread
  cases unread with
  | nil =>
      constructor
      · intro judges
        exact ⟨fun _ => judges.mp (by simp), by simp [same]⟩
      · intro timely
        exact iff_of_true (by simp) (timely.exhausted same)
  | cons oldest later =>
      constructor
      · intro judges
        refine ⟨by simp [same], fun first found => ?_⟩
        obtain rfl : oldest = first := by simpa [same] using found
        simpa using judges
      · intro timely
        simpa using timely.backlog oldest (by simp [same])

/-- Wherever an event takes a verdict, the queues hold the entropies of the latest windows. -/
theorem judgingIn_aligned {app : DDoSSimulationAPP K} {unread : List (Window K)}
    (aligned : app.Aligned unread) (event : Event) :
    ∀ judged ∈ judgingIn app event, ∃ unread', judged.Aligned unread' := by
  intro judged member
  cases event with
  | packetIn message =>
      simp only [judgingIn] at member
      split at member
      · next sampled returns =>
          obtain ⟨later, sampledAligned⟩ :=
            (samplePacketIn_observed_of_ok returns).aligned aligned
          split at member
          · rcases List.mem_cons.mp member with rfl | second
            · exact ⟨later, sampledAligned⟩
            · split at second
              · rw [List.mem_singleton.mp second]
                exact ⟨later.tail, detect_aligned sampledAligned⟩
              · cases second
          · cases member
      · cases member
  | _ => cases member

/-- On every run all verdicts are about the newest window exactly if each is taken when the
queues are in step with the windows. -/
theorem verdicts_fresh_iff (events : List Event) :
    Each step VerdictsFresh (init : DDoSSimulationAPP K) events ↔
      Each step VerdictsTimely (init : DDoSSimulationAPP K) events := by
  refine each_congr_of_invariant (fun app => ∃ unread, app.Aligned unread)
    (fun app event known => ?_) (fun app event known => ?_) ?_ events
  · obtain ⟨unread, aligned⟩ := known
    exact (step_follows app event).2 unread aligned
  · obtain ⟨unread, aligned⟩ := known
    refine forall₂_congr fun judged member => ?_
    obtain ⟨unread', aligned'⟩ := judgingIn_aligned aligned event judged member
    exact aligned'.fresh_iff
  · exact ⟨[], List.nil_suffix, rfl, rfl⟩

/-- A normal window is computed, and two packets of a guarded switch ask for a verdict. -/
def windowJudgedTwice : List Event :=
  guardedSwitch ++ .switchFeatures 2 ::
    (List.replicate 5 (.packetIn (datagram 2 "10.0.0.1" 1000)) ++
      List.replicate 5 (.packetIn (datagram 2 "10.0.0.2" 2000)) ++
        List.replicate 245 (.packetIn (arpFrom 2)) ++ List.replicate 2 (.packetIn (arpFrom 1)))

/-- The second verdict of that run is an attack, though the newest window is normal. -/
theorem second_verdict_is_stale :
    ¬ Each step VerdictsFresh (init : DDoSSimulationAPP Rat) windowJudgedTwice := by
  decide +kernel

end NetworkAdapter.DDoSSimulationAPP
