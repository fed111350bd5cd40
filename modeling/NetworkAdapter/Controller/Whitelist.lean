import NetworkAdapter.Controller.FalseAlarm

/-!
# Who gets on the whitelist

The whitelist grows only at the end of a group of four windows, and then by the
sources of a window whose entropies are both below one half. The detector calls
such a window an attack, so every address on the whitelist comes from traffic
that meets the criterion of an attack.
-/

namespace NetworkAdapter.DDoSSimulationAPP

open Execution EntropyArithmetic

variable {K : Type}

/-- Neither a window nor a whitelisted address is added. -/
structure SameGroup (before after : DDoSSimulationAPP K) : Prop where
  windows : after.windows = before.windows
  sampleStaticCount : after.sampleStaticCount = before.sampleStaticCount
  whiteIpTable : after.whiteIpTable = before.whiteIpTable

theorem SameGroup.trans {before middle after : DDoSSimulationAPP K}
    (first : SameGroup before middle) (second : SameGroup middle after) : SameGroup before after :=
  ⟨second.windows.trans first.windows, second.sampleStaticCount.trans first.sampleStaticCount,
    second.whiteIpTable.trans first.whiteIpTable⟩

theorem switched_sameGroup (event : PacketIn) (header : String × String × Nat)
    (app : DDoSSimulationAPP K) : SameGroup app (switched event header app) := by
  obtain ⟨macToPort, messages, unfolded⟩ := switched_eq event header app
  rw [unfolded]
  exact ⟨rfl, rfl, rfl⟩

theorem enforceBans_sameGroup (event : PacketIn) (app : DDoSSimulationAPP K) :
    SameGroup app (enforceBans event app) := by
  obtain ⟨rules, messages, unfolded, _⟩ := enforceBans_bans event app
  rw [unfolded]
  exact ⟨rfl, rfl, rfl⟩

variable [EntropyArithmetic K]

/-- A step adds no window, or one with the consequences of a window. -/
def GroupStep (before after : DDoSSimulationAPP K) : Prop :=
  SameGroup before after ∨ ∃ computed, after.windows = before.windows ++ [computed] ∧
    (after.sampleStaticCount =
      if 3 ≤ before.sampleStaticCount then 0 else before.sampleStaticCount + 1) ∧
    ∀ ip, ip ∈ after.whiteIpTable.keys ↔ ip ∈ before.whiteIpTable.keys ∨
      (3 ≤ before.sampleStaticCount ∧ computed.sourceIpsEntropy < half ∧
        computed.destinationPortsEntropy < half ∧ ip ∈ computed.sources)

theorem GroupStep.then {before middle after : DDoSSimulationAPP K}
    (grouped : GroupStep before middle) (same : SameGroup middle after) :
    GroupStep before after := by
  rcases grouped with sameFirst | ⟨computed, windows, count, table⟩
  · exact .inl (sameFirst.trans same)
  · exact .inr ⟨computed, same.windows.trans windows, same.sampleStaticCount.trans count,
      by rwa [same.whiteIpTable]⟩

theorem samplePacketIn_grouped (event : PacketIn) (app : DDoSSimulationAPP K) :
    GroupStep app ((samplePacketIn event).leaves app) := by
  have sampled := samplePacketIn_sampled event app
  unfold Effect.leaves
  generalize (samplePacketIn event).run app = result at sampled
  cases sampled with
  | unparsed raises => exact .inl ⟨rfl, rfl, rfl⟩
  | passed parses between => exact .inl ((switched_sameGroup event _ app).trans ⟨rfl, rfl, rfl⟩)
  | refused parses decoded due raises =>
      exact .inl ((switched_sameGroup event _ app).trans ⟨rfl, rfl, rfl⟩)
  | counted parses decoded due sampled few =>
      exact .inl ((switched_sameGroup event _ app).trans ⟨rfl, rfl, rfl⟩)
  | @windowed header protocols sample parses decoded due sampled enough =>
      obtain ⟨windows, count, table⟩ := switched_sameGroup event header app
      obtain ⟨computed, does⟩ := processSampleQueue_computed
        { queueSample protocols sample (switched event header app) with packetCount := 0 }
      refine .inr ⟨computed, ?_, ?_, ?_⟩
      · rw [does.windows]
        exact congrArg (· ++ [computed]) windows
      · rw [← count]
        exact does.sampleStaticCount
      · rw [← count, ← table]
        exact does.whiteIpTable

theorem packetIn_grouped (message : PacketIn) (app : DDoSSimulationAPP K) :
    GroupStep app (step app (.packetIn message)) := by
  have after : SameGroup ((samplePacketIn message).leaves app) (step app (.packetIn message)) := by
    refine packetIn_after_sampling SameGroup message (fun _ => ⟨rfl, rfl, rfl⟩)
      (fun _ _ _ => SameGroup.trans) (fun _ => ⟨rfl, rfl, rfl⟩) (fun _ => ⟨rfl, rfl, rfl⟩) ?_
      (enforceBans_sameGroup message) app
    intro app
    rw [createDefenseFlowRule_eq]
    exact ⟨rfl, rfl, rfl⟩
  exact (samplePacketIn_grouped message app).then after

theorem step_grouped (app : DDoSSimulationAPP K) (event : Event) :
    GroupStep app (step app event) := by
  by_cases packet : ∃ message, event = .packetIn message
  · obtain ⟨message, rfl⟩ := packet
    exact packetIn_grouped message app
  · have served := step_served app fun message same => packet ⟨message, same⟩
    generalize step app event = after at served
    cases served with
    | protocolForbid body rules => exact .inl ⟨rfl, rfl, rfl⟩
    | setIpWhiteTable dpid rules => exact .inl ⟨rfl, rfl, rfl⟩
    | trafficEntropy => exact .inl ⟨rfl, rfl, rfl⟩
    | switchFeatures datapath => exact .inl ⟨rfl, rfl, rfl⟩

/-- `sample_static_count` is the position in the current group of four windows. -/
theorem step_sampleStaticCount (app : DDoSSimulationAPP K) (event : Event)
    (counts : app.sampleStaticCount = app.windows.length % 4) :
    (step app event).sampleStaticCount = (step app event).windows.length % 4 := by
  rcases step_grouped app event with same | ⟨computed, windows, count, _⟩
  · rw [same.sampleStaticCount, same.windows, counts]
  · rw [count, windows, List.length_append, List.length_singleton]
    split <;> omega

/-- The addresses a step puts on the whitelist. -/
def newlyWhitelisted (app : DDoSSimulationAPP K) (event : Event) : List String :=
  (step app event).whiteIpTable.keys.filter fun ip => ip ∉ app.whiteIpTable.keys

/-- The windows a step computes. -/
def newWindows (app : DDoSSimulationAPP K) (event : Event) : List (Window K) :=
  (step app event).windows.drop app.windows.length

/-- No address is whitelisted by a window that meets the criterion of an attack. -/
def WhitelistSound (app : DDoSSimulationAPP K) (event : Event) : Prop :=
  ∀ ip ∈ newlyWhitelisted app event, ∀ window ∈ newWindows app event, ¬ window.Anomalous

instance : DecidableRel (WhitelistSound (K := K)) := fun app event =>
  inferInstanceAs (Decidable (∀ ip ∈ newlyWhitelisted app event,
    ∀ window ∈ newWindows app event, ¬ window.Anomalous))

/-- Addresses are whitelisted by the last window of a group of four, both of whose
entropies are below one half, and it is one of the sources counted in it. -/
def WhitelistedWhenLow (app : DDoSSimulationAPP K) (event : Event) : Prop :=
  ∀ ip ∈ newlyWhitelisted app event, ∃ window, newWindows app event = [window] ∧
    4 ∣ app.windows.length + 1 ∧ window.sourceIpsEntropy < half ∧
    window.destinationPortsEntropy < half ∧ window.Anomalous ∧ ip ∈ window.sources

/-- Every step of every run whitelists only so. -/
theorem whitelisted_when_low (events : List Event) :
    Each step WhitelistedWhenLow (init : DDoSSimulationAPP K) events := by
  have implies : ∀ (app : DDoSSimulationAPP K) event,
      app.sampleStaticCount = app.windows.length % 4 → WhitelistedWhenLow app event := by
    intro app event counts ip added
    obtain ⟨known, unknown⟩ := List.mem_filter.mp added
    have fresh : ip ∉ app.whiteIpTable.keys := of_decide_eq_true unknown
    rcases step_grouped app event with same | ⟨computed, windows, _, table⟩
    · rw [same.whiteIpTable] at known
      exact absurd known fresh
    · obtain ⟨closing, lowSource, lowPorts, counted⟩ := ((table ip).mp known).resolve_left fresh
      refine ⟨computed, by simp [newWindows, windows], ?_, lowSource, lowPorts,
        .inl (lt_one_of_lt_half _ lowSource), counted⟩
      omega
  exact each_of_invariant step_sampleStaticCount implies rfl events

/-- One source floods one port for four windows and is whitelisted. -/
theorem flood_whitelists_its_source :
    ¬ Each step WhitelistSound (init : DDoSSimulationAPP Rat)
      (List.replicate 1020 (.packetIn (datagram 1 "10.0.0.66" 5000))) := by
  decide +kernel

end NetworkAdapter.DDoSSimulationAPP
