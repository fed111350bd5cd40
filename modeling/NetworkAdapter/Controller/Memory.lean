import NetworkAdapter.Controller.Samples

/-!
# What a window remembers

The entropies of a window depend on the samples since the last reset and on nothing
else. Its protocol ratios do not: the counts they are computed from are never cleared, so
they are the shares of the protocols among all samples of the run.
-/

namespace NetworkAdapter

open Execution EntropyArithmetic

namespace DDoSSimulationAPP

deriving instance DecidableEq for PacketIn

variable {K : Type} [EntropyArithmetic K]

variable (K) in
/-- The share of a protocol among samples, if there is any of it. -/
def share (samples : List SampleData) (protocol : Protocol) : Option K :=
  let count := (samples.map SampleData.protocol).count protocol
  if count = 0 then none else some (ratio count samples.length)

/-- The ratios a window computes from its protocol counts. -/
def protocolRatio (app : DDoSSimulationAPP K) : Dict Protocol K :=
  calculateProtocolRatio app.counted.protocolCount

/-- The ratios of tallied counts are the shares among all samples. -/
theorem Tallies.get?_ratio {app : DDoSSimulationAPP K} {sinceReset all : List SampleData}
    (tallies : Tallies app sinceReset all) (protocol : Protocol) :
    (calculateProtocolRatio app.protocolCount : Dict Protocol K).get? protocol =
      share K all protocol := by
  rw [calculateProtocolRatio, tallies.protocolCount, Dict.get?_mapValues, Dict.get?_tally,
    Dict.sum_values_tally, List.length_map, share]
  split <;> rfl

/-- Two windows have the same entropies and the same ratios. -/
structure SameWindow (first second : DDoSSimulationAPP K) : Prop where
  sourceIpsEntropy :
    first.counted.window.sourceIpsEntropy = second.counted.window.sourceIpsEntropy
  destinationPortsEntropy :
    first.counted.window.destinationPortsEntropy = second.counted.window.destinationPortsEntropy
  protocolRatio : ∀ protocol,
    first.protocolRatio.get? protocol = second.protocolRatio.get? protocol

variable (K) in
/-- After two runs the packet computes the same window. -/
def SameWindows (first second : List Event) (message : PacketIn) : Prop :=
  ∀ queued queued',
    processed? message (run step (init : DDoSSimulationAPP K) first) = some queued →
    processed? message (run step (init : DDoSSimulationAPP K) second) = some queued' →
      SameWindow queued queued'

/-- Two runs with the same samples since their last resets compute windows of the same
entropies, and of the same ratios if the protocols have the same shares of all samples. -/
theorem sameWindow_iff {first second : List Event} {message : PacketIn}
    (same : (history K first).sinceReset = (history K second).sinceReset)
    {queued queued' : DDoSSimulationAPP K}
    (processed : processed? message (run step init first) = some queued)
    (processed' : processed? message (run step init second) = some queued') :
    SameWindow queued queued' ↔
      ∀ protocol, share K (samplesOf ((history K first).all ++ [message])) protocol =
        share K (samplesOf ((history K second).all ++ [message])) protocol := by
  have tallies := (run_collected first).counted processed
  have tallies' := (run_collected second).counted processed'
  simp only [← tallies.get?_ratio, ← tallies'.get?_ratio]
  rw [same] at tallies
  refine ⟨SameWindow.protocolRatio, fun ratios => ⟨?_, ?_, ratios⟩⟩
  · show calculateEntropy _ = calculateEntropy _
    rw [tallies.sourceIps, tallies'.sourceIps]
  · show calculateEntropy _ = calculateEntropy _
    rw [tallies.destinationPorts, tallies'.destinationPorts]

/-- Two runs with the same samples since their last resets compute the same window exactly
if, over the whole runs, each protocol has the same share of the samples. -/
theorem same_windows_iff (first second : List Event) (message : PacketIn)
    (same : (history K first).sinceReset = (history K second).sinceReset) :
    SameWindows K first second message ↔
      ((processed? message (run step (init : DDoSSimulationAPP K) first)).isSome →
        (processed? message (run step (init : DDoSSimulationAPP K) second)).isSome →
          ∀ protocol, share K (samplesOf ((history K first).all ++ [message])) protocol =
            share K (samplesOf ((history K second).all ++ [message])) protocol) := by
  constructor
  · intro windows computes computes'
    obtain ⟨queued, processed⟩ := Option.isSome_iff_exists.mp computes
    obtain ⟨queued', processed'⟩ := Option.isSome_iff_exists.mp computes'
    exact (sameWindow_iff same processed processed').mp
      (windows queued queued' processed processed')
  · intro shares queued queued' processed processed'
    exact (sameWindow_iff same processed processed').mpr
      (shares (by simp [processed]) (by simp [processed']))

/-- A switch is guarded in one of two runs, and neither has come to a reset. -/
theorem same_windows_before_reset :
    SameWindows Rat (List.replicate 254 (.packetIn (datagram 1 "10.0.0.1" 4000)))
      (guardedSwitch ++ List.replicate 254 (.packetIn (datagram 1 "10.0.0.1" 4000)))
      (datagram 1 "10.0.0.1" 4000) := by
  have sampled (before : List Event) (quiet : before = [] ∨ before = guardedSwitch) :
      (history Rat (before ++ List.replicate 254
        (.packetIn (datagram 1 "10.0.0.1" 4000)))).sinceReset =
          List.replicate 50 (datagram 1 "10.0.0.1" 4000) ∧
      (history Rat (before ++ List.replicate 254
        (.packetIn (datagram 1 "10.0.0.1" 4000)))).earlier = [] := by
    rw [history, run_eq_stepwise sampling probe]
    rcases quiet with rfl | rfl <;> decide +kernel
  obtain ⟨since, earlier⟩ := sampled [] (.inl rfl)
  obtain ⟨since', earlier'⟩ := sampled guardedSwitch (.inr rfl)
  refine (same_windows_iff _ _ _ (since.trans since'.symm)).mpr fun _ _ protocol => ?_
  simp only [SampleHistory.all, since, since', earlier, earlier']

/-- An echo request. -/
def echoFrom (datapath : Nat) (src : String) : PacketIn where
  datapath := datapath
  inPort := 1
  bufferId := ofpNoBuffer
  data := []
  protocols := .ok [.ethernet "00:00:00:00:00:02" "00:00:00:00:00:01" ethTypeIp,
    .ipv4 src "10.0.0.2", .icmp]

/-- Four windows of echo requests, and a fifth of datagrams but for its last packet. -/
def echoesBefore : List Event :=
  List.replicate 1020 (.packetIn (echoFrom 1 "10.0.0.1")) ++
    List.replicate 254 (.packetIn (datagram 1 "10.0.0.1" 4000))

/-- Five windows of datagrams but for the last packet. -/
def datagramsBefore : List Event :=
  List.replicate 1274 (.packetIn (datagram 1 "10.0.0.1" 4000))

/-- The ICMP ratio of the window the last of the datagrams computes. -/
def icmpRatio (app : DDoSSimulationAPP K) : Option (Option K) :=
  (processed? (datagram 1 "10.0.0.1" 4000) app).map fun queued => queued.protocolRatio.get? .icmp

theorem echoes_remembered :
    (history Rat echoesBefore).sinceReset = List.replicate 50 (datagram 1 "10.0.0.1" 4000) ∧
      icmpRatio (run step (init : DDoSSimulationAPP Rat) echoesBefore) =
        some (some (204 / 255)) := by
  rw [history, ← run_sampling, run_eq_stepwise sampling probe]
  decide +kernel

theorem datagrams_remembered :
    (history Rat datagramsBefore).sinceReset = List.replicate 50 (datagram 1 "10.0.0.1" 4000) ∧
      icmpRatio (run step (init : DDoSSimulationAPP Rat) datagramsBefore) = some none := by
  rw [history, ← run_sampling, run_eq_stepwise sampling probe]
  decide +kernel

/-- The same datagrams since the reset, and in one of the runs four fifths of them are ICMP. -/
theorem icmp_ratio_outlives_reset :
    (history Rat echoesBefore).sinceReset = (history Rat datagramsBefore).sinceReset ∧
      ¬ SameWindows Rat echoesBefore datagramsBefore (datagram 1 "10.0.0.1" 4000) := by
  obtain ⟨since, ratio⟩ := echoes_remembered
  obtain ⟨since', ratio'⟩ := datagrams_remembered
  refine ⟨since.trans since'.symm, fun same => ?_⟩
  obtain ⟨queued, processed, shares⟩ := Option.map_eq_some_iff.mp ratio
  obtain ⟨queued', processed', shares'⟩ := Option.map_eq_some_iff.mp ratio'
  have agree := (same queued queued' processed processed').protocolRatio .icmp
  rw [shares, shares'] at agree
  cases agree

end DDoSSimulationAPP
end NetworkAdapter
