import NetworkAdapter.Controller.Samples

/-!
# What the histogram of destination ports counts

The sample of a packet stores, under `dst_port`, the source port of its transport header.
So the histogram is exact if and only if the sampled packets have, taken together, the
same source and destination ports.
-/

namespace NetworkAdapter

open Execution

/-- The packet library lists a header only if it is true. -/
def PacketIn.Listed (message : PacketIn) : Prop :=
  ∀ protocols, message.protocols = .ok protocols → ∀ header ∈ protocols, header.truthy = true

/-- The source and destination port of the first TCP header, or of the first UDP header when
there is none, or zeros. -/
def transportPorts (protocols : List Header) : Nat × Nat :=
  match protocols.findSome? Header.tcp?, protocols.findSome? Header.udp? with
  | some (srcPort, dstPort, _), _ => (srcPort, dstPort)
  | none, some ports => ports
  | none, none => (0, 0)

/-- The ports of an IPv4 packet. -/
def PacketIn.ports? (message : PacketIn) : Option (Nat × Nat) :=
  match message.protocols with
  | .ok protocols => (protocols.findSome? Header.ipv4?).map fun _ => transportPorts protocols
  | .error _ => none

/-- The source ports of the IPv4 packets among some, and their destination ports. -/
def sourcePortsOf (messages : List PacketIn) : List Nat :=
  (messages.filterMap PacketIn.ports?).map Prod.fst

def destinationPortsOf (messages : List PacketIn) : List Nat :=
  (messages.filterMap PacketIn.ports?).map Prod.snd

namespace DDoSSimulationAPP

/-- The port a sample stores is the source port. -/
theorem samplePort_of_listed {protocols : List Header}
    (truthy : ∀ header ∈ protocols, header.truthy = true) :
    samplePort protocols = .ok (transportPorts protocols).1 := by
  obtain ⟨port, reads⟩ := samplePort_of_truthy truthy
  rw [reads]
  unfold samplePort at reads
  unfold transportPorts
  cases tcp : protocols.findSome? Header.tcp? with
  | none =>
      cases udp : protocols.findSome? Header.udp? <;> (rw [tcp, udp] at reads; exact reads.symm)
  | some fields =>
      obtain ⟨srcPort, dstPort, offset⟩ := fields
      have positive := offset_of_truthy truthy tcp
      cases udp : protocols.findSome? Header.udp? <;>
        (rw [tcp, udp] at reads; simp only [positive, ne_eq, not_false_iff, if_true] at reads;
         exact reads.symm)

theorem sample?_of_listed {message : PacketIn} (listed : message.Listed) :
    message.sample?.map SampleData.dstPort = message.ports?.map Prod.fst := by
  unfold PacketIn.sample? PacketIn.ports? sampleOf
  cases decoded : message.protocols with
  | error error => rfl
  | ok protocols =>
      have reads := samplePort_of_listed (listed protocols decoded)
      cases ipv4 : protocols.findSome? Header.ipv4? with
      | none => simp [ipv4]
      | some addresses => simp [ipv4, reads, bind, Except.bind]

/-- Samples store source ports. -/
theorem map_dstPort_samplesOf {messages : List PacketIn}
    (listed : ∀ message ∈ messages, message.Listed) :
    (samplesOf messages).map SampleData.dstPort = sourcePortsOf messages := by
  rw [samplesOf, sourcePortsOf, List.map_filterMap, List.map_filterMap]
  exact List.filterMap_congr fun message member => sample?_of_listed (listed message member)

variable {K : Type}

/-- Only packet-ins are sampled. -/
theorem SampleHistory.mem_note {history : SampleHistory} {app : DDoSSimulationAPP K}
    {event : Event} {message : PacketIn} (member : message ∈ (history.note app event).all) :
    message ∈ history.all ∨ message ∈ packetIns [event] := by
  cases event with
  | packetIn received =>
      have grows : (history.note app (.packetIn received)).all ⊆ history.all ++ [received] := by
        by_cases taken : (app.due && received.accepted) = true
        · by_cases reset : resets received app = true <;> simp [note, all, taken, reset]
        · simp [note, taken]
      exact List.mem_append.mp (grows member)
  | _ => exact .inl member

variable [EntropyArithmetic K]

theorem mem_history {events : List Event} {message : PacketIn}
    (member : message ∈ (history K events).all) : message ∈ packetIns events := by
  suffices known : ∀ (state : DDoSSimulationAPP K × SampleHistory) (events : List Event),
      message ∈ (run sampling state events).2.all →
        message ∈ state.2.all ∨ message ∈ packetIns events by
    exact (known _ events member).resolve_left (by simp [SampleHistory.all])
  intro state events inside
  induction events generalizing state with
  | nil => exact .inl inside
  | cons event rest inductionHypothesis =>
      have both : packetIns (event :: rest) = packetIns [event] ++ packetIns rest :=
        List.filterMap_append (l := [event])
      rw [both, List.mem_append, ← or_assoc]
      exact (inductionHypothesis (sampling state event) inside).imp_left SampleHistory.mem_note

variable (K) in
/-- If the packet computes a window after the run, `destination_ports` then counts the
destination ports of the IPv4 packets sampled since the last reset. -/
def DestinationPortsExact (events : List Event) (message : PacketIn) : Prop :=
  ∀ queued, processed? message (run step (init : DDoSSimulationAPP K) events) = some queued →
    ∀ port, (queued.counted.destinationPorts.get? port).getD 0 =
      (destinationPortsOf ((history K events).sinceReset ++ [message])).count port

/-- The histogram is exact in exactly the windows whose packets have, in some order, their
source ports as destination ports. -/
theorem destination_ports_exact_iff (events : List Event) (message : PacketIn)
    (listed : ∀ packet ∈ packetIns events ++ [message], packet.Listed) :
    DestinationPortsExact K events message ↔
      ((processed? message (run step (init : DDoSSimulationAPP K) events)).isSome →
        (sourcePortsOf ((history K events).sinceReset ++ [message])).Perm
          (destinationPortsOf ((history K events).sinceReset ++ [message]))) := by
  have sampled : ∀ packet ∈ (history K events).sinceReset ++ [message], packet.Listed := by
    intro packet member
    refine listed packet (List.mem_append.mpr ((List.mem_append.mp member).imp_left ?_))
    exact fun since => mem_history (K := K) (List.mem_append_right _ since)
  have counts : ∀ queued,
      processed? message (run step (init : DDoSSimulationAPP K) events) = some queued →
        ∀ port, (queued.counted.destinationPorts.get? port).getD 0 =
          (sourcePortsOf ((history K events).sinceReset ++ [message])).count port := by
    intro queued processed port
    rw [((run_collected events).counted processed).destinationPorts, Dict.getD_tally,
      map_dstPort_samplesOf sampled]
  constructor
  · intro exact computes
    obtain ⟨queued, processed⟩ := Option.isSome_iff_exists.mp computes
    refine List.perm_iff_count.mpr fun port => ?_
    rw [← counts queued processed, exact queued processed]
  · intro agree queued processed port
    have perm := agree (Option.isSome_iff_exists.mpr ⟨queued, processed⟩)
    rw [counts queued processed, perm.count_eq]

theorem datagram_listed (datapath : Nat) (src : String) (port : Nat) :
    (datagram datapath src port).Listed := by
  intro protocols decoded
  obtain rfl := Except.ok.inj decoded
  simp [Header.truthy]

/-- Datagrams from port 80 to port 80 are counted exactly. -/
theorem destination_ports_exact_equal :
    DestinationPortsExact Rat (List.replicate 254 (.packetIn (datagram 1 "10.0.0.1" 80)))
      (datagram 1 "10.0.0.1" 80) := by
  refine (destination_ports_exact_iff _ _ fun packet member => ?_).mpr fun _ => ?_
  · have same : packet = datagram 1 "10.0.0.1" 80 := by
      rcases List.mem_append.mp member with inside | last
      · obtain ⟨event, replicated, found⟩ := List.mem_filterMap.mp inside
        obtain rfl := List.eq_of_mem_replicate replicated
        exact (Option.some.inj found).symm
      · exact List.mem_singleton.mp last
    exact same ▸ datagram_listed 1 "10.0.0.1" 80
  · rw [history, run_eq_stepwise sampling probe]
    decide +kernel

/-- Datagrams to port 80 from another port are not counted as such. -/
theorem datagrams_miscounted :
    ¬ DestinationPortsExact Rat (List.replicate 254 (.packetIn (datagram 1 "10.0.0.1" 4000)))
      (datagram 1 "10.0.0.1" 4000) := by
  intro exact
  have counted : (processed? (datagram 1 "10.0.0.1" 4000) (run sampling (init, ⟨[], []⟩)
      (List.replicate 254 (.packetIn (datagram 1 "10.0.0.1" 4000)))).1).map
      (fun queued : DDoSSimulationAPP Rat => (queued.counted.destinationPorts.get? 80).getD 0) =
        some 0 := by
    rw [run_eq_stepwise sampling probe]
    decide +kernel
  rw [run_sampling] at counted
  obtain ⟨queued, processed, none⟩ := Option.map_eq_some_iff.mp counted
  have some := exact queued processed 80
  rw [none, history, run_eq_stepwise sampling probe] at some
  exact absurd some (by decide +kernel)

end DDoSSimulationAPP
end NetworkAdapter
