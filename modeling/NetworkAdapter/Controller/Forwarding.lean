import NetworkAdapter.Controller.Learning

/-!
# Who forwards a packet

A switch that hands a packet to the controller keeps it, or sends all of it. It is
released by a packet-out, or by a flow modification that names its buffer. The
handler counts on the latter for a buffered packet with a known destination, but
`add_flow` drops the buffer id it is given, and such a packet stays in its buffer.
-/

namespace NetworkAdapter

/-- The actions of a message. -/
def Message.actions : Message → List OFPAction
  | .flowMod body => body.actions
  | .packetOut body => body.actions

/-- The message makes the switch send the packet on: it names the buffer that holds the
packet, or is a packet-out with the packet's data. -/
def Message.releases (event : PacketIn) : Message → Bool
  | .flowMod body => event.bufferId ≠ ofpNoBuffer ∧ body.bufferId = event.bufferId
  | .packetOut body => body.bufferId = event.bufferId ∧
      (event.bufferId = ofpNoBuffer → body.data = some event.data)

namespace DDoSSimulationAPP

/-- Of the messages one releases the packet, on its own switch, through the given port. -/
def ForwardedOnce (event : PacketIn) (outPort : Nat) (messages : List (Nat × Message)) : Prop :=
  (messages.countP fun entry => entry.2.releases event) = 1 ∧
    ∀ entry ∈ messages, entry.2.releases event = true →
      entry.1 = event.datapath ∧ entry.2.actions = outputTo outPort

instance (event : PacketIn) (outPort : Nat) (messages : List (Nat × Message)) :
    Decidable (ForwardedOnce event outPort messages) :=
  inferInstanceAs (Decidable (_ ∧ _))

/-- The flow modifications of `add_flow` name no buffer. -/
theorem releases_flowAddition (event : PacketIn) (priority : Nat) (fields : OFPMatch)
    (actions : List OFPAction) :
    (flowAddition priority fields actions).releases event = false := by
  simp [Message.releases, flowAddition, eq_comm]

theorem releases_packetOut (event : PacketIn) (actions : List OFPAction) :
    (packetOut event actions).releases event = true := by
  simp only [Message.releases, packetOut, true_and, decide_eq_true_eq]
  exact fun unbuffered => if_pos unbuffered

/-- What forwarding sends releases the packet unless it relies on the flow modification. -/
theorem forwardMessages_once_iff (event : PacketIn) (dst src : String) (outPort : Nat) :
    ForwardedOnce event outPort (forwardMessages event dst src outPort) ↔
      event.bufferId = ofpNoBuffer ∨ outPort = ofppFlood := by
  have packet : ForwardedOnce event outPort
      [(event.datapath, packetOut event (outputTo outPort))] := by
    refine ⟨by simp [releases_packetOut], fun entry member _ => ?_⟩
    rw [List.mem_singleton.mp member]
    exact ⟨rfl, rfl⟩
  unfold forwardMessages
  by_cases flooded : outPort = ofppFlood
  · simpa [flooded] using packet
  · by_cases unbuffered : event.bufferId = ofpNoBuffer
    · simp only [flooded, unbuffered, ne_eq, not_true, not_false_iff, if_true, if_false, true_or,
        iff_true]
      refine ⟨?_, fun entry member releases => ?_⟩
      · simp [releases_flowAddition, releases_packetOut]
      · rcases List.mem_cons.mp member with rfl | sent
        · rw [releases_flowAddition] at releases
          cases releases
        · exact packet.2 entry sent releases
    · simp [ForwardedOnce, flooded, unbuffered, releases_flowAddition]

variable {K : Type}

/-- The port through which a packet should leave: the one learned for its destination, the
packet itself being the latest to teach one, or the flood port. -/
def destinationPort (event : PacketIn) (dst src : String) (app : DDoSSimulationAPP K) : Nat :=
  (if src = dst then some event.inPort
    else (app.learnedPorts event.datapath).get? dst).getD ofppFlood

/-- A frame between two hosts, kept in a buffer of switch 1. -/
def bufferedFrame (bufferId inPort : Nat) (dst src : String) : PacketIn where
  datapath := 1
  inPort := inPort
  bufferId := bufferId
  data := []
  protocols := .ok [.ethernet dst src ethTypeIp]

end DDoSSimulationAPP
end NetworkAdapter
