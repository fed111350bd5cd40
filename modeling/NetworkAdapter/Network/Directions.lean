import NetworkAdapter.Network.Discipline
import NetworkAdapter.Network.LoopFree

/-!
# Frames travel away from their source

Without cycles in the cabling, and with hosts that use their own hardware
address, every frame under way is on a link that leads away from the host it
names as its source. A switch that learns a port from such a frame therefore
learns the port towards that host.
-/

namespace NetworkAdapter.Fabric

open DDoSSimulationAPP LoopFree

variable {K : Type} {cabling : Cabling} {format : FrameFormat}
  {rule : Nat → OFPMatch → List OFPAction → Prop}

/-- The host a frame names as its source. -/
def origin (format : FrameFormat) (data : List UInt8) : Device := .host (format.fields data).ethSrc

/-- The port of a switch that is on the way to a host. -/
def Towards (cabling : Cabling) (datapath : Nat) (address : String) (port : Nat) : Prop :=
  ∃ next, port = cabling.port datapath next ∧
    Away cabling.graph (.host address) next (.switch datapath)

theorem Towards.physical {datapath : Nat} {address : String} {port : Nat}
    (towards : Towards cabling datapath address port) : port ≤ ofppMax := by
  obtain ⟨next, rfl, _⟩ := towards
  exact cabling.port_physical datapath next

theorem Towards.ordinary {datapath : Nat} {address : String} {port : Nat}
    (towards : Towards cabling datapath address port) : port ≠ ofppController := by
  have physical := towards.physical
  rintro rfl
  simp [ofppController, ofppMax] at physical

/-- A frame came in on the port of the link that leads here from its source. -/
def Entered (cabling : Cabling) (format : FrameFormat) (datapath inPort : Nat)
    (data : List UInt8) : Prop :=
  ∃ previous, inPort = cabling.port datapath previous ∧
    Away cabling.graph (origin format data) previous (.switch datapath)

/-- A frame that entered a switch leaves it away from its source. -/
theorem Entered.leaves (acyclic : cabling.graph.IsAcyclic) {datapath inPort : Nat}
    {data : List UInt8} (entered : Entered cabling format datapath inPort data)
    {normal : List Device} {port : Nat} {next : Device}
    (member : next ∈ egress cabling datapath inPort normal port) :
    Away cabling.graph (origin format data) (.switch datapath) next := by
  obtain ⟨previous, rfl, away⟩ := entered
  obtain ⟨linked, other⟩ := mem_egress member
  refine away.next acyclic linked ?_
  rintro rfl
  exact other rfl

/-- Frames ride away from their source, and ports lead towards their host. -/
def outward (format : FrameFormat) (acyclic : cabling.graph.IsAcyclic) :
    Discipline cabling format where
  rides transit := Away cabling.graph (origin format transit.data) transit.source transit.target
  enters := Entered cabling format
  leads := Towards cabling
  arrives {source _ _} away := ⟨source, rfl, away⟩
  leaves entered member := entered.leaves acyclic member
  teaches entered := entered

/-- The network is directed. -/
abbrev Oriented (rule : Nat → OFPMatch → List OFPAction → Prop) (format : FrameFormat)
    (acyclic : cabling.graph.IsAcyclic) (fabric : Fabric K) : Prop :=
  Disciplined rule (outward format acyclic) fabric

/-- Hosts use their own hardware address. -/
def Honest (format : FrameFormat) : FabricEvent → Prop
  | .inject address data => (format.fields data).ethSrc = address
  | _ => True

/-- What honest hosts inject leaves its source. -/
theorem Honest.abides (acyclic : cabling.graph.IsAcyclic) {event : FabricEvent}
    (honest : Honest format event) : Abides (outward format acyclic) event := by
  cases event with
  | inject address data =>
      intro next linked
      have own : (format.fields data).ethSrc = address := honest
      show Away cabling.graph (origin format data) (.host address) next
      simpa [origin, own] using away_from_root (G := cabling.graph) linked
  | _ => trivial

end NetworkAdapter.Fabric
