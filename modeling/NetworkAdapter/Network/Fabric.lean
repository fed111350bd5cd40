import Mathlib.Combinatorics.SimpleGraph.Basic
import NetworkAdapter.Controller.Simulation
import NetworkAdapter.Semantics.Execution

/-!
# A network of switches under the controller

Hosts and switches are linked by cables, a link being on a port of each switch it
ends at. A frame that reaches a switch is handled by one of the entries its table
has for it; an entry that names the controller hands the frame over as a
packet-in. What the controller sends is on its way until the switch carries it
out, in any order: it sends no barriers. Frames on different links, packet-ins
and messages overtake each other at will, so a list of events is one
interleaving.
-/

namespace NetworkAdapter

/-- The largest number of a physical port. -/
def ofppMax : Nat := 0xffffff00

/-- A switch, by its datapath id, or a host, by its hardware address. -/
inductive Device where
  | switch (datapath : Nat)
  | host (address : String)
deriving DecidableEq

/-- The device is a switch. -/
def Device.isSwitch : Device → Bool
  | .switch _ => true
  | .host _ => false

/-- The cables between the devices, and the port of a switch that each is on. A host
has one network interface. -/
structure Cabling where
  neighbours : Device → List Device
  port : Nat → Device → Nat
  nodup : ∀ device, (neighbours device).Nodup
  symmetric : ∀ {device other}, other ∈ neighbours device → device ∈ neighbours other
  irreflexive : ∀ device, device ∉ neighbours device
  port_injective : ∀ {datapath device other}, device ∈ neighbours (.switch datapath) →
    other ∈ neighbours (.switch datapath) → port datapath device = port datapath other →
      device = other
  port_physical : ∀ datapath device, port datapath device ≤ ofppMax
  leaf : ∀ {address device other}, device ∈ neighbours (.host address) →
    other ∈ neighbours (.host address) → device = other

/-- The cables as a graph. -/
def Cabling.graph (cabling : Cabling) : SimpleGraph Device where
  Adj device other := other ∈ cabling.neighbours device
  symm := ⟨fun _ _ linked => cabling.symmetric linked⟩
  loopless := ⟨cabling.irreflexive⟩

/-- The neighbours a table lists for a device. -/
def linksOf (table : List (Device × List Device)) (device : Device) : List Device :=
  (table.lookup device).getD []

/-- A table of links that can be laid: each is listed at both its ends, and a host has one. -/
def Wired (table : List (Device × List Device)) : Prop :=
  ∀ entry ∈ table, entry.2.Nodup ∧ entry.1 ∉ entry.2 ∧ entry.2.length < ofppMax ∧
    (∀ other ∈ entry.2, entry.1 ∈ linksOf table other) ∧
      (entry.1.isSwitch ∨ entry.2.length ≤ 1)
deriving Decidable

theorem exists_entry {table : List (Device × List Device)} {device other : Device}
    (linked : other ∈ linksOf table device) : (device, linksOf table device) ∈ table := by
  unfold linksOf at linked ⊢
  cases found : table.lookup device with
  | none => simp [found] at linked
  | some others =>
      obtain ⟨before, after, rfl, _⟩ := List.lookup_eq_some_iff.mp found
      simp

/-- The cabling a table describes, the ports of a switch being numbered in its order. -/
def Cabling.ofTable (table : List (Device × List Device)) (wired : Wired table) : Cabling where
  neighbours := linksOf table
  port datapath device := (linksOf table (.switch datapath)).idxOf device + 1
  nodup device := by
    cases listed : linksOf table device with
    | nil => exact List.nodup_nil
    | cons first rest =>
        have entry := exists_entry (listed ▸ List.mem_cons_self : first ∈ linksOf table device)
        exact listed ▸ (wired _ entry).1
  symmetric linked := (wired _ (exists_entry linked)).2.2.2.1 _ linked
  irreflexive device linked := (wired _ (exists_entry linked)).2.1 linked
  port_injective {datapath device other} linked linked' same :=
    (List.idxOf_inj linked).mp (Nat.succ.inj same)
  port_physical datapath device := by
    cases listed : linksOf table (.switch datapath) with
    | nil => simp [ofppMax]
    | cons first rest =>
        have entry := exists_entry
          (listed ▸ List.mem_cons_self : first ∈ linksOf table (.switch datapath))
        have short := (wired _ entry).2.2.1
        rw [listed] at short
        exact Nat.lt_of_le_of_lt (List.idxOf_le_length ..) short
  leaf {address device other} linked linked' := by
    have few := (wired _ (exists_entry linked)).2.2.2.2
    obtain ⟨only, alone⟩ : ∃ only, linksOf table (.host address) = [only] := by
      cases listed : linksOf table (.host address) with
      | nil => simp [listed] at linked
      | cons first rest =>
          have short : rest = [] := by simpa [listed, Device.isSwitch] using few
          exact ⟨first, by rw [short]⟩
    rw [alone] at linked linked'
    rw [List.mem_singleton.mp linked, List.mem_singleton.mp linked']

/-- How the bytes of a frame are read: into the fields that switches match on, and into
the protocols of the packet library. The two agree on the addresses. -/
structure FrameFormat where
  fields : List UInt8 → Frame
  protocols : List UInt8 → Except PyError (List Header)
  agrees : ∀ {data headers dst src ethertype}, protocols data = .ok headers →
    headers.findSome? Header.ethernet? = some (dst, src, ethertype) →
      (fields data).ethDst = dst ∧ (fields data).ethSrc = src

/-- A frame as it enters a switch. -/
def FrameFormat.received (format : FrameFormat) (inPort : Nat) (data : List UInt8) : Frame :=
  { format.fields data with inPort := inPort }

/-- A frame under way from one device to the next. -/
structure Transit where
  source : Device
  target : Device
  data : List UInt8
deriving DecidableEq

/-- The controller, the flow tables, and all that is under way. `arrivals` records every frame
that reached a device. -/
structure Fabric (K : Type) where
  app : DDoSSimulationAPP K
  tables : Nat → SwitchTable
  wires : List Transit
  packetIns : List PacketIn
  commands : List (Nat × Message)
  arrivals : List (Device × List UInt8)

/-- What happens next. An arrival names the frame, which of the entries that handle it is taken,
and where the switch's own forwarding would send it. -/
inductive FabricEvent where
  | inject (address : String) (data : List UInt8)
  | arrive (index entry : Nat) (normal : List Device)
  | control (index : Nat)
  | execute (index : Nat) (normal : List Device)
  | request (event : DDoSSimulationAPP.Event)

namespace Fabric

variable {K : Type}

/-- Before any handshake. -/
def init : Fabric K where
  app := DDoSSimulationAPP.init
  tables := fun _ => .empty
  wires := []
  packetIns := []
  commands := []
  arrivals := []

variable (cabling : Cabling) (format : FrameFormat)

/-- The devices an output action sends to. A frame does not leave by the port it came in on;
`OFPP_NORMAL` leaves the choice among the other ports to the switch. -/
def egress (datapath inPort : Nat) (normal : List Device) (port : Nat) : List Device :=
  (cabling.neighbours (.switch datapath)).filter fun next =>
    cabling.port datapath next ≠ inPort ∧
      (port = ofppFlood ∨ port = ofppNormal ∧ next ∈ normal ∨ port = cabling.port datapath next)

/-- `OFPActionOutput`. Every action that names the controller asks for the whole packet. -/
def output (datapath inPort : Nat) (data : List UInt8) (normal : List Device)
    (fabric : Fabric K) (action : OFPAction) : Fabric K :=
  if action.port = ofppController then
    { fabric with
      packetIns := fabric.packetIns ++
        [⟨datapath, inPort, ofpNoBuffer, data, format.protocols data⟩] }
  else
    { fabric with
      wires := fabric.wires ++ (egress cabling datapath inPort normal action.port).map
        fun next => ⟨.switch datapath, next, data⟩ }

/-- An action list, applied to a frame. -/
def apply (datapath inPort : Nat) (data : List UInt8) (normal : List Device)
    (actions : List OFPAction) (fabric : Fabric K) : Fabric K :=
  actions.foldl (output cabling format datapath inPort data normal) fabric

/-- The actions of the entry taken, out of those that handle the frame; none if the table
misses. -/
def handler (table : SwitchTable) (frame : Frame) (entry : Nat) : List OFPAction :=
  let candidates := FlowTable.handlers OFPMatch.admits table frame
  (candidates[entry % candidates.length]?).getD []

/-- A frame reaches a device; hosts keep what they receive. -/
def arrive (transit : Transit) (entry : Nat) (normal : List Device) (fabric : Fabric K) :
    Fabric K :=
  let reached := { fabric with arrivals := fabric.arrivals ++ [(transit.target, transit.data)] }
  match transit.target with
  | .host _ => reached
  | .switch datapath =>
      let inPort := cabling.port datapath transit.source
      apply cabling format datapath inPort transit.data normal
        (handler (fabric.tables datapath) (format.received inPort transit.data) entry) reached

variable [EntropyArithmetic K]

/-- The controller handles an event, and what it sends is under way. -/
def serve (event : DDoSSimulationAPP.Event) (fabric : Fabric K) : Fabric K :=
  let app := DDoSSimulationAPP.step fabric.app event
  { fabric with
    app := app
    commands := fabric.commands ++ app.sent.drop fabric.app.sent.length }

omit [EntropyArithmetic K] in
/-- A switch carries out a message. It holds no packets in buffers, so a packet-out comes with
its data. -/
def execute (datapath : Nat) (message : Message) (normal : List Device) (fabric : Fabric K) :
    Fabric K :=
  let updated := { fabric with
    tables := fun other =>
      if other = datapath then message.apply (fabric.tables datapath) else fabric.tables other }
  match message with
  | .flowMod _ => updated
  | .packetOut body =>
      match body.data with
      | none => updated
      | some data => apply cabling format datapath body.inPort data normal body.actions updated

/-- One event. Packet-ins reach the controller from switches only. -/
def step (fabric : Fabric K) : FabricEvent → Fabric K
  | .inject address data =>
      { fabric with
        wires := fabric.wires ++ (cabling.neighbours (.host address)).map
          fun next => ⟨.host address, next, data⟩ }
  | .arrive index entry normal =>
      match fabric.wires[index]? with
      | none => fabric
      | some transit =>
          arrive cabling format transit entry normal
            { fabric with wires := fabric.wires.eraseIdx index }
  | .control index =>
      match fabric.packetIns[index]? with
      | none => fabric
      | some message =>
          serve (.packetIn message) { fabric with packetIns := fabric.packetIns.eraseIdx index }
  | .execute index normal =>
      match fabric.commands[index]? with
      | none => fabric
      | some (datapath, message) =>
          execute cabling format datapath message normal
            { fabric with commands := fabric.commands.eraseIdx index }
  | .request (.packetIn _) => fabric
  | .request event => serve event fabric

variable {cabling format}

omit [EntropyArithmetic K] in
/-- Applying actions puts frames on the links and packet-ins under way. -/
theorem apply_eq (datapath inPort : Nat) (data : List UInt8) (normal : List Device)
    (actions : List OFPAction) (fabric : Fabric K) :
    apply cabling format datapath inPort data normal actions fabric =
      { fabric with
        wires := fabric.wires ++ actions.flatMap fun action =>
          if action.port = ofppController then []
          else (egress cabling datapath inPort normal action.port).map
            fun next => ⟨.switch datapath, next, data⟩
        packetIns := fabric.packetIns ++ actions.flatMap fun action =>
          if action.port = ofppController then
            [⟨datapath, inPort, ofpNoBuffer, data, format.protocols data⟩]
          else [] } := by
  unfold apply
  induction actions generalizing fabric with
  | nil => simp
  | cons action rest inductionHypothesis =>
      rw [List.foldl_cons, inductionHypothesis]
      by_cases named : action.port = ofppController <;> simp [output, named]

theorem mem_egress {datapath inPort : Nat} {normal : List Device} {port : Nat} {next : Device}
    (member : next ∈ egress cabling datapath inPort normal port) :
    next ∈ cabling.neighbours (.switch datapath) ∧ cabling.port datapath next ≠ inPort := by
  obtain ⟨linked, passes⟩ := List.mem_filter.mp member
  exact ⟨linked, (of_decide_eq_true passes).1⟩

omit [EntropyArithmetic K] in
theorem apply_tables (datapath inPort : Nat) (carried : List UInt8) (normal : List Device)
    (actions : List OFPAction) (fabric : Fabric K) :
    (apply cabling format datapath inPort carried normal actions fabric).tables =
      fabric.tables := by
  rw [apply_eq]

omit [EntropyArithmetic K] in
theorem apply_app (datapath inPort : Nat) (carried : List UInt8) (normal : List Device)
    (actions : List OFPAction) (fabric : Fabric K) :
    (apply cabling format datapath inPort carried normal actions fabric).app = fabric.app := by
  rw [apply_eq]

omit [EntropyArithmetic K] in
theorem arrive_tables (transit : Transit) (entry : Nat) (normal : List Device)
    (fabric : Fabric K) :
    (arrive cabling format transit entry normal fabric).tables = fabric.tables := by
  unfold arrive
  split
  · rfl
  · rw [apply_tables]

omit [EntropyArithmetic K] in
theorem arrive_app (transit : Transit) (entry : Nat) (normal : List Device) (fabric : Fabric K) :
    (arrive cabling format transit entry normal fabric).app = fabric.app := by
  unfold arrive
  split
  · rfl
  · rw [apply_app]

omit [EntropyArithmetic K] in
theorem execute_tables (datapath : Nat) (message : Message) (normal : List Device)
    (fabric : Fabric K) (other : Nat) :
    (execute cabling format datapath message normal fabric).tables other =
      if other = datapath then message.apply (fabric.tables datapath) else fabric.tables other := by
  unfold execute
  split
  · rfl
  · split
    · rfl
    · rw [apply_tables]

omit [EntropyArithmetic K] in
theorem execute_app (datapath : Nat) (message : Message) (normal : List Device)
    (fabric : Fabric K) :
    (execute cabling format datapath message normal fabric).app = fabric.app := by
  unfold execute
  split
  · rfl
  · split
    · rfl
    · rw [apply_app]

/-- A table is changed by the messages its switch carries out. -/
theorem tables_step (fabric : Fabric K) (event : FabricEvent) (datapath : Nat) :
    (step cabling format fabric event).tables datapath = fabric.tables datapath ∨
      ∃ message, (datapath, message) ∈ fabric.commands ∧
        (step cabling format fabric event).tables datapath =
          message.apply (fabric.tables datapath) := by
  cases event with
  | inject address data => exact .inl rfl
  | arrive index entry normal =>
      cases found : fabric.wires[index]? with
      | none => exact .inl (by simp [step, found])
      | some transit => exact .inl (by simp [step, found, arrive_tables])
  | control index =>
      cases found : fabric.packetIns[index]? with
      | none => exact .inl (by simp [step, found])
      | some message => exact .inl (by simp [step, found, serve])
  | execute index normal =>
      cases found : fabric.commands[index]? with
      | none => exact .inl (by simp [step, found])
      | some command =>
          by_cases same : datapath = command.1
          · subst same
            exact .inr ⟨command.2, List.mem_of_getElem? found,
              by simp [step, found, execute_tables]⟩
          · exact .inl (by simp [step, found, execute_tables, same])
  | request event => cases event <;> exact .inl rfl

/-- The controller handles a packet-in that was under way, or a request. -/
theorem app_step (fabric : Fabric K) (event : FabricEvent) :
    (step cabling format fabric event).app = fabric.app ∨
      (∃ message ∈ fabric.packetIns, (step cabling format fabric event).app =
        DDoSSimulationAPP.step fabric.app (.packetIn message)) ∨
      ∃ request, event = .request request ∧ (∀ message, request ≠ .packetIn message) ∧
        (step cabling format fabric event).app = DDoSSimulationAPP.step fabric.app request := by
  cases event with
  | inject address data => exact .inl rfl
  | arrive index entry normal =>
      cases found : fabric.wires[index]? with
      | none => exact .inl (by simp [step, found])
      | some transit => exact .inl (by simp [step, found, arrive_app])
  | control index =>
      cases found : fabric.packetIns[index]? with
      | none => exact .inl (by simp [step, found])
      | some message =>
          exact .inr (.inl ⟨message, List.mem_of_getElem? found, by simp [step, found, serve]⟩)
  | execute index normal =>
      cases found : fabric.commands[index]? with
      | none => exact .inl (by simp [step, found])
      | some command => exact .inl (by simp [step, found, execute_app])
  | request event =>
      cases event with
      | packetIn message => exact .inl rfl
      | _ => exact .inr (.inr ⟨_, rfl, by simp, rfl⟩)

/-- The frames injected by the events of a run. -/
def injections (events : List FabricEvent) : List (List UInt8) :=
  events.filterMap fun
    | .inject _ data => some data
    | _ => none

/-- Nothing is under way. -/
def Quiescent (fabric : Fabric K) : Prop :=
  fabric.wires = [] ∧ fabric.packetIns = [] ∧ fabric.commands = []

end Fabric
end NetworkAdapter
