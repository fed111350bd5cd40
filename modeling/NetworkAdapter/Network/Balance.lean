import NetworkAdapter.Network.Directions
import NetworkAdapter.Std.Weights

/-!
# The balance of a frame

Fix a frame and a device. A copy of the frame that is under way weighs one if the
device lies in the direction the copy travels in, a packet-in as much as flooding
it would, and a packet-out as much as what it sends. `balance` adds to these the
copies that have arrived. The lemmas here say exactly how each event changes it:
handing a frame over to the controller does not, and a switch that applies
actions to a frame changes it by the difference between what the actions send and
what a flood would.
-/

namespace NetworkAdapter.Fabric

open DDoSSimulationAPP LoopFree Weights

variable {K : Type} {cabling : Cabling} {format : FrameFormat}
  {rule : Nat → OFPMatch → List OFPAction → Prop}

open Classical in
/-- The target lies in the direction of a link. -/
noncomputable def heading (cabling : Cabling) (target source next : Device) : Nat :=
  if Away cabling.graph target next source then 1 else 0

/-- What is sent from a switch to some of its neighbours. -/
noncomputable def spread (cabling : Cabling) (target : Device) (datapath : Nat)
    (devices : List Device) : Nat :=
  (devices.map fun next => heading cabling target (.switch datapath) next).sum

/-- What flooding a frame sends. -/
noncomputable def flooded (cabling : Cabling) (target : Device) (datapath inPort : Nat) : Nat :=
  spread cabling target datapath (egress cabling datapath inPort [] ofppFlood)

/-- What an action sends; a frame handed over to the controller counts as flooded. -/
noncomputable def actionWeight (cabling : Cabling) (target : Device) (datapath inPort : Nat)
    (normal : List Device) (action : OFPAction) : Nat :=
  if action.port = ofppController then flooded cabling target datapath inPort
  else spread cabling target datapath (egress cabling datapath inPort normal action.port)

/-- What an action list sends. -/
noncomputable def actionsWeight (cabling : Cabling) (target : Device) (datapath inPort : Nat)
    (normal : List Device) (actions : List OFPAction) : Nat :=
  (actions.map (actionWeight cabling target datapath inPort normal)).sum

noncomputable def transitWeight (cabling : Cabling) (target : Device) (data : List UInt8)
    (transit : Transit) : Nat :=
  if transit.data = data then heading cabling target transit.source transit.target else 0

noncomputable def packetInWeight (cabling : Cabling) (target : Device) (data : List UInt8)
    (message : PacketIn) : Nat :=
  if message.data = data then flooded cabling target message.datapath message.inPort else 0

noncomputable def commandWeight (cabling : Cabling) (target : Device) (data : List UInt8)
    (entry : Nat × Message) : Nat :=
  match entry.2 with
  | .flowMod _ => 0
  | .packetOut body =>
      if body.data = some data then actionsWeight cabling target entry.1 body.inPort [] body.actions
      else 0

/-- The copies of a frame under way towards a device. -/
noncomputable def pending (cabling : Cabling) (target : Device) (data : List UInt8)
    (fabric : Fabric K) : Nat :=
  (fabric.wires.map (transitWeight cabling target data)).sum +
    (fabric.packetIns.map (packetInWeight cabling target data)).sum +
      (fabric.commands.map (commandWeight cabling target data)).sum

/-- The copies that have arrived and those still to come. -/
noncomputable def balance (cabling : Cabling) (target : Device) (data : List UInt8)
    (fabric : Fabric K) : Nat :=
  fabric.arrivals.count (target, data) + pending cabling target data fabric

variable {target : Device} {data : List UInt8}

/-- One action on a frame. -/
theorem balance_output (datapath inPort : Nat) (carried : List UInt8) (normal : List Device)
    (fabric : Fabric K) (action : OFPAction) :
    balance cabling target data
        (output cabling format datapath inPort carried normal fabric action) =
      balance cabling target data fabric +
        if carried = data then actionWeight cabling target datapath inPort normal action
        else 0 := by
  unfold output actionWeight balance pending
  by_cases same : carried = data
  · by_cases named : action.port = ofppController
    · simp [named, same, packetInWeight]
      omega
    · simp [named, same, transitWeight, spread, Function.comp_def]
      omega
  · by_cases named : action.port = ofppController
    · simp [named, same, packetInWeight]
    · simp [named, same, transitWeight, Function.comp_def]

/-- An action list on a frame. -/
theorem balance_apply (datapath inPort : Nat) (carried : List UInt8) (normal : List Device)
    (actions : List OFPAction) (fabric : Fabric K) :
    balance cabling target data
        (apply cabling format datapath inPort carried normal actions fabric) =
      balance cabling target data fabric +
        if carried = data then actionsWeight cabling target datapath inPort normal actions
        else 0 := by
  unfold apply actionsWeight
  induction actions generalizing fabric with
  | nil => simp
  | cons action rest inductionHypothesis =>
      rw [List.foldl_cons, inductionHypothesis, balance_output]
      split
      · rw [List.map_cons, List.sum_cons, Nat.add_assoc]
      · rfl

section Acyclic

variable (acyclic : cabling.graph.IsAcyclic)
include acyclic

/-- A flood sends one copy towards the target unless it has reached it, or comes from there. -/
theorem flooded_eq (target : Device) {datapath : Nat} {previous : Device}
    (linked : previous ∈ cabling.neighbours (.switch datapath)) :
    heading cabling target previous (.switch datapath) =
      flooded cabling target datapath (cabling.port datapath previous) +
        if .switch datapath = target then 1 else 0 := by
  classical
  have distinct : (egress cabling datapath (cabling.port datapath previous) [] ofppFlood).Nodup :=
    (cabling.nodup _).filter _
  have single := sum_indicator distinct
    (fun next => Away cabling.graph target next (.switch datapath))
    fun first second towards towards' => towards.unique acyclic towards'
  have onward : (∃ next, next ≠ previous ∧ Away cabling.graph target next (.switch datapath)) ↔
      .switch datapath ≠ target ∧ Away cabling.graph target (.switch datapath) previous :=
    away_onward_iff acyclic linked
  have sends : (∃ next ∈ egress cabling datapath (cabling.port datapath previous) [] ofppFlood,
      Away cabling.graph target next (.switch datapath)) ↔
        .switch datapath ≠ target ∧ Away cabling.graph target (.switch datapath) previous := by
    rw [← onward]
    constructor
    · rintro ⟨next, member, towards⟩
      refine ⟨next, ?_, towards⟩
      rintro rfl
      exact (mem_egress member).2 rfl
    · rintro ⟨next, apart, towards⟩
      have beside : next ∈ cabling.neighbours (.switch datapath) := towards.adjacent.symm
      refine ⟨next, List.mem_filter.mpr ⟨beside, decide_eq_true ⟨?_, .inl rfl⟩⟩, towards⟩
      exact fun same => apart (cabling.port_injective beside linked same)
  have sum : flooded cabling target datapath (cabling.port datapath previous) =
      if .switch datapath ≠ target ∧ Away cabling.graph target (.switch datapath) previous
      then 1 else 0 := by
    rw [← if_congr sends rfl rfl, ← single]
    rfl
  rw [sum, heading]
  by_cases reached : .switch datapath = target
  · subst reached
    simp [away_from_root (G := cabling.graph) linked]
  · simp [reached]

/-- Sending a frame on towards a host is, for that host, as good as a flood. -/
theorem spread_towards {datapath inPort : Nat} (normal : List Device) {address : String}
    {port : Nat} (towards : Towards cabling datapath address port) :
    spread cabling (.host address) datapath (egress cabling datapath inPort normal port) =
      flooded cabling (.host address) datapath inPort := by
  obtain ⟨next, rfl, away⟩ := towards
  refine sum_filter_congr _ fun device linked heavy => ?_
  have same : device = next := by
    refine Away.unique acyclic ?_ away
    by_contra other
    exact heavy (if_neg other)
  subst same
  simp

end Acyclic

/-- The switch's own choice matters for `OFPP_NORMAL` only. -/
theorem egress_normal {port : Nat} (ordinary : port ≠ ofppNormal) (datapath inPort : Nat)
    (normal : List Device) :
    egress cabling datapath inPort normal port = egress cabling datapath inPort [] port := by
  simp [egress, ordinary]

/-- No output sends more towards a target than a flood. -/
theorem spread_le (datapath inPort : Nat) (normal : List Device) (port : Nat) :
    spread cabling target datapath (egress cabling datapath inPort normal port) ≤
      flooded cabling target datapath inPort := by
  refine sum_filter_le _ fun device _ passes => ?_
  simpa using (of_decide_eq_true passes).1

theorem actionWeight_le (datapath inPort : Nat) (normal : List Device) (action : OFPAction) :
    actionWeight cabling target datapath inPort normal action ≤
      flooded cabling target datapath inPort := by
  unfold actionWeight
  split
  · exact Nat.le_refl _
  · exact spread_le datapath inPort normal action.port

/-- Nor does a list of one action or none. -/
theorem actionsWeight_le (cabling : Cabling) (target : Device) (datapath inPort : Nat)
    (normal : List Device) {actions : List OFPAction} (few : actions.length ≤ 1) :
    actionsWeight cabling target datapath inPort normal actions ≤
      flooded cabling target datapath inPort := by
  match actions, few with
  | [], _ => exact Nat.zero_le _
  | [action], _ => simpa [actionsWeight] using actionWeight_le datapath inPort normal action

end NetworkAdapter.Fabric
