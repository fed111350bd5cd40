import Mathlib.Data.Prod.Lex
import NetworkAdapter.Network.Delivery
import NetworkAdapter.Semantics.Settling

/-!
# The network comes to rest

In a finite network without cycles only so many frames can arrive for those that
were injected. Between two arrivals the controller can only answer the
packet-ins there are, and then the switches carry out what it sent. So whatever
is picked next of all that is under way, in the end nothing is.
-/

namespace NetworkAdapter.Fabric

open DDoSSimulationAPP Execution Weights

variable {K : Type} {cabling : Cabling} {format : FrameFormat}
  {acyclic : cabling.graph.IsAcyclic}

/-- The event makes something that is under way go on. -/
def Moves (fabric : Fabric K) : FabricEvent → Prop
  | .arrive index _ _ => index < fabric.wires.length
  | .control index => index < fabric.packetIns.length
  | .execute index _ => index < fabric.commands.length
  | _ => False

/-- How far it is to rest: the arrivals to come, then the packet-ins, then the commands. -/
def remaining (bound : Nat) (fabric : Fabric K) : Nat ×ₗ Nat ×ₗ Nat :=
  toLex (bound - fabric.arrivals.length,
    toLex (fabric.packetIns.length, fabric.commands.length))

theorem apply_arrivals (datapath inPort : Nat) (carried : List UInt8) (normal : List Device)
    (actions : List OFPAction) (fabric : Fabric K) :
    (apply cabling format datapath inPort carried normal actions fabric).arrivals =
      fabric.arrivals := by
  rw [apply_eq]

theorem arrive_arrivals (transit : Transit) (entry : Nat) (normal : List Device)
    (fabric : Fabric K) :
    (arrive cabling format transit entry normal fabric).arrivals =
      fabric.arrivals ++ [(transit.target, transit.data)] := by
  unfold arrive
  split
  · rfl
  · rw [apply_arrivals]

theorem execute_arrivals (datapath : Nat) (message : Message) (normal : List Device)
    (fabric : Fabric K) :
    (execute cabling format datapath message normal fabric).arrivals = fabric.arrivals := by
  unfold execute
  split
  · rfl
  · split
    · rfl
    · rw [apply_arrivals]

/-- A switch that carries out a sound message reports nothing and is sent nothing. -/
theorem execute_sound {rule : Nat → OFPMatch → List OFPAction → Prop} {datapath : Nat}
    {message : Message} (sound : Sound rule (outward format acyclic) datapath message)
    (normal : List Device) (fabric : Fabric K) :
    let after := execute cabling format datapath message normal fabric
    after.packetIns = fabric.packetIns ∧ after.commands = fabric.commands := by
  cases sound with
  | addition holds => exact ⟨rfl, rfl⟩
  | @packet body data port carries entered sends onward =>
      have ordinary : port ≠ ofppController := by
        rcases onward with rfl | towards
        · decide
        · exact towards.ordinary
      simp [execute, carries, apply_eq, sends, outputTo, ordinary]

variable [EntropyArithmetic K]

/-- Frames arrive at devices of the network. -/
theorem step_within {devices : Finset Device}
    (finite : ∀ device other, other ∈ cabling.neighbours device → other ∈ devices)
    {rule : Nat → OFPMatch → List OFPAction → Prop} {fabric : Fabric K}
    (oriented : Oriented rule format acyclic fabric)
    (within : ∀ entry ∈ fabric.arrivals, entry.1 ∈ devices) (event : FabricEvent) :
    ∀ entry ∈ (step cabling format fabric event).arrivals, entry.1 ∈ devices := by
  cases event with
  | inject address data => exact within
  | arrive index entry normal =>
      cases found : fabric.wires[index]? with
      | none => simpa [step, found] using within
      | some transit =>
          have linked := (oriented.wires _ (List.mem_of_getElem? found)).adjacent
          simp only [step, found, arrive_arrivals]
          intro entry member
          rcases List.mem_append.mp member with old | new
          · exact within entry old
          · rw [List.mem_singleton.mp new]
            exact finite _ _ linked
  | control index =>
      cases found : fabric.packetIns[index]? with
      | none => simpa [step, found] using within
      | some message => simpa [step, found, serve] using within
  | execute index normal =>
      cases found : fabric.commands[index]? with
      | none => simpa [step, found] using within
      | some command => simpa [step, found, execute_arrivals] using within
  | request event => cases event <;> exact within

/-- At most as many frames arrive as each device receiving every injected frame would take. -/
theorem arrivals_le (acyclic : cabling.graph.IsAcyclic) {devices : Finset Device}
    (finite : ∀ device other, other ∈ cabling.neighbours device → other ∈ devices)
    {events : List FabricEvent} (honest : ∀ event ∈ events, Honest format event) :
    (run (step cabling format) (init : Fabric K) events).arrivals.length ≤
      devices.card * (injections events).length := by
  have arrived : Oriented SentRule format acyclic
        (run (step cabling format) (init : Fabric K) events) ∧
      ∀ entry ∈ (run (step cabling format) (init : Fabric K) events).arrivals,
        entry.1 ∈ devices :=
    run_invariant_of_mem (fun fabric : Fabric K => Oriented SentRule format acyclic fabric ∧
        ∀ entry ∈ fabric.arrivals, entry.1 ∈ devices)
      (fun fabric event member known =>
        ⟨known.1.step ((honest event member).abides acyclic) (within_sent fabric event),
          step_within finite known.1 known.2 event⟩)
      ⟨disciplined_init, by simp [init]⟩
  refine length_le_of_count arrived.2 fun device data => ?_
  have bound := (run_le device data acyclic (disciplined_init (K := K)) honest).2
  have start : balance cabling device data (init : Fabric K) = 0 := by
    simp [balance, pending, init]
  rw [sum_injected honest, start, Nat.zero_add] at bound
  have few := Nat.le_trans (Nat.le_add_right _ _) bound
  split at few
  · exact Nat.le_trans few (Nat.zero_le _)
  · exact few

omit [EntropyArithmetic K] in
theorem Moves.honest {fabric : Fabric K} {event : FabricEvent} (moves : Moves fabric event) :
    Honest format event := by
  cases event with
  | inject address data => exact moves.elim
  | _ => trivial

/-- The step lemma: a move brings the network closer to rest, if it may still arrive. -/
theorem Moves.lowers {rule : Nat → OFPMatch → List OFPAction → Prop} {fabric : Fabric K}
    (oriented : Oriented rule format acyclic fabric) {event : FabricEvent}
    (moves : Moves fabric event) {bound : Nat}
    (below : (step cabling format fabric event).arrivals.length ≤ bound) :
    remaining bound (step cabling format fabric event) < remaining bound fabric := by
  unfold remaining
  cases event with
  | inject address data => exact moves.elim
  | request event => exact moves.elim
  | arrive index entry normal =>
      have found := List.getElem?_eq_getElem (l := fabric.wires) moves
      simp only [step, found, arrive_arrivals, List.length_append, List.length_singleton]
        at below ⊢
      exact Prod.Lex.toLex_lt_toLex.mpr (.inl (by simp only; omega))
  | control index =>
      have found := List.getElem?_eq_getElem (l := fabric.packetIns) moves
      have fewer := List.length_eraseIdx_of_lt moves
      have some : 0 < fabric.packetIns.length := Nat.zero_lt_of_lt moves
      refine Prod.Lex.toLex_lt_toLex.mpr (.inr ⟨by simp [step, found, serve], ?_⟩)
      refine Prod.Lex.toLex_lt_toLex.mpr (.inl ?_)
      simp only [step, found, serve, fewer]
      omega
  | execute index normal =>
      have found := List.getElem?_eq_getElem (l := fabric.commands) moves
      have fewer := List.length_eraseIdx_of_lt moves
      have some : 0 < fabric.commands.length := Nat.zero_lt_of_lt moves
      obtain ⟨packetIns, commands⟩ := execute_sound
        (oriented.commands _ (List.mem_of_getElem? found)) normal
        { fabric with commands := fabric.commands.eraseIdx index }
      refine Prod.Lex.toLex_lt_toLex.mpr (.inr ⟨by simp [step, found, execute_arrivals], ?_⟩)
      refine Prod.Lex.toLex_lt_toLex.mpr (.inr ⟨by simp [step, found, packetIns], ?_⟩)
      have rest : (step cabling format fabric (.execute index normal)).commands.length =
          fabric.commands.length - 1 := by
        simp [step, found, commands, fewer]
      simp only [rest]
      omega

/-- In a finite network without cycles every schedule that goes on with something under way as
long as there is something comes to rest, and by then no more frames have arrived than if each
device had received each injected frame once. -/
theorem network_drains (acyclic : cabling.graph.IsAcyclic) (devices : Finset Device)
    (finite : ∀ device other, other ∈ cabling.neighbours device → other ∈ devices)
    {events : List FabricEvent} (honest : ∀ event ∈ events, Honest format event)
    (schedule : Nat → FabricEvent) :
    let after moment := run (step cabling format) (init : Fabric K)
      (events ++ (List.range moment).map schedule)
    (∀ moment, ¬ Quiescent (after moment) → Moves (after moment) (schedule moment)) →
      ∃ moment, Quiescent (after moment) ∧
        (after moment).arrivals.length ≤ devices.card * (injections events).length := by
  intro after moving
  classical
  have next (moment : Nat) :
      after (moment + 1) = step cabling format (after moment) (schedule moment) := by
    simp [after, List.range_succ]
  -- Up to the first moment of rest the schedule injects nothing.
  have allowed (moment : Nat) (before : ∀ earlier < moment, ¬ Quiescent (after earlier)) :
      (∀ event ∈ events ++ (List.range moment).map schedule, Honest format event) ∧
        injections (events ++ (List.range moment).map schedule) = injections events := by
    have moves : ∀ event ∈ (List.range moment).map schedule, ∃ fabric : Fabric K,
        Moves fabric event := by
      intro event member
      obtain ⟨earlier, listed, rfl⟩ := List.mem_map.mp member
      have early := before earlier (List.mem_range.mp listed)
      exact ⟨after earlier, moving earlier early⟩
    constructor
    · intro event member
      rcases List.mem_append.mp member with old | new
      · exact honest event old
      · obtain ⟨fabric, moves⟩ := moves event new
        exact moves.honest
    · have none : injections ((List.range moment).map schedule) = [] := by
        refine List.filterMap_eq_nil_iff.mpr fun event member => ?_
        obtain ⟨fabric, moves⟩ := moves event member
        cases event <;> first | exact moves.elim | rfl
      simpa [injections] using none
  have bounded (moment : Nat) (before : ∀ earlier < moment, ¬ Quiescent (after earlier)) :
      (after moment).arrivals.length ≤ devices.card * (injections events).length := by
    obtain ⟨honest, same⟩ := allowed moment before
    exact same ▸ arrivals_le acyclic finite honest
  have rests : ∃ moment, Quiescent (after moment) := by
    by_contra never
    have unsettled (moment : Nat) : ¬ Quiescent (after moment) := fun quiet => never ⟨moment, quiet⟩
    refine never (exists_settled
      (remaining (devices.card * (injections events).length)) fun moment unrest => ?_)
    have oriented := (run_le (.switch 0) [] acyclic (disciplined_init (K := K))
      (allowed moment fun earlier _ => unsettled earlier).1).1
    have below := bounded (moment + 1) fun earlier _ => unsettled earlier
    rw [next] at below ⊢
    exact (moving moment unrest).lowers oriented below
  exact ⟨Nat.find rests, Nat.find_spec rests,
    bounded _ fun earlier early => Nat.find_min rests early⟩

/-- A frame is handed over, flooded, and arrives; what comes then does not matter. -/
def deliver (moment : Nat) : FabricEvent :=
  match moment with
  | 1 => .control 0
  | 2 => .execute 0 []
  | _ => .arrive 0 0 []

theorem deliver_rests (later : Nat) :
    Quiescent (run (step twoHosts oneFrame) (init : Fabric Rat)
      ((handshake ++ [.inject "a" [0]]) ++ (List.range (later + 4)).map deliver)) := by
  induction later with
  | zero => exact ⟨rfl, rfl, rfl⟩
  | succ later inductionHypothesis =>
      have empty := inductionHypothesis.1
      have idle : deliver (later + 4) = .arrive 0 0 [] := rfl
      rw [show later + 1 + 4 = later + 4 + 1 from rfl, List.range_succ, List.map_append,
        ← List.append_assoc, run_append, List.map_singleton, idle, run_cons, run_nil, step, empty]
      exact inductionHypothesis

theorem two_hosts_drain :
    ∃ moment, Quiescent (run (step twoHosts oneFrame) (init : Fabric Rat)
        ((handshake ++ [.inject "a" [0]]) ++ (List.range moment).map deliver)) ∧
      (run (step twoHosts oneFrame) (init : Fabric Rat)
        ((handshake ++ [.inject "a" [0]]) ++
          (List.range moment).map deliver)).arrivals.length ≤ 3 := by
  refine network_drains (K := Rat) twoHosts_acyclic {.switch 1, .host "a", .host "b"} ?_ ?_
    deliver ?_
  · intro device other linked
    rcases mem_twoHosts linked with ⟨rfl, _⟩ | ⟨_, rfl⟩
    · rcases List.mem_pair.mp (linked : other ∈ [.host "a", .host "b"]) with rfl | rfl <;> decide
    · decide
  · simp [handshake, Honest, oneFrame]
  · intro moment unrest
    have early : moment < 4 := by
      by_contra late
      obtain ⟨later, rfl⟩ := Nat.exists_eq_add_of_le' (Nat.le_of_not_lt late)
      exact unrest (deliver_rests later)
    interval_cases moment <;> exact Nat.zero_lt_one

end NetworkAdapter.Fabric
