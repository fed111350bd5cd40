import Mathlib.Data.List.Induction
import NetworkAdapter.Controller.Rules

/-!
# What the controller learns

`latestPort` reads the port of an address off the packet-ins alone. The table the
controller keeps agrees with it at all times, one datapath at a time. A learned
flow agrees with it when it is installed; it has no timeout and is never
deleted, so it disagrees from then on whenever its destination has moved.
-/

namespace NetworkAdapter

/-- The number a text of digits denotes. -/
def digitsValue (text : String) : Nat := Nat.ofDigitChars 10 text.toList 0

/-- Leading zeros do not count, so a formatted id gives the id back. -/
theorem digitsValue_formatDpid (datapath : Nat) : digitsValue (formatDpid datapath) = datapath := by
  simp [digitsValue, formatDpid, zfill, List.leftpad, Nat.ofDigitChars_append]

theorem formatDpid_injective : Function.Injective formatDpid :=
  Function.LeftInverse.injective digitsValue_formatDpid

namespace DDoSSimulationAPP

open Execution

/-- The port on which a packet-in shows an address of a datapath, if it does. Link
discovery packets show none. -/
def sighting (datapath : Nat) (mac : String) (event : PacketIn) : Option Nat :=
  match ethernetHeader event with
  | .ok (_, src, ethertype) =>
      if event.datapath = datapath ∧ ethertype ≠ ethTypeLldp ∧ src = mac then some event.inPort
      else none
  | .error _ => none

/-- The port of the latest packet-in that shows the address. -/
def latestPort (history : List PacketIn) (datapath : Nat) (mac : String) : Option Nat :=
  history.reverse.findSome? (sighting datapath mac)

theorem latestPort_append (earlier later : List PacketIn) (datapath : Nat) (mac : String) :
    latestPort (earlier ++ later) datapath mac =
      (latestPort later datapath mac).or (latestPort earlier datapath mac) := by
  simp [latestPort, List.findSome?_append]

theorem latestPort_singleton (event : PacketIn) (datapath : Nat) (mac : String) :
    latestPort [event] datapath mac = sighting datapath mac event := by
  simp [latestPort]

/-- An address is on the port it was on, unless it has been seen on another since. -/
theorem latestPort_or_moved {earlier : List PacketIn} {datapath port : Nat} {mac : String}
    (known : latestPort earlier datapath mac = some port) (later : List PacketIn) :
    latestPort (earlier ++ later) datapath mac = some port ∨
      ∃ moved ∈ later, ∃ other, sighting datapath mac moved = some other ∧ other ≠ port := by
  rw [latestPort_append, known]
  cases seen : latestPort later datapath mac with
  | none => exact .inl rfl
  | some other =>
      by_cases same : other = port
      · exact .inl (by simp [same])
      · obtain ⟨moved, member, shown⟩ := List.exists_of_findSome?_eq_some seen
        exact .inr ⟨moved, List.mem_reverse.mp member, other, shown, same⟩

/-- A packet-in finds its destination known, and gets a flow to its port. -/
structure Teaches (earlier : List PacketIn) (event : PacketIn) (datapath inPort : Nat)
    (dst src : String) (port : Nat) : Prop where
  source : event.datapath = datapath ∧ event.inPort = inPort
  parses : ∃ ethertype, ethernetHeader event = .ok (dst, src, ethertype) ∧ ethertype ≠ ethTypeLldp
  known : latestPort (earlier ++ [event]) datapath dst = some port
  forwards : port ≠ ofppFlood

/-- The latest packet-in that taught a flow between two addresses gave it this port. -/
inductive Taught (datapath inPort : Nat) (dst src : String) : List PacketIn → Nat → Prop where
  | now {history : List PacketIn} {event : PacketIn} {port : Nat}
      (teaches : Teaches history event datapath inPort dst src port) :
      Taught datapath inPort dst src (history ++ [event]) port
  | since {history : List PacketIn} {event : PacketIn} {port : Nat}
      (taught : Taught datapath inPort dst src history port)
      (silent : ∀ other, ¬ Teaches history event datapath inPort dst src other) :
      Taught datapath inPort dst src (history ++ [event]) port

theorem Taught.append_singleton_iff {datapath inPort : Nat} {dst src : String}
    {history : List PacketIn} {event : PacketIn} {port : Nat} :
    Taught datapath inPort dst src (history ++ [event]) port ↔
      Teaches history event datapath inPort dst src port ∨
        (Taught datapath inPort dst src history port ∧
          ∀ other, ¬ Teaches history event datapath inPort dst src other) := by
  constructor
  · intro taught
    generalize extended : history ++ [event] = after at taught
    cases taught with
    | now teaches =>
        obtain ⟨rfl, same⟩ := List.append_inj' extended rfl
        cases same
        exact .inl teaches
    | since taught silent =>
        obtain ⟨rfl, same⟩ := List.append_inj' extended rfl
        cases same
        exact .inr ⟨taught, silent⟩
  · rintro (teaches | ⟨taught, silent⟩)
    · exact .now teaches
    · exact .since taught silent

/-- The packet-in behind a flow, and what came before and after it. -/
theorem Taught.split {datapath inPort : Nat} {dst src : String} {history : List PacketIn}
    {port : Nat} (taught : Taught datapath inPort dst src history port) :
    ∃ earlier event later, history = earlier ++ event :: later ∧
      Teaches earlier event datapath inPort dst src port ∧
        ∀ between repeated rest other, later = between ++ repeated :: rest →
          ¬ Teaches (earlier ++ event :: between) repeated datapath inPort dst src other := by
  induction taught with
  | @now history event port teaches =>
      refine ⟨history, event, [], by simp, teaches, ?_⟩
      intro between repeated rest other split
      simp at split
  | @since history latest port taught silent inductionHypothesis =>
      obtain ⟨earlier, event, later, split, teaches, last⟩ := inductionHypothesis
      refine ⟨earlier, event, later ++ [latest], by simp [split], teaches, ?_⟩
      intro between repeated rest other split'
      -- The repetition is the latest packet-in, which is silent, or comes before it.
      rcases List.eq_nil_or_concat rest with rfl | ⟨front, final, rfl⟩
      · obtain ⟨rfl, same⟩ := List.append_inj' split' rfl
        cases same
        rw [← split]
        exact silent other
      · have reordered : later ++ [latest] = (between ++ repeated :: front) ++ [final] := by
          simpa using split'
        exact last between repeated front other (List.append_inj' reordered rfl).1

variable {K : Type}

/-- The ports are the latest ones, and the learned flows are those that packet-ins taught. -/
structure Learned (history : List PacketIn) (app : DDoSSimulationAPP K) : Prop where
  ports : ∀ datapath mac,
    (app.learnedPorts datapath).get? mac = latestPort history datapath mac
  flows : ∀ datapath priority inPort dst src actions,
    (app.flows datapath).get? (priority, learnedMatch inPort dst src) = some actions ↔
      priority = 0 ∧ ∃ port, actions = outputTo port ∧ Taught datapath inPort dst src history port

/-- Fixed rules teach nothing and take no slot of a learned flow. -/
theorem Learned.of_sends {history : List PacketIn} {missed : Nat → Prop}
    {before after : DDoSSimulationAPP K} (learned : Learned history before)
    (sends : Sends missed before after) : Learned history after := by
  constructor
  · intro datapath mac
    rw [learnedPorts, sends.macToPort]
    exact learned.ports datapath mac
  · intro datapath priority inPort dst src actions
    rcases sends.get?_flows datapath (priority, learnedMatch inPort dst src) with
      kept | ⟨added, _, fixed⟩
    · rw [kept]
      exact learned.flows datapath priority inPort dst src actions
    · exact absurd fixed FixedRule.spares_learned

/-- A packet-in which shows nothing is one more in the history. -/
theorem Learned.ignore {history : List PacketIn} {app : DDoSSimulationAPP K}
    (learned : Learned history app) {event : PacketIn}
    (hidden : ∀ dst src ethertype, ethernetHeader event = .ok (dst, src, ethertype) →
      ethertype = ethTypeLldp) :
    Learned (history ++ [event]) app := by
  constructor
  · intro datapath mac
    have unseen : sighting datapath mac event = none := by
      unfold sighting
      split
      · next dst src ethertype parses => simp [hidden dst src ethertype parses]
      · rfl
    rw [latestPort_append, latestPort_singleton, unseen, Option.none_or]
    exact learned.ports datapath mac
  · intro datapath priority inPort dst src actions
    have silent : ∀ port, ¬ Teaches history event datapath inPort dst src port := by
      rintro port ⟨_, ⟨ethertype, parses, ordinary⟩, _, _⟩
      exact ordinary (hidden dst src ethertype parses)
    rw [learned.flows]
    simp [Taught.append_singleton_iff, silent]

/-- The ports known on a datapath after a source was learned. -/
theorem get?_learnedPorts_learn (event : PacketIn) (src : String) (app : DDoSSimulationAPP K)
    (datapath : Nat) (mac : String) :
    ((learn event src app).learnedPorts datapath).get? mac =
      if event.datapath = datapath ∧ src = mac then some event.inPort
      else (app.learnedPorts datapath).get? mac := by
  unfold learn
  rw [learnedPorts, Dict.get?_set]
  by_cases same : event.datapath = datapath
  · subst datapath
    by_cases sameMac : src = mac <;> simp [sameMac]
  · have apart : formatDpid event.datapath ≠ formatDpid datapath := fun equal =>
      same (formatDpid_injective equal)
    simp [same, apart, learnedPorts]

/-- What forwarding does to a table: the flow to a known port is added on its datapath. -/
theorem applyAll_forwardMessages (event : PacketIn) (dst src : String) (outPort datapath : Nat)
    (table : SwitchTable) :
    applyAll datapath table (forwardMessages event dst src outPort) =
      if event.datapath = datapath ∧ outPort ≠ ofppFlood then
        table.add 0 (learnedMatch event.inPort dst src) (outputTo outPort)
      else table := by
  have ignored : ∀ current : SwitchTable, applyAll datapath current
      [(event.datapath, packetOut event (outputTo outPort))] = current := by
    intro current
    simp [packetOut, Message.apply]
  unfold forwardMessages
  by_cases flooded : outPort = ofppFlood
  · simp [flooded, packetOut, Message.apply]
  · rw [if_pos flooded, applyAll_cons]
    by_cases buffered : event.bufferId = ofpNoBuffer <;>
      by_cases same : event.datapath = datapath <;>
        simp [buffered, same, flooded, flowAddition, Message.apply, packetOut]

/-- The flow table of a switch after a packet was forwarded. -/
theorem flows_forward (event : PacketIn) (dst src : String) (app : DDoSSimulationAPP K)
    (datapath : Nat) :
    (forward event dst src app).flows datapath =
      let outPort := ((app.learnedPorts event.datapath).get? dst).getD ofppFlood
      if event.datapath = datapath ∧ outPort ≠ ofppFlood then
        (app.flows datapath).add 0 (learnedMatch event.inPort dst src) (outputTo outPort)
      else app.flows datapath := by
  rw [forward_eq]
  simp only [DDoSSimulationAPP.flows, tableAfter_append, applyAll_forwardMessages]

theorem learnedMatch_inj {inPort otherPort : Nat} {dst src otherDst otherSrc : String} :
    learnedMatch inPort dst src = learnedMatch otherPort otherDst otherSrc ↔
      inPort = otherPort ∧ dst = otherDst ∧ src = otherSrc := by
  simp [learnedMatch]

/-- What a parsed packet-in teaches. -/
theorem teaches_iff {history : List PacketIn} {event : PacketIn} {dst src : String}
    {ethertype : Nat} (parses : ethernetHeader event = .ok (dst, src, ethertype))
    (ordinary : ethertype ≠ ethTypeLldp) {datapath inPort : Nat} {otherDst otherSrc : String}
    {port : Nat} :
    Teaches history event datapath inPort otherDst otherSrc port ↔
      (event.datapath = datapath ∧ event.inPort = inPort ∧ dst = otherDst ∧ src = otherSrc) ∧
        latestPort (history ++ [event]) event.datapath dst = some port ∧ port ≠ ofppFlood := by
  constructor
  · rintro ⟨⟨rfl, rfl⟩, ⟨otherType, parses', _⟩, known, forwards⟩
    cases parses.symm.trans parses'
    exact ⟨⟨rfl, rfl, rfl, rfl⟩, known, forwards⟩
  · rintro ⟨⟨rfl, rfl, rfl, rfl⟩, known, forwards⟩
    exact ⟨⟨rfl, rfl⟩, ⟨ethertype, parses, ordinary⟩, known, forwards⟩

/-- A parsed packet-in shows the port of its source. -/
theorem latestPort_parsed (history : List PacketIn) {event : PacketIn} {dst src : String}
    {ethertype : Nat} (parses : ethernetHeader event = .ok (dst, src, ethertype))
    (ordinary : ethertype ≠ ethTypeLldp) (datapath : Nat) (mac : String) :
    latestPort (history ++ [event]) datapath mac =
      if event.datapath = datapath ∧ src = mac then some event.inPort
      else latestPort history datapath mac := by
  rw [latestPort_append, latestPort_singleton]
  by_cases seen : event.datapath = datapath ∧ src = mac
  · simp [sighting, parses, ordinary, seen]
  · rw [if_neg seen]
    have hidden : sighting datapath mac event = none := by
      simp only [sighting, parses]
      rw [if_neg]
      rintro ⟨sameDatapath, _, sameMac⟩
      exact seen ⟨sameDatapath, sameMac⟩
    rw [hidden, Option.none_or]

/-- The learned flows after the flow to a known port was added. -/
theorem get?_add_learned {table : SwitchTable} {history : List PacketIn} {datapath : Nat}
    (flows : ∀ priority inPort dst src actions,
      table.get? (priority, learnedMatch inPort dst src) = some actions ↔
        priority = 0 ∧ ∃ port, actions = outputTo port ∧
          Taught datapath inPort dst src history port)
    (inPort : Nat) (dst src : String) (port : Nat) (priority otherPort : Nat)
    (otherDst otherSrc : String) (actions : List OFPAction) :
    (table.add 0 (learnedMatch inPort dst src) (outputTo port)).get?
        (priority, learnedMatch otherPort otherDst otherSrc) = some actions ↔
      priority = 0 ∧
        if inPort = otherPort ∧ dst = otherDst ∧ src = otherSrc then actions = outputTo port
        else ∃ port, actions = outputTo port ∧
          Taught datapath otherPort otherDst otherSrc history port := by
  simp only [FlowTable.add, Dict.get?_set, Prod.mk.injEq, learnedMatch_inj]
  split
  · next same =>
      obtain ⟨rfl, rfl, rfl, rfl⟩ := same
      simp [eq_comm]
  · next apart =>
      rw [flows]
      refine and_congr_right fun lowest => ?_
      subst lowest
      rw [if_neg (by simpa using apart)]

/-- Learning from a parsed packet and forwarding it. -/
theorem Learned.switch {history : List PacketIn} {app : DDoSSimulationAPP K}
    (learned : Learned history app) {event : PacketIn} {header : String × String × Nat}
    (parses : ethernetHeader event = .ok header) :
    Learned (history ++ [event]) (switched event header app) := by
  obtain ⟨dst, src, ethertype⟩ := header
  unfold switched
  split
  · next discovery =>
      refine learned.ignore fun otherDst otherSrc otherType parses' => ?_
      cases parses.symm.trans parses'
      exact discovery
  · next ordinary =>
      have ordinary : ethertype ≠ ethTypeLldp := ordinary
      have shows : ∀ datapath mac, ((learn event src app).learnedPorts datapath).get? mac =
          latestPort (history ++ [event]) datapath mac := by
        intro datapath mac
        rw [get?_learnedPorts_learn, latestPort_parsed history parses ordinary, learned.ports]
      constructor
      · rw [forward_eq]
        exact shows
      · intro datapath priority inPort otherDst otherSrc actions
        have before : (learn event src app).flows datapath = app.flows datapath := rfl
        simp only [flows_forward, shows, before, Taught.append_singleton_iff,
          teaches_iff parses ordinary]
        by_cases forwards : event.datapath = datapath ∧
            (latestPort (history ++ [event]) event.datapath dst).getD ofppFlood ≠ ofppFlood
        · rw [if_pos forwards]
          obtain ⟨here, forwards⟩ := forwards
          cases known : latestPort (history ++ [event]) event.datapath dst with
          | none => simp [known] at forwards
          | some port =>
              have forwards : port ≠ ofppFlood := by simpa [known] using forwards
              rw [Option.getD_some, get?_add_learned (learned.flows datapath)]
              by_cases same : event.inPort = inPort ∧ dst = otherDst ∧ src = otherSrc
              · simp [same, here, forwards]
              · simp [same]
        · rw [if_neg forwards, learned.flows]
          have silent : ∀ port, ¬ ((event.datapath = datapath ∧ event.inPort = inPort ∧
              dst = otherDst ∧ src = otherSrc) ∧
                latestPort (history ++ [event]) event.datapath dst = some port ∧
                  port ≠ ofppFlood) := by
            rintro port ⟨⟨here, _⟩, known, unflooded⟩
            exact forwards ⟨here, by simpa [known] using unflooded⟩
          simp only [silent, false_or, not_false_eq_true, implies_true, and_true]

theorem learned_init : Learned [] (init : DDoSSimulationAPP K) := by
  constructor
  · intro datapath mac
    simp [init, learnedPorts, latestPort]
  · intro datapath priority inPort dst src actions
    have untaught : ∀ port, ¬ Taught datapath inPort dst src [] port := by
      intro port taught
      generalize empty : ([] : List PacketIn) = history at taught
      cases taught <;> simp at empty
    simp [DDoSSimulationAPP.flows, init, tableAfter, untaught]

/-- A packet-in is one more in the history, however else it is handled. -/
theorem Learned.switches {history : List PacketIn} {event : PacketIn}
    {before after : DDoSSimulationAPP K} (learned : Learned history before)
    (switches : Switches event before after) : Learned (history ++ [event]) after := by
  unfold Switches at switches
  cases parses : ethernetHeader event with
  | ok header =>
      simp only [parses] at switches
      exact (learned.switch parses).of_sends switches
  | error error =>
      simp only [parses] at switches
      exact (learned.ignore (by simp [parses])).of_sends switches

/-- The packet-ins among the events. -/
def packetIns (events : List Event) : List PacketIn :=
  events.filterMap fun
    | .packetIn message => some message
    | _ => none

@[simp] theorem packetIns_append_packetIn (earlier : List Event) (message : PacketIn) :
    packetIns (earlier ++ [.packetIn message]) = packetIns earlier ++ [message] := by
  simp [packetIns]

theorem packetIns_append_other (earlier : List Event) {event : Event}
    (other : ∀ message, event ≠ .packetIn message) :
    packetIns (earlier ++ [event]) = packetIns earlier := by
  cases event with
  | packetIn message => exact absurd rfl (other message)
  | _ => simp [packetIns]

variable [EntropyArithmetic K]

/-- What is learned along a run is what its packet-ins teach. -/
theorem run_learned (events : List Event) :
    Learned (packetIns events) (run step (init : DDoSSimulationAPP K) events) := by
  induction events using List.reverseRecOn with
  | nil => exact learned_init
  | append_singleton earlier event inductionHypothesis =>
      rw [run_append, run_cons, run_nil]
      by_cases packet : ∃ message, event = .packetIn message
      · obtain ⟨message, rfl⟩ := packet
        rw [packetIns_append_packetIn]
        exact inductionHypothesis.switches (packetIn_switches message _)
      · have other : ∀ message, event ≠ .packetIn message := fun message same =>
          packet ⟨message, same⟩
        rw [packetIns_append_other earlier other]
        exact inductionHypothesis.of_sends (step_sends _ event other)

/-- The ports are the latest ones at all times. A learned flow leads to the port its
destination was known on when the flow was installed, last in the case of a
repetition, and that is the port known now unless the destination was seen on
another port since. -/
theorem flows_agree_until_moved (events : List Event) :
    let app := run step (init : DDoSSimulationAPP K) events
    (∀ datapath mac,
      (app.learnedPorts datapath).get? mac = latestPort (packetIns events) datapath mac) ∧
    ∀ datapath priority inPort dst src actions,
      (app.flows datapath).get? (priority, learnedMatch inPort dst src) = some actions →
        ∃ earlier event later port, packetIns events = earlier ++ event :: later ∧
          Teaches earlier event datapath inPort dst src port ∧
          (∀ between repeated rest other, later = between ++ repeated :: rest →
            ¬ Teaches (earlier ++ event :: between) repeated datapath inPort dst src other) ∧
          actions = outputTo port ∧
          ((app.learnedPorts datapath).get? dst = some port ∨
            ∃ moved ∈ later, ∃ other, sighting datapath dst moved = some other ∧ other ≠ port) := by
  intro app
  have learned : Learned (packetIns events) app := run_learned events
  refine ⟨learned.ports, ?_⟩
  intro datapath priority inPort dst src actions found
  obtain ⟨_, port, rfl, taught⟩ := (learned.flows ..).mp found
  obtain ⟨earlier, event, later, split, teaches, last⟩ := taught.split
  refine ⟨earlier, event, later, port, split, teaches, last, rfl, ?_⟩
  rw [learned.ports, split, List.append_cons]
  exact latestPort_or_moved teaches.known later

/-- A frame between two hosts of switch 1. -/
def hostFrame (src dst : String) (inPort : Nat) : PacketIn where
  datapath := 1
  inPort := inPort
  bufferId := ofpNoBuffer
  data := []
  protocols := .ok [.ethernet dst src ethTypeIp, .other]

/-- The answer to a host on port 1 installs a flow to it; then the host moves to port 3. -/
def hostMoves : List Event :=
  [.packetIn (hostFrame "a" "b" 1), .packetIn (hostFrame "b" "a" 2),
    .packetIn (hostFrame "a" "b" 3)]

/-- The flow still leads to port 1, where its destination is not known any more. -/
theorem moved_host_keeps_old_flow :
    ¬ ∀ (events : List Event) (datapath priority inPort : Nat) (dst src : String) (port : Nat),
      ((run step (init : DDoSSimulationAPP Rat) events).flows datapath).get?
          (priority, learnedMatch inPort dst src) = some (outputTo port) →
        ((run step (init : DDoSSimulationAPP Rat) events).learnedPorts datapath).get? dst =
          some port := by
  intro agree
  have stale := agree hostMoves 1 0 2 "a" "b" 1 (by decide +kernel)
  have moved : ((run step (init : DDoSSimulationAPP Rat) hostMoves).learnedPorts 1).get? "a" =
      some 3 := by
    decide +kernel
  simp [moved] at stale

end DDoSSimulationAPP
end NetworkAdapter
