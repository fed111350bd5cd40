import NetworkAdapter.Network.Delivery

/-!
# Frames arrive exactly once

While nothing is banned, and once every switch hands over what its entries do
not match, a switch does with a frame one of three things: it hands it over, it
sends it on towards its destination, or the controller has it flooded. For the
destination, and for everyone if the destination is nobody's address, all three
are worth a flood. The balance of such a frame is therefore kept exactly, and
with nothing left under way it is what has arrived.
-/

namespace NetworkAdapter.Fabric

open DDoSSimulationAPP LoopFree Weights Execution

variable {K : Type} {cabling : Cabling} {format : FrameFormat} {target : Device}
  {data : List UInt8} {acyclic : cabling.graph.IsAcyclic}

/-- The switch has cables. -/
def Connected (cabling : Cabling) (datapath : Nat) : Prop :=
  cabling.neighbours (.switch datapath) ≠ []

/-- The frame is for the device: it is addressed to it, or to none on the network. -/
def Destined (cabling : Cabling) (format : FrameFormat) (target : Device) (data : List UInt8) :
    Prop :=
  target = .host (format.fields data).ethDst ∨
    cabling.neighbours (.host (format.fields data).ethDst) = []

/-- No port leads towards a host that is not there. -/
theorem Towards.connected {datapath : Nat} {address : String} {port : Nat}
    (towards : Towards cabling datapath address port) :
    cabling.neighbours (.host address) ≠ [] := by
  obtain ⟨next, _, away⟩ := towards
  obtain ⟨path, _, _⟩ := away.reached
  cases path with
  | nil => exact List.ne_nil_of_mem away.adjacent
  | cons linked _ => exact List.ne_nil_of_mem linked

/-- Handing a frame over is worth a flood. -/
theorem weight_toController (datapath inPort : Nat) (normal : List Device) :
    actionsWeight cabling target datapath inPort normal toController =
      flooded cabling target datapath inPort := by
  simp [actionsWeight, actionWeight, toController]

/-- So is flooding it, -/
theorem weight_flood (datapath inPort : Nat) :
    actionsWeight cabling target datapath inPort [] (outputTo ofppFlood) =
      flooded cabling target datapath inPort := by
  simp [actionsWeight, actionWeight, outputTo, flooded, ofppFlood, ofppController]

/-- and, for those it is destined to, sending it on. -/
theorem weight_towards (acyclic : cabling.graph.IsAcyclic)
    (destined : Destined cabling format target data) {datapath port : Nat}
    (towards : Towards cabling datapath (format.fields data).ethDst port) (inPort : Nat)
    (normal : List Device) :
    actionsWeight cabling target datapath inPort normal (outputTo port) =
      flooded cabling target datapath inPort := by
  rcases destined with rfl | nowhere
  · simpa [actionsWeight, actionWeight, outputTo, towards.ordinary] using
      spread_towards acyclic normal towards
  · exact absurd nowhere towards.connected

/-- A working switch gives a frame what a flood would. -/
theorem handler_weight (acyclic : cabling.graph.IsAcyclic)
    (destined : Destined cabling format target data) {datapath : Nat} {table : SwitchTable}
    (conforms : FlowTable.Conforms (SwitchRule MissRule (outward format acyclic) datapath) table)
    (miss : table.get? (0, {}) = some toController) (inPort entry : Nat) (normal : List Device) :
    actionsWeight cabling target datapath inPort normal
        (handler table (format.received inPort data) entry) =
      flooded cabling target datapath inPort := by
  obtain handed | ⟨port, sent, towards⟩ :=
    handler_working conforms miss (format.received inPort data) entry
  · rw [handed, weight_toController]
  · rw [sent, weight_towards acyclic destined towards]

/-- A frame that arrives is made up for exactly. -/
theorem arrive_eq (acyclic : cabling.graph.IsAcyclic)
    (destined : Destined cabling format target data) {fabric : Fabric K}
    (working : Working (outward format acyclic) (Connected cabling) fabric) {index : Nat}
    {transit : Transit} (found : fabric.wires[index]? = some transit) (entry : Nat)
    (normal : List Device) :
    balance cabling target data (arrive cabling format transit entry normal
        { fabric with wires := fabric.wires.eraseIdx index }) =
      balance cabling target data fabric := by
  have away := working.disciplined.wires _ (List.mem_of_getElem? found)
  obtain ⟨source, device, carried⟩ := transit
  cases device with
  | host address => exact balance_arrive_host acyclic found away.adjacent.symm
  | switch datapath =>
      have linked : source ∈ cabling.neighbours (.switch datapath) := away.adjacent.symm
      have account := balance_arrive_switch format target data acyclic found linked normal
        (handler (fabric.tables datapath)
          (format.received (cabling.port datapath source) carried) entry)
      by_cases same : carried = data
      · subst same
        have weight := handler_weight acyclic destined (working.disciplined.tables datapath)
          (working.ready datapath (List.ne_nil_of_mem linked)) (cabling.port datapath source) entry
          normal
        rw [if_pos rfl, if_pos rfl, weight] at account
        exact Nat.add_right_cancel account
      · simpa [arrive, same] using account

variable [EntropyArithmetic K]

omit [EntropyArithmetic K] in
/-- What is relayed is worth a flood to those it is destined to. -/
theorem relay_weight (acyclic : cabling.graph.IsAcyclic) (readable : Readable format data)
    (destined : Destined cabling format target data) {fabric : Fabric K}
    (oriented : Oriented MissRule format acyclic fabric) {message : PacketIn}
    (reported : Reported (outward format acyclic) message) (carries : message.data = data) :
    ∃ messages, (relayed message fabric.app).sent = fabric.app.sent ++ messages ∧
      (messages.map (commandWeight cabling target data)).sum =
        flooded cabling target message.datapath message.inPort := by
  subst carries
  have same := reported.relayed readable fabric.app
  refine ⟨forwardMessages message (format.fields message.data).ethDst
    (format.fields message.data).ethSrc (relayPort message (format.fields message.data).ethDst
      (format.fields message.data).ethSrc fabric.app), ?_, ?_⟩
  · rw [same, forward_eq]
    rfl
  · rw [weight_forwardMessages reported.unbuffered, if_pos rfl]
    have ports := (oriented.relay reported).1 message.datapath (format.fields message.data).ethDst
    rw [same, forward_eq] at ports
    unfold relayPort
    cases known : ((learn message (format.fields message.data).ethSrc fabric.app).learnedPorts
        message.datapath).get? (format.fields message.data).ethDst with
    | none => exact weight_flood message.datapath message.inPort
    | some port => exact weight_towards acyclic destined (ports port known) message.inPort []

theorem control_eq (acyclic : cabling.graph.IsAcyclic) (readable : Readable format data)
    (destined : Destined cabling format target data) {fabric : Fabric K}
    (working : Working (outward format acyclic) (Connected cabling) fabric) {index : Nat}
    {message : PacketIn} (found : fabric.packetIns[index]? = some message) :
    balance cabling target data (serve (.packetIn message)
        { fabric with packetIns := fabric.packetIns.eraseIdx index }) =
      balance cabling target data fabric := by
  have reported := working.disciplined.packetIns message (List.mem_of_getElem? found)
  have erased := balance_erasePacketIn cabling target data found
  have taken : ∃ messages, (relayed message fabric.app).sent = fabric.app.sent ++ messages ∧
      (messages.map (commandWeight cabling target data)).sum =
        packetInWeight cabling target data message := by
    unfold packetInWeight
    split
    · next carries =>
        exact relay_weight acyclic readable destined working.disciplined reported carries
    · next other =>
        obtain same | ⟨dst, src, _, _, same⟩ := relayed_cases message fabric.app
        · exact ⟨[], by simp [same], rfl⟩
        · refine ⟨_, by rw [same, forward_eq]; rfl, ?_⟩
          rw [weight_forwardMessages reported.unbuffered, if_neg other]
  obtain ⟨messages, sent, weight⟩ := taken
  have served := balance_serve cabling target data
    { fabric with packetIns := fabric.packetIns.eraseIdx index } messages sent
    (packetIn_installs_of_rulesOff working.rulesOff message)
  rw [served, erased, weight]

/-- The step lemma: the balance grows by what is injected, and by nothing else. -/
theorem step_eq (acyclic : cabling.graph.IsAcyclic) (readable : Readable format data)
    (destined : Destined cabling format target data) {fabric : Fabric K}
    (working : Working (outward format acyclic) (Connected cabling) fabric) (event : FabricEvent)
    (reaches : ∀ address, event = .inject address data → .host address ≠ target →
      injectedWeight cabling target address = 1) :
    balance cabling target data (step cabling format fabric event) =
      balance cabling target data fabric + injected target data event := by
  cases event with
  | inject address carried =>
      rw [balance_inject]
      by_cases same : carried = data
      · subst same
        by_cases back : .host address = target
        · have few := injectedWeight_le acyclic target address
          rw [if_pos back] at few
          simp [injected, back, Nat.le_zero.mp few]
        · simp [injected, back, reaches address rfl back]
      · simp [injected, same]
  | arrive index entry normal =>
      cases found : fabric.wires[index]? with
      | none => simp [step, found, injected]
      | some transit =>
          simpa [step, found, injected] using arrive_eq acyclic destined working found entry normal
  | control index =>
      cases found : fabric.packetIns[index]? with
      | none => simp [step, found, injected]
      | some message =>
          simpa [step, found, injected] using control_eq acyclic readable destined working found
  | execute index normal =>
      cases found : fabric.commands[index]? with
      | none => simp [step, found, injected]
      | some command =>
          simpa [step, found, injected] using balance_execute found
            (working.disciplined.commands _ (List.mem_of_getElem? found)) normal
  | request event => exact balance_request fabric event

/-- All rules are off and the network is directed before the switches are in operation, too. -/
theorem run_oriented (acyclic : cabling.graph.IsAcyclic) {events : List FabricEvent}
    (allowed : ∀ event ∈ events, Honest format event ∧ Unbanned event) :
    let fabric := run (step cabling format) (init : Fabric K) events
    Oriented MissRule format acyclic fabric ∧ RulesOff fabric.app := by
  refine run_invariant_of_mem (fun fabric : Fabric K =>
    Oriented MissRule format acyclic fabric ∧ RulesOff fabric.app) ?_
    ⟨disciplined_init, rulesOff_init⟩
  rintro fabric event member ⟨oriented, rulesOff⟩
  obtain ⟨honest, unbanned⟩ := allowed event member
  exact ⟨oriented.step (honest.abides acyclic) (within_miss rulesOff event),
    rulesOff_step rulesOff unbanned⟩

/-- The run lemma. -/
theorem run_eq (acyclic : cabling.graph.IsAcyclic) (readable : Readable format data)
    (destined : Destined cabling format target data)
    (reachable : cabling.graph.Reachable (origin format data) target) {fabric : Fabric K}
    (working : Working (outward format acyclic) (Connected cabling) fabric)
    {events : List FabricEvent} (allowed : ∀ event ∈ events, Honest format event ∧ Unbanned event) :
    balance cabling target data (run (step cabling format) fabric events) =
      balance cabling target data fabric + (events.map (injected target data)).sum := by
  induction events generalizing fabric with
  | nil => rfl
  | cons event rest inductionHypothesis =>
      obtain ⟨honest, unbanned⟩ := allowed event List.mem_cons_self
      have reaches : ∀ address, event = .inject address data → .host address ≠ target →
          injectedWeight cabling target address = 1 := by
        classical
        rintro address rfl apart
        have own : (format.fields data).ethSrc = address := honest
        rw [origin, own] at reachable
        rw [injectedWeight_eq acyclic, if_pos (exists_away reachable.symm apart)]
      have first := step_eq acyclic readable destined working event reaches
      have later := inductionHypothesis (working.step (honest.abides acyclic) unbanned)
        fun other member => allowed other (List.mem_cons_of_mem _ member)
      rw [run_cons, later, first, List.map_cons, List.sum_cons, Nat.add_assoc]

omit [EntropyArithmetic K] in
theorem Quiescent.pending {fabric : Fabric K} (atRest : Quiescent fabric) :
    Fabric.pending cabling target data fabric = 0 := by
  obtain ⟨wires, packetIns, commands⟩ := atRest
  simp [Fabric.pending, wires, packetIns, commands]

/-- In a network without cycles whose switches are in operation, and while nothing is banned, a
device that a frame is destined to has received it exactly as often as it was injected once
nothing is under way any more, whatever the controller had learned and in whatever order things
happened. -/
theorem delivered_exactly_once (acyclic : cabling.graph.IsAcyclic) {boot events : List FabricEvent}
    (allowed : ∀ event ∈ boot ++ events, Honest format event ∧ Unbanned event)
    (ready : Ready (Connected cabling) (run (step cabling format) (init : Fabric K) boot))
    (atRest : Quiescent (run (step cabling format) (init : Fabric K) (boot ++ events)))
    (fresh : data ∉ injections boot) (readable : Readable format data)
    (destined : Destined cabling format target data) (apart : target ≠ origin format data)
    (reachable : cabling.graph.Reachable (origin format data) target) :
    (run (step cabling format) (init : Fabric K) (boot ++ events)).arrivals.count (target, data) =
      (injections events).count data := by
  have before : ∀ event ∈ boot, Honest format event ∧ Unbanned event :=
    fun event member => allowed event (List.mem_append_left _ member)
  have after : ∀ event ∈ events, Honest format event ∧ Unbanned event :=
    fun event member => allowed event (List.mem_append_right _ member)
  obtain ⟨oriented, rulesOff⟩ := run_oriented (K := K) acyclic before
  have started : balance cabling target data
      (run (step cabling format) (init : Fabric K) boot) = 0 := by
    have bound := (run_le target data acyclic (disciplined_init (K := K))
      fun event member => (before event member).1).2
    have start : balance cabling target data (init : Fabric K) = 0 := by
      simp [balance, Fabric.pending, init]
    rw [sum_injected fun event member => (before event member).1, start, if_neg apart,
      List.count_eq_zero.mpr fresh] at bound
    exact Nat.le_zero.mp bound
  have ran := run_eq acyclic readable destined reachable ⟨oriented, rulesOff, ready⟩ after
  rw [sum_injected fun event member => (after event member).1, started, if_neg apart,
    Nat.zero_add, ← run_append] at ran
  rw [← ran, balance, atRest.pending, Nat.add_zero]

theorem twoHosts_ready :
    Ready (Connected twoHosts) (run (step twoHosts oneFrame) (init : Fabric Rat) handshake) := by
  intro datapath connected
  obtain ⟨next, linked⟩ := List.exists_mem_of_ne_nil _ connected
  have listed := exists_entry linked
  simp only [List.mem_cons, Prod.mk.injEq, Device.switch.injEq, reduceCtorEq, false_and, or_false,
    List.not_mem_nil] at listed
  obtain ⟨rfl, _⟩ := listed
  decide +kernel

/-- The host the frame is for receives it. -/
theorem two_hosts_delivered :
    (run (step twoHosts oneFrame) (init : Fabric Rat) (handshake ++ relay)).arrivals.count
      (.host "b", [0]) = (injections relay).count [0] :=
  have first : twoHosts.graph.Adj (origin oneFrame [0]) (.switch 1) :=
    (by decide : Device.switch 1 ∈ twoHosts.neighbours (.host "a"))
  have second : twoHosts.graph.Adj (.switch 1) (.host "b") :=
    (by decide : Device.host "b" ∈ twoHosts.neighbours (.switch 1))
  delivered_exactly_once twoHosts_acyclic
    (by simp [handshake, relay, Honest, Unbanned, oneFrame]) twoHosts_ready ⟨rfl, rfl, rfl⟩
    (by decide) ⟨_, _, _, _, rfl, rfl, by decide⟩ (.inl rfl) (by decide)
    (first.reachable.trans second.reachable)

end NetworkAdapter.Fabric
