import NetworkAdapter.Network.Balance
import NetworkAdapter.Network.Operation

/-!
# What is delivered

In a network without cycles no device receives a frame more often than it was
injected, and its source never receives it: the balance of a frame does not grow
but by injections, whatever is banned, defended or lost meanwhile. All the frames
that ever reach a device are therefore at most as many as were injected, for each
device: there is no broadcast storm.
-/

namespace NetworkAdapter.Fabric

open DDoSSimulationAPP LoopFree Weights Execution

variable {K : Type} {cabling : Cabling} {format : FrameFormat}
  {acyclic : cabling.graph.IsAcyclic}
  {rule : Nat → OFPMatch → List OFPAction → Prop} {target : Device} {data : List UInt8}

/-- The copies of an injected frame that are sent towards the target. -/
noncomputable def injectedWeight (cabling : Cabling) (target : Device) (address : String) : Nat :=
  ((cabling.neighbours (.host address)).map
    fun next => heading cabling target (.host address) next).sum

theorem balance_inject [EntropyArithmetic K] (address : String) (carried : List UInt8)
    (fabric : Fabric K) :
    balance cabling target data (step cabling format fabric (.inject address carried)) =
      balance cabling target data fabric +
        if carried = data then injectedWeight cabling target address else 0 := by
  unfold balance pending injectedWeight
  by_cases same : carried = data
  · simp [step, same, transitWeight, Function.comp_def]
    omega
  · simp [step, same, transitWeight, Function.comp_def]

/-- Taking a frame off a link takes its weight off the balance. -/
theorem balance_eraseWire (cabling : Cabling) (target : Device) (data : List UInt8)
    {fabric : Fabric K} {index : Nat} {transit : Transit}
    (found : fabric.wires[index]? = some transit) :
    balance cabling target data fabric =
      balance cabling target data { fabric with wires := fabric.wires.eraseIdx index } +
        transitWeight cabling target data transit := by
  have sum := sum_eraseIdx (transitWeight cabling target data) found
  simp only [balance, pending, sum]
  omega

theorem balance_erasePacketIn (cabling : Cabling) (target : Device) (data : List UInt8)
    {fabric : Fabric K} {index : Nat} {message : PacketIn}
    (found : fabric.packetIns[index]? = some message) :
    balance cabling target data fabric =
      balance cabling target data { fabric with packetIns := fabric.packetIns.eraseIdx index } +
        packetInWeight cabling target data message := by
  have sum := sum_eraseIdx (packetInWeight cabling target data) found
  simp only [balance, pending, sum]
  omega

theorem balance_eraseCommand (cabling : Cabling) (target : Device) (data : List UInt8)
    {fabric : Fabric K} {index : Nat} {entry : Nat × Message}
    (found : fabric.commands[index]? = some entry) :
    balance cabling target data fabric =
      balance cabling target data { fabric with commands := fabric.commands.eraseIdx index } +
        commandWeight cabling target data entry := by
  have sum := sum_eraseIdx (commandWeight cabling target data) found
  simp only [balance, pending, sum]
  omega

theorem balance_arrival (cabling : Cabling) (target : Device) (data : List UInt8)
    (fabric : Fabric K) (device : Device) (carried : List UInt8) :
    balance cabling target data
        { fabric with arrivals := fabric.arrivals ++ [(device, carried)] } =
      balance cabling target data fabric + if carried = data ∧ device = target then 1 else 0 := by
  have counted : (fabric.arrivals ++ [(device, carried)]).count (target, data) =
      fabric.arrivals.count (target, data) + if carried = data ∧ device = target then 1 else 0 := by
    rw [List.count_append, List.count_singleton]
    by_cases same : carried = data ∧ device = target
    · simp [same]
    · rw [if_neg same, if_neg]
      rintro equal
      have equal : (device, carried) = (target, data) := by simpa using equal
      exact same ⟨congrArg Prod.snd equal, congrArg Prod.fst equal⟩
  simp only [balance, pending, counted]
  omega

/-- A frame is handed from a link to a switch, which applies some actions to it. -/
theorem balance_arrive_switch (format : FrameFormat) (target : Device) (data : List UInt8)
    (acyclic : cabling.graph.IsAcyclic) {fabric : Fabric K} {index : Nat} {source : Device}
    {datapath : Nat} {carried : List UInt8}
    (found : fabric.wires[index]? = some ⟨source, .switch datapath, carried⟩)
    (linked : source ∈ cabling.neighbours (.switch datapath)) (normal : List Device)
    (actions : List OFPAction) :
    balance cabling target data (apply cabling format datapath (cabling.port datapath source)
        carried normal actions
          { fabric with
            wires := fabric.wires.eraseIdx index
            arrivals := fabric.arrivals ++ [(.switch datapath, carried)] }) +
        (if carried = data then
          flooded cabling target datapath (cabling.port datapath source) else 0) =
      balance cabling target data fabric +
        if carried = data then
          actionsWeight cabling target datapath (cabling.port datapath source) normal actions
        else 0 := by
  have arrived := balance_arrival cabling target data
    { fabric with wires := fabric.wires.eraseIdx index } (.switch datapath) carried
  have erased := balance_eraseWire cabling target data found
  have flood := flooded_eq acyclic target linked
  rw [balance_apply, arrived, erased]
  unfold transitWeight
  by_cases same : carried = data
  · simp only [same, true_and, if_true, flood]
    omega
  · simp [same]

/-- The frame reaches a host, which lies in the direction of no other host. -/
theorem balance_arrive_host (acyclic : cabling.graph.IsAcyclic) {fabric : Fabric K}
    {index : Nat} {source : Device} {address : String} {carried : List UInt8}
    (found : fabric.wires[index]? = some ⟨source, .host address, carried⟩)
    (linked : source ∈ cabling.neighbours (.host address)) :
    balance cabling target data
        { fabric with
          wires := fabric.wires.eraseIdx index
          arrivals := fabric.arrivals ++ [(.host address, carried)] } =
      balance cabling target data fabric := by
  have arrived := balance_arrival cabling target data
    { fabric with wires := fabric.wires.eraseIdx index } (.host address) carried
  have erased := balance_eraseWire cabling target data found
  have ends : heading cabling target source (.host address) =
      if .host address = target then 1 else 0 := by
    unfold heading
    by_cases reached : .host address = target
    · subst reached
      simp [away_from_root (G := cabling.graph) linked]
    · rw [if_neg reached, if_neg]
      intro beyond
      obtain ⟨next, other, towards⟩ :=
        (away_onward_iff acyclic (G := cabling.graph) linked).mpr ⟨reached, beyond⟩
      exact other (cabling.leaf towards.adjacent.symm linked)
  rw [arrived, erased]
  unfold transitWeight
  by_cases same : carried = data
  · simp [same, ends]
  · simp [same]

/-- A switch carries out a sound message: what it sends was accounted for. -/
theorem balance_execute {fabric : Fabric K} {index datapath : Nat} {message : Message}
    (found : fabric.commands[index]? = some (datapath, message))
    (sound : Sound rule (outward format acyclic) datapath message) (normal : List Device) :
    balance cabling target data (execute cabling format datapath message normal
        { fabric with commands := fabric.commands.eraseIdx index }) =
      balance cabling target data fabric := by
  have erased := balance_eraseCommand cabling target data found
  rw [erased]
  cases sound with
  | addition holds => simp [execute, flowAddition, commandWeight, balance, pending]
  | @packet body carried port carries entered sends onward =>
      have choice : actionsWeight cabling target datapath body.inPort normal body.actions =
          actionsWeight cabling target datapath body.inPort [] body.actions := by
        have ordinary : port ≠ ofppNormal := by
          rcases onward with rfl | towards
          · decide
          · have physical := towards.physical
            intro normal
            simp [normal, ofppNormal, ofppMax] at physical
        simp [actionsWeight, actionWeight, sends, outputTo, egress_normal ordinary _ _ normal]
      simp only [execute, carries, balance_apply, commandWeight, Option.some.injEq, choice]
      rfl

/-- What installing rules sends weighs nothing. -/
theorem balance_serve [EntropyArithmetic K] (cabling : Cabling) (target : Device)
    (data : List UInt8) (fabric : Fabric K) {event : DDoSSimulationAPP.Event}
    {middle : DDoSSimulationAPP K} (messages : List (Nat × Message))
    (sent : middle.sent = fabric.app.sent ++ messages)
    (installs : Installs rule middle (DDoSSimulationAPP.step fabric.app event)) :
    balance cabling target data (serve event fabric) =
      balance cabling target data fabric +
        (messages.map (commandWeight cabling target data)).sum := by
  obtain ⟨rules, added, given⟩ := installs.sent
  have logged : (DDoSSimulationAPP.step fabric.app event).sent =
      fabric.app.sent ++ (messages ++ rules) := by
    rw [added, sent, List.append_assoc]
  have weightless : (rules.map (commandWeight cabling target data)).sum = 0 := by
    rw [List.sum_eq_zero_iff]
    intro weight member
    obtain ⟨entry, installed, rfl⟩ := List.mem_map.mp member
    obtain ⟨priority, fields, actions, same, _⟩ := given entry installed
    simp [commandWeight, same, flowAddition]
  simp only [balance, pending, serve, drop_sent logged, List.map_append, List.sum_append,
    weightless]
  omega

/-- The port a packet-in is relayed to. -/
def relayPort (message : PacketIn) (dst src : String) (app : DDoSSimulationAPP K) : Nat :=
  (((learn message src app).learnedPorts message.datapath).get? dst).getD ofppFlood

/-- What relaying a packet-in sends. -/
theorem weight_forwardMessages {message : PacketIn} (unbuffered : message.bufferId = ofpNoBuffer)
    (dst src : String) (port : Nat) :
    ((forwardMessages message dst src port).map (commandWeight cabling target data)).sum =
      if message.data = data then
        actionsWeight cabling target message.datapath message.inPort [] (outputTo port)
      else 0 := by
  have flow (known : List (Nat × Message))
      (isFlow : ∀ entry ∈ known, ∃ priority fields actions,
        entry.2 = flowAddition priority fields actions) :
      (known.map (commandWeight cabling target data)).sum = 0 := by
    rw [List.sum_eq_zero_iff]
    intro weight member
    obtain ⟨entry, listed, rfl⟩ := List.mem_map.mp member
    obtain ⟨priority, fields, actions, same⟩ := isFlow entry listed
    simp [commandWeight, same, flowAddition]
  rw [forwardMessages_unbuffered unbuffered, List.map_append, List.sum_append, flow]
  · simp [commandWeight, packetOut, unbuffered]
  · intro entry member
    split at member
    · cases member
    · rw [List.mem_singleton.mp member]
      exact ⟨_, _, _, rfl⟩

/-- No entry has more than one action. -/
theorem handler_few {datapath : Nat} {table : SwitchTable}
    (conforms : FlowTable.Conforms (SwitchRule SentRule (outward format acyclic) datapath) table)
    (frame : Frame) (entry : Nat) : (handler table frame entry).length ≤ 1 := by
  obtain dropped | ⟨slot, handles⟩ := handler_cases table frame entry
  · simp [dropped]
  · have holds := conforms slot.1 slot.2 _ handles.installed
    generalize handler table frame entry = actions at holds
    generalize slot.1 = priority, slot.2 = fields at holds
    cases holds with
    | learned towards => exact Nat.le_refl 1
    | given sent => cases sent <;> simp [toController, outputTo]

/-- An injected frame is sent towards another device once, if the device can be reached. -/
theorem injectedWeight_eq (acyclic : cabling.graph.IsAcyclic) (target : Device) (address : String)
    [Decidable (∃ next, Away cabling.graph target next (.host address))] :
    injectedWeight cabling target address =
      if ∃ next, Away cabling.graph target next (.host address) then 1 else 0 := by
  classical
  have single := sum_indicator (cabling.nodup (.host address))
    (fun next => Away cabling.graph target next (.host address))
    fun first second towards towards' => towards.unique acyclic towards'
  have beside : (∃ next ∈ cabling.neighbours (.host address),
      Away cabling.graph target next (.host address)) ↔
        ∃ next, Away cabling.graph target next (.host address) :=
    ⟨fun ⟨next, _, towards⟩ => ⟨next, towards⟩,
      fun ⟨next, towards⟩ => ⟨next, towards.adjacent.symm, towards⟩⟩
  rw [← if_congr beside rfl rfl, ← single]
  rfl

/-- The copies of a frame that an event may add for a target. -/
def injected (target : Device) (data : List UInt8) : FabricEvent → Nat
  | .inject address carried => if carried = data ∧ .host address ≠ target then 1 else 0
  | _ => 0

theorem injectedWeight_le (acyclic : cabling.graph.IsAcyclic) (target : Device) (address : String) :
    injectedWeight cabling target address ≤ if .host address = target then 0 else 1 := by
  classical
  rw [injectedWeight_eq acyclic]
  split
  · next towards =>
      obtain ⟨next, towards⟩ := towards
      rw [if_neg]
      rintro rfl
      exact not_away_into_root towards
  · exact Nat.zero_le _

/-- A frame that arrives is accounted for by what the switch makes of it. -/
theorem arrive_le (acyclic : cabling.graph.IsAcyclic) {fabric : Fabric K}
    (oriented : Oriented SentRule format acyclic fabric) {index : Nat} {transit : Transit}
    (found : fabric.wires[index]? = some transit) (entry : Nat) (normal : List Device) :
    balance cabling target data (arrive cabling format transit entry normal
        { fabric with wires := fabric.wires.eraseIdx index }) ≤
      balance cabling target data fabric := by
  have away := oriented.wires _ (List.mem_of_getElem? found)
  obtain ⟨source, device, carried⟩ := transit
  cases device with
  | host address => exact Nat.le_of_eq (balance_arrive_host acyclic found away.adjacent.symm)
  | switch datapath =>
      simp only [arrive]
      generalize taken : handler (fabric.tables datapath)
        (format.received (cabling.port datapath source) carried) entry = actions
      have few : actions.length ≤ 1 := taken ▸ handler_few (oriented.tables datapath) _ entry
      have sends := actionsWeight_le cabling target datapath
        (cabling.port datapath source) normal few
      have account := balance_arrive_switch format target data acyclic found
        away.adjacent.symm normal actions
      split at account <;> omega

variable [EntropyArithmetic K]

/-- A packet-in is accounted for by the packet-out that relays it. -/
theorem control_le {fabric : Fabric K} {index : Nat} {message : PacketIn}
    (found : fabric.packetIns[index]? = some message)
    (reported : Reported (outward format acyclic) message) :
    balance cabling target data (serve (.packetIn message)
        { fabric with packetIns := fabric.packetIns.eraseIdx index }) ≤
      balance cabling target data fabric := by
  have erased := balance_erasePacketIn cabling target data found
  obtain same | ⟨dst, src, _, _, same⟩ := relayed_cases message fabric.app
  · have served := balance_serve cabling target data
      { fabric with packetIns := fabric.packetIns.eraseIdx index } [] (by simp [same])
      (packetIn_installs message fabric.app)
    simp only [List.map_nil, List.sum_nil] at served
    omega
  · have sent : (relayed message fabric.app).sent = fabric.app.sent ++
        forwardMessages message dst src (relayPort message dst src fabric.app) := by
      rw [same, forward_eq]
      rfl
    have served := balance_serve cabling target data
      { fabric with packetIns := fabric.packetIns.eraseIdx index } _ sent
      (packetIn_installs message fabric.app)
    have single : (outputTo (relayPort message dst src fabric.app)).length ≤ 1 := Nat.le_refl 1
    have sends := actionsWeight_le cabling target message.datapath message.inPort [] single
    rw [weight_forwardMessages reported.unbuffered] at served
    unfold packetInWeight at erased
    split at served
    · next same =>
        rw [if_pos same] at erased
        omega
    · next other =>
        rw [if_neg other] at erased
        omega

/-- The other requests do not matter to the balance. -/
theorem balance_request (fabric : Fabric K) (event : DDoSSimulationAPP.Event) :
    balance cabling target data (step cabling format fabric (.request event)) =
      balance cabling target data fabric := by
  have served (other : ∀ message, event ≠ .packetIn message) :=
    balance_serve cabling target data fabric [] (by simp) (step_installs fabric.app other)
  simp only [List.map_nil, List.sum_nil, Nat.add_zero] at served
  cases event with
  | packetIn message => rfl
  | switchFeatures datapath => exact served (by simp)
  | protocolForbid body => exact served (by simp)
  | setIpWhiteTable dpid => exact served (by simp)
  | trafficEntropy => exact served (by simp)

/-- The step lemma: no event but an injection adds to the balance. -/
theorem step_le (target : Device) (data : List UInt8) (acyclic : cabling.graph.IsAcyclic)
    {fabric : Fabric K}
    (oriented : Oriented SentRule format acyclic fabric) (event : FabricEvent) :
    balance cabling target data (step cabling format fabric event) ≤
      balance cabling target data fabric + injected target data event := by
  cases event with
  | inject address carried =>
      have few := injectedWeight_le acyclic target address
      rw [balance_inject]
      by_cases same : carried = data <;> by_cases back : .host address = target <;>
        simp [injected, same, back] at few ⊢ <;> omega
  | arrive index entry normal =>
      cases found : fabric.wires[index]? with
      | none => simp [step, found, injected]
      | some transit =>
          simpa [step, found, injected] using arrive_le acyclic oriented found entry normal
  | control index =>
      cases found : fabric.packetIns[index]? with
      | none => simp [step, found, injected]
      | some message =>
          simpa [step, found, injected] using
            control_le found (oriented.packetIns _ (List.mem_of_getElem? found))
  | execute index normal =>
      cases found : fabric.commands[index]? with
      | none => simp [step, found, injected]
      | some command =>
          simp only [step, found, injected, Nat.add_zero]
          exact Nat.le_of_eq
            (balance_execute found (oriented.commands _ (List.mem_of_getElem? found)) normal)
  | request event => exact Nat.le_of_eq (balance_request fabric event)

/-- The run lemma. -/
theorem run_le (target : Device) (data : List UInt8) (acyclic : cabling.graph.IsAcyclic)
    {fabric : Fabric K}
    (oriented : Oriented SentRule format acyclic fabric) {events : List FabricEvent}
    (honest : ∀ event ∈ events, Honest format event) :
    Oriented SentRule format acyclic (run (step cabling format) fabric events) ∧
      balance cabling target data (run (step cabling format) fabric events) ≤
        balance cabling target data fabric + (events.map (injected target data)).sum := by
  induction events generalizing fabric with
  | nil => exact ⟨oriented, Nat.le_refl _⟩
  | cons event rest inductionHypothesis =>
      have first := step_le target data acyclic oriented event
      have next := oriented.step ((honest event List.mem_cons_self).abides acyclic)
        (within_sent fabric event)
      obtain ⟨after, later⟩ := inductionHypothesis next
        fun other member => honest other (List.mem_cons_of_mem _ member)
      rw [run_cons, List.map_cons, List.sum_cons]
      exact ⟨after, by omega⟩

omit [EntropyArithmetic K] in
/-- What honest hosts inject is added for every device but the source. -/
theorem sum_injected {events : List FabricEvent} (honest : ∀ event ∈ events, Honest format event) :
    (events.map (injected target data)).sum =
      if target = origin format data then 0 else (injections events).count data := by
  induction events with
  | nil => simp [injections]
  | cons event rest inductionHypothesis =>
      rw [List.map_cons, List.sum_cons,
        inductionHypothesis fun other member => honest other (List.mem_cons_of_mem _ member)]
      cases event with
      | inject address carried =>
          have own : (format.fields carried).ethSrc = address := honest _ List.mem_cons_self
          by_cases same : carried = data
          · subst same
            by_cases source : target = origin format carried
            · simp [injected, source, origin, own]
            · have other : ¬ Device.host address = target := by
                rintro rfl
                exact source (by rw [origin, own])
              simp [injected, injections, source, other]
              omega
          · simp [injected, injections, same]
      | _ => simp [injected, injections]

/-- In a network without cycles, whose hosts use their own address, no device ever receives a
frame more often than it was injected, its source never does, and the ports known on each
switch lead towards their hosts, whatever is requested of the controller and in whatever
order things happen. -/
theorem frames_spread_once (acyclic : cabling.graph.IsAcyclic) (events : List FabricEvent)
    (honest : ∀ event ∈ events, Honest format event) :
    let fabric := run (step cabling format) (init : Fabric K) events
    (∀ device data, fabric.arrivals.count (device, data) ≤
      if device = origin format data then 0 else (injections events).count data) ∧
    ∀ datapath address port, (fabric.app.learnedPorts datapath).get? address = some port →
      Towards cabling datapath address port := by
  have ran (target : Device) (data : List UInt8) :=
    run_le target data acyclic (disciplined_init (K := K)) honest
  refine ⟨fun device data => ?_, (ran (.switch 0) []).1.ports⟩
  have bound := (ran device data).2
  have start : balance cabling device data (init : Fabric K) = 0 := by
    simp [balance, pending, init]
  rw [sum_injected honest, start, Nat.zero_add] at bound
  exact Nat.le_trans (Nat.le_add_right _ _) bound

/-- Two hosts on switch 1. -/
def twoHosts : Cabling :=
  .ofTable [(.switch 1, [.host "a", .host "b"]), (.host "a", [.switch 1]),
    (.host "b", [.switch 1])] (by decide)

theorem mem_twoHosts {device other : Device} (linked : other ∈ twoHosts.neighbours device) :
    device = .switch 1 ∧ other ≠ .switch 1 ∨ device ≠ .switch 1 ∧ other = .switch 1 := by
  have listed := exists_entry linked
  generalize others : linksOf _ device = links at listed
  have linked : other ∈ links := others ▸ linked
  simp only [List.mem_cons, Prod.mk.injEq, List.not_mem_nil, or_false] at listed
  rcases listed with ⟨rfl, rfl⟩ | ⟨rfl, rfl⟩ | ⟨rfl, rfl⟩ <;> simp at linked ⊢
  · rcases linked with rfl | rfl <;> simp
  · exact linked
  · exact linked

theorem twoHosts_acyclic : twoHosts.graph.IsAcyclic := by
  refine isAcyclic_of_rank (fun device => if device = .switch 1 then 0 else 1) ?_ ?_
  · intro device other linked
    rcases mem_twoHosts linked with ⟨one, apart⟩ | ⟨apart, one⟩ <;> simp [one, apart]
  · intro device first second linked linked' lower lower'
    rcases mem_twoHosts linked with ⟨one, _⟩ | ⟨apart, one⟩
    · simp [one] at lower
    · rcases mem_twoHosts linked' with ⟨one', _⟩ | ⟨_, one'⟩
      · exact absurd one' apart
      · rw [one, one']

/-- The frame 0 goes from "a" to "b". -/
def oneFrame : FrameFormat where
  fields _ := ⟨0, "b", "a", ethTypeIp, none, none⟩
  protocols _ := .ok [.ethernet "b" "a" ethTypeIp, .other]
  agrees {data headers dst src ethertype} parsed named := by
    cases parsed
    cases (Option.some.inj named : ("b", "a", ethTypeIp) = (dst, src, ethertype))
    exact ⟨rfl, rfl⟩

/-- The switch connects and is sent the table-miss rule. -/
def handshake : List FabricEvent := [.request (.switchFeatures 1), .execute 0 []]
/-- A frame is handed over, flooded, and arrives. -/
def relay : List FabricEvent :=
  [.inject "a" [0], .arrive 0 0 [], .control 0, .execute 0 [], .arrive 0 0 []]

theorem two_hosts_spread_once :
    (run (step twoHosts oneFrame) (init : Fabric Rat) (handshake ++ relay)).arrivals.count
      (.host "b", [0]) ≤ 1 := by
  have honest : ∀ event ∈ handshake ++ relay, Honest oneFrame event := by
    simp [handshake, relay, Honest, oneFrame]
  have spread := frames_spread_once (K := Rat) twoHosts_acyclic (handshake ++ relay) honest
  exact Nat.le_trans (spread.1 (.host "b") [0]) (by decide +kernel)

end NetworkAdapter.Fabric
