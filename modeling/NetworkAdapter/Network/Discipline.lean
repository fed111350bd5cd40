import NetworkAdapter.Network.Commands
import NetworkAdapter.OpenFlow.Lookup

/-!
# Disciplines of frames

A discipline says of the frames on the links, of those that enter a switch and of
the ports known for an address what is to hold of them, and that switches which
pass frames on and learn from them abide by it. What is under way, installed and
known in the network then abides by it at all times, whatever is banned or
defended meanwhile and in whatever order things happen.
-/

namespace NetworkAdapter.Fabric

open DDoSSimulationAPP

/-- What is to hold of the frames on links, of those that enter switches, and of known ports. -/
structure Discipline (cabling : Cabling) (format : FrameFormat) where
  rides : Transit → Prop
  enters : Nat → Nat → List UInt8 → Prop
  leads : Nat → String → Nat → Prop
  arrives : ∀ {source datapath data}, rides ⟨source, .switch datapath, data⟩ →
    enters datapath (cabling.port datapath source) data
  leaves : ∀ {datapath inPort data normal port next}, enters datapath inPort data →
    next ∈ egress cabling datapath inPort normal port → rides ⟨.switch datapath, next, data⟩
  teaches : ∀ {datapath inPort data}, enters datapath inPort data →
    leads datapath (format.fields data).ethSrc inPort

variable {K : Type} {cabling : Cabling} {format : FrameFormat}
  {rule : Nat → OFPMatch → List OFPAction → Prop} {discipline : Discipline cabling format}

/-- The entries a switch may hold: instances of a rule, and flows to ports that lead to their
destination. -/
inductive SwitchRule (rule : Nat → OFPMatch → List OFPAction → Prop)
    (discipline : Discipline cabling format) (datapath : Nat) :
    Nat → OFPMatch → List OFPAction → Prop where
  | given {priority : Nat} {fields : OFPMatch} {actions : List OFPAction}
      (holds : rule priority fields actions) :
      SwitchRule rule discipline datapath priority fields actions
  | learned {inPort port : Nat} {dst src : String} (leads : discipline.leads datapath dst port) :
      SwitchRule rule discipline datapath 0 (learnedMatch inPort dst src) (outputTo port)

/-- The messages a switch may be sent: such entries, and packets to be flooded or sent on to
their destination. -/
inductive Sound (rule : Nat → OFPMatch → List OFPAction → Prop)
    (discipline : Discipline cabling format) (datapath : Nat) : Message → Prop where
  | addition {priority : Nat} {fields : OFPMatch} {actions : List OFPAction}
      (holds : SwitchRule rule discipline datapath priority fields actions) :
      Sound rule discipline datapath (flowAddition priority fields actions)
  | packet {body : OFPPacketOut} {data : List UInt8} (port : Nat) (carries : body.data = some data)
      (entered : discipline.enters datapath body.inPort data) (sends : body.actions = outputTo port)
      (onward : port = ofppFlood ∨ discipline.leads datapath (format.fields data).ethDst port) :
      Sound rule discipline datapath (.packetOut body)

/-- A packet-in as switches make it. -/
structure Reported (discipline : Discipline cabling format) (message : PacketIn) : Prop where
  entered : discipline.enters message.datapath message.inPort message.data
  unbuffered : message.bufferId = ofpNoBuffer
  protocols : message.protocols = format.protocols message.data

/-- All that is under way, and all that is known or installed, abides by the discipline. -/
structure Disciplined (rule : Nat → OFPMatch → List OFPAction → Prop)
    (discipline : Discipline cabling format) (fabric : Fabric K) : Prop where
  wires : ∀ transit ∈ fabric.wires, discipline.rides transit
  packetIns : ∀ message ∈ fabric.packetIns, Reported discipline message
  commands : ∀ entry ∈ fabric.commands, Sound rule discipline entry.1 entry.2
  tables : ∀ datapath,
    FlowTable.Conforms (SwitchRule rule discipline datapath) (fabric.tables datapath)
  ports : ∀ datapath address port,
    (fabric.app.learnedPorts datapath).get? address = some port →
      discipline.leads datapath address port

/-- Whatever actions are applied to a frame that entered as it should. -/
theorem Disciplined.apply {fabric : Fabric K} (disciplined : Disciplined rule discipline fabric)
    {datapath inPort : Nat} {data : List UInt8} (entered : discipline.enters datapath inPort data)
    (normal : List Device) (actions : List OFPAction) :
    Disciplined rule discipline
      (Fabric.apply cabling format datapath inPort data normal actions fabric) := by
  rw [apply_eq]
  refine { disciplined with wires := ?_, packetIns := ?_ }
  · intro transit member
    rcases List.mem_append.mp member with old | new
    · exact disciplined.wires transit old
    · obtain ⟨action, _, sent⟩ := List.mem_flatMap.mp new
      split at sent
      · cases sent
      · obtain ⟨next, onward, rfl⟩ := List.mem_map.mp sent
        exact discipline.leaves entered onward
  · intro message member
    rcases List.mem_append.mp member with old | new
    · exact disciplined.packetIns message old
    · obtain ⟨action, _, sent⟩ := List.mem_flatMap.mp new
      split at sent
      · rw [List.mem_singleton.mp sent]
        exact ⟨entered, rfl, rfl⟩
      · cases sent

theorem Disciplined.arrive {fabric : Fabric K} (disciplined : Disciplined rule discipline fabric)
    {index : Nat} {transit : Transit}
    (found : fabric.wires[index]? = some transit) (entry : Nat) (normal : List Device) :
    Disciplined rule discipline (Fabric.arrive cabling format transit entry normal
      { fabric with wires := fabric.wires.eraseIdx index }) := by
  have taken : Disciplined rule discipline
      { fabric with
        wires := fabric.wires.eraseIdx index
        arrivals := fabric.arrivals ++ [(transit.target, transit.data)] } :=
    { disciplined with
      wires := fun other member => disciplined.wires other (List.mem_of_mem_eraseIdx member) }
  obtain ⟨source, target, data⟩ := transit
  cases target with
  | host address => exact taken
  | switch datapath =>
      have entered := discipline.arrives (disciplined.wires _ (List.mem_of_getElem? found))
      exact taken.apply entered normal _

/-- A switch that is sent a sound message adds an entry it may hold. -/
theorem Disciplined.execute {fabric : Fabric K} (disciplined : Disciplined rule discipline fabric)
    {index datapath : Nat} {message : Message}
    (found : fabric.commands[index]? = some (datapath, message)) (normal : List Device) :
    Disciplined rule discipline (Fabric.execute cabling format datapath message normal
      { fabric with commands := fabric.commands.eraseIdx index }) := by
  have erased : ∀ entry ∈ fabric.commands.eraseIdx index, Sound rule discipline entry.1 entry.2 :=
    fun entry member => disciplined.commands entry (List.mem_of_mem_eraseIdx member)
  have sound := disciplined.commands _ (List.mem_of_getElem? found)
  cases sound with
  | @addition priority fields actions holds =>
      refine { disciplined with commands := erased, tables := fun other => ?_ }
      by_cases same : other = datapath
      · subst same
        simpa [Fabric.execute, Message.apply, flowAddition] using
          FlowTable.Conforms.add (disciplined.tables other) holds
      · simpa [Fabric.execute, flowAddition, same] using disciplined.tables other
  | @packet body data port carries entered sends onward =>
      have updated : Disciplined rule discipline
          { fabric with
            commands := fabric.commands.eraseIdx index
            tables := fun other =>
              if other = datapath then (Message.packetOut body).apply (fabric.tables datapath)
              else fabric.tables other } := by
        refine { disciplined with commands := erased, tables := fun other => ?_ }
        by_cases same : other = datapath
        · subst same
          simpa [Message.apply] using disciplined.tables other
        · simpa [same] using disciplined.tables other
      simpa [Fabric.execute, carries] using updated.apply entered normal body.actions

/-- The addresses the controller reads are those of the frame. -/
theorem Reported.addresses {message : PacketIn} (reported : Reported discipline message)
    {dst src : String} {ethertype : Nat}
    (parses : ethernetHeader message = .ok (dst, src, ethertype)) :
    (format.fields message.data).ethDst = dst ∧ (format.fields message.data).ethSrc = src := by
  unfold ethernetHeader at parses
  obtain ⟨headers, decoded, found⟩ := ok_of_bind parses
  split at found
  · next header read =>
      cases found
      exact format.agrees (reported.protocols ▸ decoded) read
  · cases found

/-- What the learning switch does for a packet-in abides by the discipline. -/
theorem Disciplined.relay {fabric : Fabric K} (disciplined : Disciplined rule discipline fabric)
    {message : PacketIn} (reported : Reported discipline message) :
    (∀ datapath address port,
      ((relayed message fabric.app).learnedPorts datapath).get? address = some port →
        discipline.leads datapath address port) ∧
    ∃ messages, (relayed message fabric.app).sent = fabric.app.sent ++ messages ∧
      ∀ entry ∈ messages, Sound rule discipline entry.1 entry.2 := by
  obtain same | ⟨dst, src, ethertype, parses, same⟩ := relayed_cases message fabric.app
  · rw [same]
    exact ⟨disciplined.ports, [], by simp, by simp⟩
  · obtain ⟨isDst, isSrc⟩ := reported.addresses parses
    have ports : ∀ datapath address port,
        ((learn message src fabric.app).learnedPorts datapath).get? address = some port →
          discipline.leads datapath address port := by
      intro datapath address port known
      rw [get?_learnedPorts_learn] at known
      split at known
      · next shown =>
          obtain ⟨rfl, rfl⟩ := shown
          cases known
          exact isSrc ▸ discipline.teaches reported.entered
      · exact disciplined.ports datapath address port known
    rw [same, forward_eq]
    refine ⟨ports, _, rfl, fun entry member => ?_⟩
    rw [forwardMessages_unbuffered reported.unbuffered] at member
    rcases List.mem_append.mp member with flow | packet
    · split at flow
      · cases flow
      · next known =>
          rw [List.mem_singleton.mp flow]
          cases found : ((learn message src fabric.app).learnedPorts message.datapath).get? dst with
          | none => simp [found] at known
          | some port => exact .addition (.learned (ports _ _ _ found))
    · rw [List.mem_singleton.mp packet]
      refine .packet _ (by simp [reported.unbuffered]) reported.entered rfl ?_
      cases found : ((learn message src fabric.app).learnedPorts message.datapath).get? dst with
      | none => exact .inl rfl
      | some port => exact .inr (isDst ▸ ports _ _ _ found)

/-- What is sent after a state is what makes the log longer. -/
theorem drop_sent {before after : DDoSSimulationAPP K} {messages : List (Nat × Message)}
    (sent : after.sent = before.sent ++ messages) :
    after.sent.drop before.sent.length = messages := by
  rw [sent, List.drop_left]

theorem learnedPorts_congr {before after : DDoSSimulationAPP K}
    (same : after.macToPort = before.macToPort) (datapath : Nat) :
    after.learnedPorts datapath = before.learnedPorts datapath := by
  rw [learnedPorts, learnedPorts, same]

variable [EntropyArithmetic K]

/-- An application that relays soundly and then installs rules. -/
theorem Disciplined.serve {fabric : Fabric K} (disciplined : Disciplined rule discipline fabric)
    {event : DDoSSimulationAPP.Event} {middle : DDoSSimulationAPP K}
    (ports : ∀ datapath address port, (middle.learnedPorts datapath).get? address = some port →
      discipline.leads datapath address port)
    (sent : ∃ messages, middle.sent = fabric.app.sent ++ messages ∧
      ∀ entry ∈ messages, Sound rule discipline entry.1 entry.2)
    (installs : Installs rule middle (DDoSSimulationAPP.step fabric.app event)) :
    Disciplined rule discipline (Fabric.serve event fabric) := by
  obtain ⟨messages, sent, sound⟩ := sent
  obtain ⟨rules, added, given⟩ := installs.sent
  have logged : (DDoSSimulationAPP.step fabric.app event).sent =
      fabric.app.sent ++ (messages ++ rules) := by
    rw [added, sent, List.append_assoc]
  refine { disciplined with commands := ?_, ports := ?_ }
  · intro entry member
    rcases List.mem_append.mp member with old | new
    · exact disciplined.commands entry old
    · rw [drop_sent logged] at new
      rcases List.mem_append.mp new with relayed | installed
      · exact sound entry relayed
      · obtain ⟨priority, fields, actions, same, holds⟩ := given entry installed
        rw [same]
        exact .addition (.given holds)
  · intro datapath address port known
    have same := learnedPorts_congr installs.macToPort datapath
    exact ports datapath address port (same ▸ known)

/-- What the controller sends for an event, forwarding apart, are instances of the rule. -/
def Within (rule : Nat → OFPMatch → List OFPAction → Prop) (fabric : Fabric K) :
    FabricEvent → Prop
  | .control index => ∀ message, fabric.packetIns[index]? = some message →
      Installs rule (relayed message fabric.app)
        (DDoSSimulationAPP.step fabric.app (.packetIn message))
  | .request event => (∀ message, event ≠ .packetIn message) →
      Installs rule fabric.app (DDoSSimulationAPP.step fabric.app event)
  | _ => True

/-- The frames hosts inject abide by the discipline. -/
def Abides (discipline : Discipline cabling format) : FabricEvent → Prop
  | .inject address data => ∀ next ∈ cabling.neighbours (.host address),
      discipline.rides ⟨.host address, next, data⟩
  | _ => True

/-- The step lemma: an event after which only instances of the rule are sent. -/
theorem Disciplined.step {fabric : Fabric K} (disciplined : Disciplined rule discipline fabric)
    {event : FabricEvent}
    (abides : Abides discipline event) (within : Within rule fabric event) :
    Disciplined rule discipline (Fabric.step cabling format fabric event) := by
  cases event with
  | inject address data =>
      refine { disciplined with wires := fun transit member => ?_ }
      rcases List.mem_append.mp member with old | new
      · exact disciplined.wires transit old
      · obtain ⟨next, linked, rfl⟩ := List.mem_map.mp new
        exact abides next linked
  | arrive index entry normal =>
      cases found : fabric.wires[index]? with
      | none => simpa [Fabric.step, found] using disciplined
      | some transit => simpa [Fabric.step, found] using disciplined.arrive found entry normal
  | control index =>
      cases found : fabric.packetIns[index]? with
      | none => simpa [Fabric.step, found] using disciplined
      | some message =>
          have reported := disciplined.packetIns message (List.mem_of_getElem? found)
          have taken : Disciplined rule discipline
              { fabric with packetIns := fabric.packetIns.eraseIdx index } :=
            { disciplined with
              packetIns := fun other member =>
                disciplined.packetIns other (List.mem_of_mem_eraseIdx member) }
          obtain ⟨ports, sent⟩ := taken.relay reported
          simpa [Fabric.step, found] using taken.serve ports sent (within message found)
  | execute index normal =>
      cases found : fabric.commands[index]? with
      | none => simpa [Fabric.step, found] using disciplined
      | some command =>
          simpa [Fabric.step, found] using disciplined.execute found normal
  | request event =>
      have served (other : ∀ message, event ≠ .packetIn message) :=
        disciplined.serve disciplined.ports ⟨[], by simp, by simp⟩ (within other)
      cases event with
      | packetIn message => exact disciplined
      | switchFeatures datapath => exact served (by simp)
      | protocolForbid body => exact served (by simp)
      | setIpWhiteTable dpid => exact served (by simp)
      | trafficEntropy => exact served (by simp)

/-- Whatever the event, what is sent are fixed rules. -/
theorem within_sent (fabric : Fabric K) (event : FabricEvent) :
    Within SentRule fabric event := by
  cases event with
  | control index => exact fun message _ => packetIn_installs message fabric.app
  | request event =>
      exact fun noPacket => (step_installs fabric.app noPacket).mono fun _ _ _ => MissRule.sent
  | _ => trivial

omit [EntropyArithmetic K] in
theorem disciplined_init : Disciplined rule discipline (init : Fabric K) := by
  constructor
  · simp [init]
  · simp [init]
  · simp [init]
  · intro datapath priority fields actions found
    simp [init] at found
  · simp [init, learnedPorts, DDoSSimulationAPP.init]

end NetworkAdapter.Fabric
