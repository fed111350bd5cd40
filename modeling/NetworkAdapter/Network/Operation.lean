import NetworkAdapter.Network.Discipline

/-!
# Switches in operation

While nothing is banned a switch is given learned flows only, besides its
table-miss rule. Once it holds that rule it keeps it, and it handles every frame:
it hands it over to the controller or sends it out of a port that leads to its
destination. Which one it does is open, since all these entries have the same
priority.
-/

namespace NetworkAdapter.Fabric

open DDoSSimulationAPP

variable {K : Type} {cabling : Cabling} {format : FrameFormat}
  {discipline : Discipline cabling format}

/-- The switches hold the table-miss rule. -/
def Ready (switches : Nat → Prop) (fabric : Fabric K) : Prop :=
  ∀ datapath, switches datapath → (fabric.tables datapath).get? (0, {}) = some toController

/-- Nothing banned, the discipline kept, and the switches in operation. -/
structure Working (discipline : Discipline cabling format) (switches : Nat → Prop)
    (fabric : Fabric K) : Prop where
  disciplined : Disciplined MissRule discipline fabric
  rulesOff : RulesOff fabric.app
  ready : Ready switches fabric

/-- The packet library parses the frame, which is no link discovery packet. -/
def Readable (format : FrameFormat) (data : List UInt8) : Prop :=
  ∃ headers dst src ethertype, format.protocols data = .ok headers ∧
    headers.findSome? Header.ethernet? = some (dst, src, ethertype) ∧ ethertype ≠ ethTypeLldp

/-- Such a frame is learned from and forwarded. -/
theorem Reported.relayed {message : PacketIn} (reported : Reported discipline message)
    (readable : Readable format message.data) (app : DDoSSimulationAPP K) :
    let frame := format.fields message.data
    DDoSSimulationAPP.relayed message app =
      forward message frame.ethDst frame.ethSrc (learn message frame.ethSrc app) := by
  obtain ⟨headers, dst, src, ethertype, parsed, named, ordinary⟩ := readable
  have header : ethernetHeader message = .ok (dst, src, ethertype) := by
    have protocols : message.protocols = .ok headers := by rw [reported.protocols, parsed]
    simp [ethernetHeader, protocols, named, bind, Except.bind]
  obtain ⟨isDst, isSrc⟩ := reported.addresses header
  simp [DDoSSimulationAPP.relayed, header, switched, ordinary, isDst, isSrc]

/-- A frame leads to the actions of an entry that handles it, or is dropped. -/
theorem handler_cases (table : SwitchTable) (frame : Frame) (entry : Nat) :
    handler table frame entry = [] ∨
      ∃ slot, FlowTable.Handles OFPMatch.admits table frame slot (handler table frame entry) := by
  unfold handler
  generalize listed : FlowTable.handlers OFPMatch.admits table frame = candidates
  cases found : candidates[entry % candidates.length]? with
  | none => exact .inl (by simp [found])
  | some actions =>
      have member : actions ∈ FlowTable.handlers OFPMatch.admits table frame :=
        listed ▸ List.mem_of_getElem? found
      exact .inr (by simpa [found] using FlowTable.mem_handlers_iff.mp member)

/-- The entries of a working switch: all are of the lowest priority, so a learned flow may lose
to the table-miss rule, but there is always an entry that handles a frame. -/
theorem handler_working {datapath : Nat} {table : SwitchTable}
    (conforms : FlowTable.Conforms (SwitchRule MissRule discipline datapath) table)
    (miss : table.get? (0, {}) = some toController) (frame : Frame) (entry : Nat) :
    handler table frame entry = toController ∨
      ∃ port, handler table frame entry = outputTo port ∧
        discipline.leads datapath frame.ethDst port := by
  have lowest : ∀ priority fields actions, table.get? (priority, fields) = some actions →
      priority = 0 := by
    intro priority fields actions found
    cases conforms _ _ _ found with
    | learned leads => rfl
    | given isMiss =>
        cases isMiss
        rfl
  have handles : FlowTable.Handles OFPMatch.admits table frame (0, {}) toController :=
    ⟨miss, rfl, fun priority fields other found _ => Nat.le_of_eq (lowest _ _ _ found)⟩
  have listed := FlowTable.mem_handlers_iff.mpr ⟨_, handles⟩
  have taken : handler table frame entry ∈ FlowTable.handlers OFPMatch.admits table frame := by
    have inside : entry % (FlowTable.handlers OFPMatch.admits table frame).length <
        (FlowTable.handlers OFPMatch.admits table frame).length :=
      Nat.mod_lt _ (List.length_pos_of_mem listed)
    simp [handler, List.getElem?_eq_getElem inside]
  obtain ⟨⟨priority, fields⟩, installed, admitted, _⟩ := FlowTable.mem_handlers_iff.mp taken
  generalize handler table frame entry = actions at installed
  cases conforms _ _ _ installed with
  | given isMiss =>
      cases isMiss
      exact .inl rfl
  | @learned inPort port dst src leads =>
      have named : dst = frame.ethDst := by
        simp only [OFPMatch.admits, OFPMatch.covers, learnedMatch, Frame.fields,
          fieldCovers] at admitted
        simp at admitted
        exact admitted.1.2
      exact .inr ⟨port, rfl, named ▸ leads⟩

/-- A slot that can hold one action list only keeps it. -/
theorem Sound.keeps {rule : Nat → OFPMatch → List OFPAction → Prop} {datapath : Nat}
    {message : Message} (sound : Sound rule discipline datapath message)
    {slot : Nat × OFPMatch} {wanted : List OFPAction}
    (only : ∀ actions, SwitchRule rule discipline datapath slot.1 slot.2 actions → actions = wanted)
    {table : SwitchTable} (held : table.get? slot = some wanted) :
    (message.apply table).get? slot = some wanted := by
  cases sound with
  | packet => exact held
  | @addition priority fields actions holds =>
      show (table.add priority fields actions).get? slot = some wanted
      by_cases same : (priority, fields) = slot
      · subst same
        exact FlowTable.get?_add_eq_some.mpr (.inl ⟨rfl, only _ holds⟩)
      · exact FlowTable.get?_add_eq_some.mpr (.inr ⟨same, held⟩)

/-- The slot of the table-miss rule is one, with learned flows besides. -/
theorem miss_only {datapath : Nat} {actions : List OFPAction}
    (holds : SwitchRule MissRule discipline datapath 0 {} actions) : actions = toController := by
  generalize slot : ({} : OFPMatch) = fields at holds
  cases holds with
  | learned leads => simp [learnedMatch] at slot
  | given isMiss =>
      cases isMiss
      rfl

/-- A run without bans. -/
def Unbanned : FabricEvent → Prop
  | .request (.protocolForbid _) => False
  | _ => True

variable [EntropyArithmetic K]

/-- The tables of the switches in operation keep the table-miss rule. -/
theorem Ready.step {switches : Nat → Prop} {fabric : Fabric K} (ready : Ready switches fabric)
    (disciplined : Disciplined MissRule discipline fabric) (event : FabricEvent) :
    Ready switches (Fabric.step cabling format fabric event) := by
  intro datapath operates
  have before := ready datapath operates
  obtain same | ⟨message, member, same⟩ := tables_step fabric event datapath
  · rw [same, before]
  · rw [same]
    exact (disciplined.commands _ member).keeps (fun _ => miss_only) before

/-- Without a ban no rule is switched on. -/
theorem rulesOff_step {fabric : Fabric K} (rulesOff : RulesOff fabric.app) {event : FabricEvent}
    (unbanned : Unbanned event) : RulesOff (step cabling format fabric event).app := by
  obtain same | ⟨message, _, same⟩ | ⟨request, rfl, _, same⟩ := app_step fabric event
  · rwa [same]
  · rw [same]
    exact rulesOff.step (by simp)
  · rw [same]
    refine rulesOff.step ?_
    rintro body rfl
    exact unbanned

/-- With all rules off the table-miss rule is sent at most, forwarding apart. -/
theorem within_miss {fabric : Fabric K} (rulesOff : RulesOff fabric.app) (event : FabricEvent) :
    Within MissRule fabric event := by
  cases event with
  | control index => exact fun message _ => packetIn_installs_of_rulesOff rulesOff message
  | request event => exact fun noPacket => step_installs fabric.app noPacket
  | _ => trivial

theorem Working.step {switches : Nat → Prop} {fabric : Fabric K}
    (working : Working discipline switches fabric) {event : FabricEvent}
    (abides : Abides discipline event) (unbanned : Unbanned event) :
    Working discipline switches (Fabric.step cabling format fabric event) where
  disciplined := working.disciplined.step abides (within_miss working.rulesOff event)
  rulesOff := rulesOff_step working.rulesOff unbanned
  ready := working.ready.step working.disciplined event

end NetworkAdapter.Fabric
