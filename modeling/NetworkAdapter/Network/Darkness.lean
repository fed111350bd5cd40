import NetworkAdapter.Network.Delivery

/-!
# Switches under the default drop

The defence installs a match-all drop above the table-miss rule, and nothing that
is ever sent removes it. From then on the switch hands nothing over: the packet-ins
still under way are the last the controller hears of it, in every network and
whatever happens. What it does only on packet-ins, such as carrying out a ban that
it has accepted, is not done for this switch again.
-/

namespace NetworkAdapter.Fabric

open DDoSSimulationAPP Execution

variable {K : Type} {cabling : Cabling} {format : FrameFormat}

/-- Frames come in on physical ports, so that the ports known are physical. -/
def physical (cabling : Cabling) (format : FrameFormat) : Discipline cabling format where
  rides _ := True
  enters _ inPort _ := inPort ≤ ofppMax
  leads _ _ port := port ≤ ofppMax
  arrives _ := cabling.port_physical _ _
  leaves _ _ := trivial
  teaches entered := entered

theorem physical_abides (event : FabricEvent) : Abides (physical cabling format) event := by
  cases event with
  | inject address data => exact fun _ _ => trivial
  | _ => trivial

/-- The switch holds the default drop. -/
def Dark (datapath : Nat) (fabric : Fabric K) : Prop :=
  (fabric.tables datapath).get? (2, {}) = some []

/-- The packet-ins under way from a switch. -/
def reports (datapath : Nat) (fabric : Fabric K) : List PacketIn :=
  fabric.packetIns.filter fun message => message.datapath = datapath

/-- Nothing else takes the slot of the default drop. -/
theorem drop_only {discipline : Discipline cabling format} {datapath : Nat}
    {actions : List OFPAction} (holds : SwitchRule SentRule discipline datapath 2 {} actions) :
    actions = [] := by
  generalize priority : (2 : Nat) = wanted at holds
  cases holds with
  | given sent =>
      cases sent with
      | dropAll => rfl
      | _ => cases priority

/-- Under the default drop no frame is handed over. -/
theorem dark_handler {discipline : Discipline cabling format} {datapath : Nat} {table : SwitchTable}
    (conforms : FlowTable.Conforms (SwitchRule SentRule discipline datapath) table)
    (dark : table.get? (2, {}) = some []) (frame : Frame) (entry : Nat) :
    ∀ action ∈ handler table frame entry, action.port ≠ ofppController := by
  obtain dropped | ⟨slot, handles⟩ := handler_cases table frame entry
  · simp [dropped]
  · have above : 2 ≤ slot.1 := handles.highest 2 {} [] dark rfl
    have holds := conforms slot.1 slot.2 _ handles.installed
    generalize handler table frame entry = actions at holds
    generalize slot.1 = priority, slot.2 = fields at above holds
    cases holds with
    | learned leads => cases above
    | given sent => exact sent.blind (by omega)

/-- Applying such actions reports nothing. -/
theorem reports_apply {actions : List OFPAction}
    (blind : ∀ action ∈ actions, action.port ≠ ofppController) (other inPort : Nat)
    (data : List UInt8) (normal : List Device) (fabric : Fabric K) (datapath : Nat) :
    reports datapath (apply cabling format other inPort data normal actions fabric) =
      reports datapath fabric := by
  have silent : (actions.flatMap fun action =>
      if action.port = ofppController then
        [(⟨other, inPort, ofpNoBuffer, data, format.protocols data⟩ : PacketIn)]
      else []) = [] := by
    refine List.flatMap_eq_nil_iff.mpr fun action member => ?_
    rw [if_neg (blind action member)]
  simp only [reports, apply_eq, silent, List.append_nil]

/-- What another switch applies reports nothing of this one. -/
theorem reports_apply_elsewhere {other datapath : Nat} (apart : other ≠ datapath)
    (actions : List OFPAction) (inPort : Nat) (data : List UInt8) (normal : List Device)
    (fabric : Fabric K) :
    reports datapath (apply cabling format other inPort data normal actions fabric) =
      reports datapath fabric := by
  have silent : ((actions.flatMap fun action =>
      if action.port = ofppController then
        [(⟨other, inPort, ofpNoBuffer, data, format.protocols data⟩ : PacketIn)]
      else []).filter fun message => message.datapath = datapath) = [] := by
    refine List.filter_eq_nil_iff.mpr fun message member => ?_
    obtain ⟨action, _, made⟩ := List.mem_flatMap.mp member
    split at made
    · rw [List.mem_singleton.mp made]
      simpa using apart
    · cases made
  simp only [reports, apply_eq, List.filter_append, silent, List.append_nil]

/-- A packet-out does not hand its packet back. -/
theorem Sound.blind {rule : Nat → OFPMatch → List OFPAction → Prop} {datapath : Nat}
    {body : OFPPacketOut}
    (sound : Sound rule (physical cabling format) datapath (.packetOut body)) :
    ∀ action ∈ body.actions, action.port ≠ ofppController := by
  generalize packet : Message.packetOut body = message at sound
  cases sound with
  | addition => cases packet
  | @packet _ data port carries entered sends onward =>
      cases packet
      intro action member
      rw [sends] at member
      rw [List.mem_singleton.mp member]
      rintro rfl
      rcases onward with flood | leads
      · exact absurd flood (by decide)
      · exact absurd leads (by simp [physical, ofppController, ofppMax])

variable [EntropyArithmetic K]

/-- The step lemma: a dark switch reports nothing new. -/
theorem reports_step {fabric : Fabric K} {datapath : Nat}
    (disciplined : Disciplined SentRule (physical cabling format) fabric)
    (dark : Dark datapath fabric) (event : FabricEvent) :
    (reports datapath (step cabling format fabric event)).Sublist (reports datapath fabric) := by
  cases event with
  | inject address data => exact List.Sublist.refl _
  | arrive index entry normal =>
      cases found : fabric.wires[index]? with
      | none => simp [step, found]
      | some transit =>
          obtain ⟨source, target, data⟩ := transit
          suffices same : reports datapath (step cabling format fabric _) =
              reports datapath fabric from same ▸ List.Sublist.refl _
          cases target with
          | host address => simp [step, found, arrive, reports]
          | switch other =>
              by_cases same : other = datapath
              · subst same
                have blind := dark_handler (disciplined.tables other) dark
                  (format.received (cabling.port other source) data) entry
                simp only [step, found, arrive]
                exact reports_apply blind _ _ _ _ _ _
              · simp only [step, found, arrive]
                exact reports_apply_elsewhere same _ _ _ _ _
  | control index =>
      cases found : fabric.packetIns[index]? with
      | none => simp [step, found]
      | some message =>
          simpa [step, found, serve, reports] using
            (List.eraseIdx_sublist fabric.packetIns index).filter _
  | execute index normal =>
      cases found : fabric.commands[index]? with
      | none => simp [step, found]
      | some command =>
          obtain ⟨other, message⟩ := command
          have sound := disciplined.commands _ (List.mem_of_getElem? found)
          suffices same : reports datapath (step cabling format fabric _) =
              reports datapath fabric from same ▸ List.Sublist.refl _
          cases message with
          | flowMod body => simp [step, found, execute, reports]
          | packetOut body =>
              cases carried : body.data with
              | none => simp [step, found, execute, carried, reports]
              | some data =>
                  simp only [step, found, execute, carried]
                  exact reports_apply sound.blind _ _ _ _ _ _
  | request event => cases event <;> exact List.Sublist.refl _

theorem Dark.step {fabric : Fabric K} {datapath : Nat} (dark : Dark datapath fabric)
    (disciplined : Disciplined SentRule (physical cabling format) fabric) (event : FabricEvent) :
    Dark datapath (Fabric.step cabling format fabric event) := by
  obtain same | ⟨message, member, same⟩ := tables_step fabric event datapath
  · rw [Dark, same, dark]
  · rw [Dark, same]
    exact (disciplined.commands _ member).keeps (fun _ => drop_only) dark

/-- What the controller learns of a switch and sends to it: nothing but table-miss rules. -/
structure Unattended (datapath : Nat) (before after : DDoSSimulationAPP K) : Prop where
  ports : after.learnedPorts datapath = before.learnedPorts datapath
  sent : ∃ messages, after.sent = before.sent ++ messages ∧
    ∀ entry ∈ messages, entry.1 = datapath → entry.2 = flowAddition 0 {} toController

omit [EntropyArithmetic K] in
theorem Unattended.trans {datapath : Nat} {before middle after : DDoSSimulationAPP K}
    (first : Unattended datapath before middle) (second : Unattended datapath middle after) :
    Unattended datapath before after := by
  obtain ⟨messages, sent, missed⟩ := first.sent
  obtain ⟨messages', sent', missed'⟩ := second.sent
  refine ⟨second.ports.trans first.ports, messages ++ messages',
    by rw [sent', sent, List.append_assoc], ?_⟩
  intro entry member
  exact (List.mem_append.mp member).elim (missed entry) (missed' entry)

/-- A switch that has nothing to report is left alone. -/
theorem unattended_step {fabric : Fabric K} {datapath : Nat} (silent : reports datapath fabric = [])
    (event : FabricEvent) :
    Unattended datapath fabric.app (Fabric.step cabling format fabric event).app := by
  obtain same | ⟨message, member, same⟩ | ⟨request, _, noPacket, same⟩ := app_step fabric event
  · rw [same]
    exact ⟨rfl, [], by simp, by simp⟩
  · have apart : message.datapath ≠ datapath := by
      intro here
      have listed : message ∈ reports datapath fabric :=
        List.mem_filter.mpr ⟨member, decide_eq_true here⟩
      simp [silent] at listed
    obtain ⟨ports, messages, sent, elsewhere⟩ := packetIn_concerns message fabric.app
    rw [same]
    refine ⟨ports datapath apart.symm, messages, sent, fun entry listed here => ?_⟩
    exact absurd ((elsewhere entry listed).symm.trans here) apart
  · obtain ⟨macToPort, rules, sent, missed⟩ := step_installs fabric.app noPacket
    rw [same]
    refine ⟨learnedPorts_congr macToPort datapath, rules, sent, fun entry listed _ => ?_⟩
    obtain ⟨priority, fields, actions, is, isMiss⟩ := missed entry listed
    cases isMiss
    exact is

/-- The run lemma. -/
theorem run_dark {fabric : Fabric K} {datapath : Nat}
    (disciplined : Disciplined SentRule (physical cabling format) fabric)
    (dark : Dark datapath fabric) (events : List FabricEvent) :
    let after := run (step cabling format) fabric events
    Dark datapath after ∧ (reports datapath after).Sublist (reports datapath fabric) ∧
      (reports datapath fabric = [] → Unattended datapath fabric.app after.app) := by
  induction events generalizing fabric with
  | nil => exact ⟨dark, List.Sublist.refl _, fun _ => ⟨rfl, [], by simp, by simp⟩⟩
  | cons event rest inductionHypothesis =>
      have fewer := reports_step disciplined dark event
      obtain ⟨still, sublist, unattended⟩ := inductionHypothesis
        (disciplined.step (physical_abides event) (within_sent fabric event))
        (dark.step disciplined event)
      refine ⟨still, sublist.trans fewer, fun silent => ?_⟩
      have silent' := List.sublist_nil.mp (silent ▸ fewer)
      exact (unattended_step silent event).trans (unattended silent')

/-- Once a switch holds the default drop it keeps it, and the controller hears nothing more of it
than is already under way. With nothing under way, its ports are as they are for ever and it is
sent nothing but table-miss rules, even for bans that are accepted later. This holds of every
network and in every run. -/
theorem defended_switch_goes_dark {boot : List FabricEvent} {datapath : Nat}
    (dark : Dark datapath (run (step cabling format) (init : Fabric K) boot))
    (events : List FabricEvent) :
    let before := run (step cabling format) (init : Fabric K) boot
    let after := run (step cabling format) (init : Fabric K) (boot ++ events)
    Dark datapath after ∧ (reports datapath after).Sublist (reports datapath before) ∧
      (reports datapath before = [] → Unattended datapath before.app after.app) := by
  have disciplined : Disciplined SentRule (physical cabling format)
      (run (step cabling format) (init : Fabric K) boot) :=
    run_invariant (Disciplined SentRule (physical cabling format))
      (fun (fabric : Fabric K) event known =>
        known.step (physical_abides event) (within_sent fabric event))
      disciplined_init boot
  intro before after
  simp only [after, run_append]
  exact run_dark disciplined dark events

/-- The whitelist defence is switched on and the alarm raised by eleven frames; then the switch
carries out the drop it is sent. -/
def defence : List FabricEvent :=
  handshake ++
    .request (.protocolForbid (.obj [("dpid", .number 1), ("protocol", .str "ip_white_table")])) ::
      ((List.replicate 11 [.inject "a" [0], .arrive 0 0 [], .control 0]).flatten ++
        [.execute 11 []])

theorem two_hosts_go_dark :
    let before := run (step twoHosts oneFrame) (init : Fabric Rat) defence
    let after := run (step twoHosts oneFrame) (init : Fabric Rat)
      (defence ++ [.inject "a" [0], .arrive 0 0 []])
    Dark 1 after ∧ (reports 1 after).Sublist (reports 1 before) ∧
      (reports 1 before = [] → Unattended 1 before.app after.app) :=
  defended_switch_goes_dark
    (by decide +kernel : ((run (step twoHosts oneFrame) (init : Fabric Rat) defence).tables 1).get?
      (2, {}) = some []) _

end NetworkAdapter.Fabric
