import NetworkAdapter.Controller.BanLookup
import NetworkAdapter.Network.Darkness

/-!
# A banned protocol does not get past a switch

Unless the whitelist defence is asked for, nothing that is sent has a higher priority than
the drop flow of a ban, and nothing removes it. From then on a frame of the protocol that
enters the switch is neither passed on nor reported, so that it stays among the devices that
its senders are connected to without this switch. This holds of every network, with cycles
or without.
-/

namespace NetworkAdapter

namespace DDoSSimulationAPP

variable {K : Type}

/-- The whitelist defence is switched on for no switch. -/
def Undefended (app : DDoSSimulationAPP K) : Prop :=
  ∀ datapath, app.ruleSet datapath "ip_white_table" = false

/-- The event does not ask for the whitelist defence. -/
def LeavesUndefended : Event → Prop
  | .protocolForbid body => forbids? body ≠ some "ip_white_table"
  | _ => True

/-- The rules that are sent without the defence: the table-miss rule and bans. -/
inductive BanRule : Nat → OFPMatch → List OFPAction → Prop where
  | miss : BanRule 0 {} toController
  | ban (ipProto : Nat) : BanRule 3 (protocolMatch ipProto) []

theorem MissRule.ban {priority : Nat} {fields : OFPMatch} {actions : List OFPAction}
    (isMiss : MissRule priority fields actions) : BanRule priority fields actions := by
  cases isMiss
  exact .miss

theorem Undefended.of_rules {before after : DDoSSimulationAPP K} (undefended : Undefended before)
    (same : after.trafficEngineerRuleMap = before.trafficEngineerRuleMap) : Undefended after := by
  intro datapath
  rw [ruleSet, same]
  exact undefended datapath

theorem Undefended.enforceBans {app : DDoSSimulationAPP K} (undefended : Undefended app)
    (event : PacketIn) : Undefended (enforceBans event app) := by
  intro datapath
  have unfolded : DDoSSimulationAPP.enforceBans event app =
      enforce "UDP" (addFlowDrop ipprotoUdp) event
        (enforce "TCP" (addFlowDrop ipprotoTcp) event
          (enforce "ICMP" (addFlowDrop ipprotoIcmp) event app)) := rfl
  rw [unfolded, ruleSet_enforce, ruleSet_enforce, ruleSet_enforce, undefended datapath]
  rfl

theorem enforceBans_banRules (event : PacketIn) (app : DDoSSimulationAPP K) :
    Installs BanRule app (enforceBans event app) := by
  obtain ⟨rules, messages, unfolded, bans⟩ := enforceBans_bans event app
  rw [unfolded]
  refine ⟨rfl, messages, rfl, fun entry member => ?_⟩
  obtain ⟨ipProto, rfl⟩ := bans entry member
  exact ⟨_, _, _, rfl, .ban ipProto⟩

variable [EntropyArithmetic K]

/-- Without the defence a packet-in is relayed, and pending bans are sent. -/
theorem packetIn_undefended {app : DDoSSimulationAPP K} (undefended : Undefended app)
    (event : PacketIn) :
    Undefended (step app (.packetIn event)) ∧
      Installs BanRule (relayed event app) (step app (.packetIn event)) := by
  have sampling := samplePacketIn_forwards event app
  obtain ⟨macToPort, sent⟩ := samplePacketIn_relays event app
  have relays : Installs BanRule (relayed event app) ((samplePacketIn event).leaves app) :=
    .of_same macToPort sent
  have still := undefended.of_rules sampling.trafficEngineerRuleMap
  have handled := packetInHandler_handled event app
  show Undefended ((packetInHandler event).leaves app) ∧
    Installs BanRule _ ((packetInHandler event).leaves app)
  generalize (packetInHandler event).leaves app = after at handled
  cases handled with
  | refused raises =>
      rw [Effect.leaves_of_error raises] at still relays
      exact ⟨still, relays⟩
  | unguarded returns =>
      rw [Effect.leaves_of_ok returns] at still relays
      exact ⟨still.enforceBans event, relays.trans (enforceBans_banRules event _)⟩
  | noted returns on =>
      rw [Effect.leaves_of_ok returns] at still
      simp [still event.datapath] at on
  | alarmed returns on =>
      rw [Effect.leaves_of_ok returns] at still
      simp [still event.datapath] at on
  | doubted returns on =>
      rw [Effect.leaves_of_ok returns] at still
      simp [still event.datapath] at on
  | failed returns on =>
      rw [Effect.leaves_of_ok returns] at still
      simp [still event.datapath] at on

omit [EntropyArithmetic K] in
theorem undefended_init : Undefended (init : DDoSSimulationAPP K) := by
  intro datapath
  simp [ruleSet, init]

/-- Only a request for the defence switches it on. -/
theorem Undefended.step {app : DDoSSimulationAPP K} (undefended : Undefended app) {event : Event}
    (leaves : LeavesUndefended event) : Undefended (step app event) := by
  cases event with
  | packetIn message => exact (packetIn_undefended undefended message).1
  | trafficEntropy => exact undefended
  | protocolForbid body =>
      intro datapath
      have before := undefended datapath
      simp only [ruleSet, DDoSSimulationAPP.step, protocolForbid_rules] at before ⊢
      cases named : forbids? body with
      | none => simpa [named] using before
      | some name =>
          have other : name ≠ "ip_white_table" := fun same => leaves (same ▸ named)
          cases found : app.trafficEngineerRuleMap.get? (.id datapath) with
          | none => simp [found]
          | some rules =>
              simp only [found] at before
              simp [found, other, before]
  | switchFeatures datapath =>
      rw [DDoSSimulationAPP.step, switchFeaturesHandler_eq]
      intro other
      have before := undefended other
      simp only [ruleSet, addFlowMissRule, addFlow, sendMsg, Dict.get?_set] at before ⊢
      by_cases same : DatapathKey.id datapath = .id other
      · simp only [same, if_true]
        decide
      · simpa [same] using before
  | setIpWhiteTable dpid =>
      cases dpid with
      | none => exact undefended
      | some text =>
          -- The flag is stored under the text of the id, where no handler looks.
          intro datapath
          have before := undefended datapath
          show ruleSet { app with
            trafficEngineerRuleMap := app.trafficEngineerRuleMap.set (.text text) _ } datapath
              "ip_white_table" = false
          simpa [ruleSet] using before

end DDoSSimulationAPP

namespace Fabric

open DDoSSimulationAPP Execution

variable {K : Type} {cabling : Cabling} {format : FrameFormat} {datapath : Nat}
  {side : Device → Prop} {data : List UInt8}

/-- The frame has reached devices of the side only, and the switch has not handed it over. -/
structure Contained (datapath : Nat) (side : Device → Prop) (data : List UInt8)
    (fabric : Fabric K) : Prop where
  wires : ∀ transit ∈ fabric.wires, transit.data = data → side transit.target
  packetIns : ∀ message ∈ fabric.packetIns, message.data = data →
    message.datapath ≠ datapath ∧ side (.switch message.datapath)
  commands : ∀ entry ∈ fabric.commands, ∀ body, entry.2 = .packetOut body →
    body.data = some data → entry.1 ≠ datapath ∧ side (.switch entry.1)
  arrivals : ∀ entry ∈ fabric.arrivals, entry.2 = data → side entry.1

/-- The devices of the side are linked to others by the switch only. -/
def Closed (cabling : Cabling) (datapath : Nat) (side : Device → Prop) : Prop :=
  ∀ device, side device → device ≠ .switch datapath →
    ∀ other ∈ cabling.neighbours device, side other

/-- What a switch of the side, but for the one, does with the frame. -/
theorem Contained.apply {fabric : Fabric K} (contained : Contained datapath side data fabric)
    (closed : Closed cabling datapath side) {other : Nat} {carried : List UInt8}
    (within : carried = data → other ≠ datapath ∧ side (.switch other)) (inPort : Nat)
    (normal : List Device) (actions : List OFPAction) :
    Contained datapath side data
      (Fabric.apply cabling format other inPort carried normal actions fabric) := by
  rw [apply_eq]
  refine { contained with wires := ?_, packetIns := ?_ }
  · intro transit member same
    rcases List.mem_append.mp member with old | new
    · exact contained.wires transit old same
    · obtain ⟨action, _, sent⟩ := List.mem_flatMap.mp new
      split at sent
      · cases sent
      · obtain ⟨next, onward, rfl⟩ := List.mem_map.mp sent
        obtain ⟨apart, inside⟩ := within same
        exact closed _ inside (by simpa using apart) next (mem_egress onward).1
  · intro message member same
    rcases List.mem_append.mp member with old | new
    · exact contained.packetIns message old same
    · obtain ⟨action, _, sent⟩ := List.mem_flatMap.mp new
      split at sent
      · obtain rfl := List.mem_singleton.mp sent
        exact within same
      · cases sent

/-- The messages for a packet-in carry its packet at most, and go where it came from. -/
theorem forwardMessages_packet {event : PacketIn} {dst src : String} {outPort : Nat}
    {entry : Nat × Message} (member : entry ∈ forwardMessages event dst src outPort)
    {body : OFPPacketOut} (packet : entry.2 = .packetOut body) (carries : body.data = some data) :
    entry.1 = event.datapath ∧ event.data = data := by
  rcases forwardMessages_cases member with rfl | rfl
  · cases packet
  · cases packet
    simp only at carries
    split at carries
    · exact ⟨rfl, Option.some.inj carries⟩
    · cases carries

/-- Rules carry no packets. -/
theorem Installs.packets {rule : Nat → OFPMatch → List OFPAction → Prop}
    {before after : DDoSSimulationAPP K} (installs : Installs rule before after) :
    ∃ rules, after.sent = before.sent ++ rules ∧
      ∀ entry ∈ rules, ∀ body, entry.2 ≠ .packetOut body := by
  obtain ⟨rules, sent, additions⟩ := installs.sent
  refine ⟨rules, sent, fun entry member body packet => ?_⟩
  obtain ⟨priority, fields, actions, same, _⟩ := additions entry member
  rw [same] at packet
  cases packet

variable [EntropyArithmetic K]

/-- The controller sends the frame to switches of the side only. -/
theorem Contained.serve {fabric : Fabric K} (contained : Contained datapath side data fabric)
    (event : DDoSSimulationAPP.Event) {messages : List (Nat × Message)}
    (sent : (DDoSSimulationAPP.step fabric.app event).sent = fabric.app.sent ++ messages)
    (packets : ∀ entry ∈ messages, ∀ body, entry.2 = .packetOut body →
      body.data = some data → entry.1 ≠ datapath ∧ side (.switch entry.1)) :
    Contained datapath side data (Fabric.serve event fabric) := by
  refine { contained with commands := fun entry member => ?_ }
  rcases List.mem_append.mp member with old | new
  · exact contained.commands entry old
  · rw [drop_sent sent] at new
    exact packets entry new

/-- The step lemma: the frame enters the network at the side, and the switch drops it. -/
theorem Contained.step {fabric : Fabric K} (contained : Contained datapath side data fabric)
    (closed : Closed cabling datapath side)
    (drops : side (.switch datapath) → ∀ inPort entry,
      handler (fabric.tables datapath) (format.received inPort data) entry = [])
    {event : FabricEvent}
    (inside : ∀ address, event = .inject address data → side (.host address)) :
    Contained datapath side data (Fabric.step cabling format fabric event) := by
  cases event with
  | inject address carried =>
      refine { contained with wires := fun transit member same => ?_ }
      rcases List.mem_append.mp member with old | new
      · exact contained.wires transit old same
      · obtain ⟨next, linked, rfl⟩ := List.mem_map.mp new
        subst same
        exact closed _ (inside address rfl) (by simp) next linked
  | arrive index entry normal =>
      cases found : fabric.wires[index]? with
      | none => simpa [Fabric.step, found] using contained
      | some transit =>
          obtain ⟨source, target, carried⟩ := transit
          have rides := contained.wires _ (List.mem_of_getElem? found)
          have taken : Contained datapath side data
              { fabric with
                wires := fabric.wires.eraseIdx index
                arrivals := fabric.arrivals ++ [(target, carried)] } :=
            { contained with
              wires := fun other member => contained.wires other (List.mem_of_mem_eraseIdx member)
              arrivals := fun other member => by
                rcases List.mem_append.mp member with old | new
                · exact contained.arrivals other old
                · rw [List.mem_singleton.mp new]
                  exact rides }
          simp only [Fabric.step, found, arrive]
          cases target with
          | host address => exact taken
          | switch other =>
              by_cases dropped : carried = data ∧ other = datapath
              · obtain ⟨rfl, rfl⟩ := dropped
                simp only
                rw [drops (rides rfl)]
                exact taken
              · refine taken.apply closed (fun same => ?_) _ normal _
                exact ⟨fun here => dropped ⟨same, here⟩, rides same⟩
  | control index =>
      cases found : fabric.packetIns[index]? with
      | none => simpa [Fabric.step, found] using contained
      | some message =>
          have reported := contained.packetIns message (List.mem_of_getElem? found)
          have taken : Contained datapath side data
              { fabric with packetIns := fabric.packetIns.eraseIdx index } :=
            { contained with
              packetIns := fun other member =>
                contained.packetIns other (List.mem_of_mem_eraseIdx member) }
          obtain ⟨rules, installed, plain⟩ :=
            Installs.packets (packetIn_installs message fabric.app)
          obtain same | ⟨dst, src, _, _, same⟩ := relayed_cases message fabric.app
          · rw [same] at installed
            simpa [Fabric.step, found] using taken.serve (.packetIn message) installed
              fun entry member body packet => absurd packet (plain entry member body)
          · rw [same, forward_eq] at installed
            have logged := installed.trans (List.append_assoc _ _ _)
            simpa [Fabric.step, found] using taken.serve (.packetIn message) logged
              fun entry member body packet carries => by
                rcases List.mem_append.mp member with forwarded | rule
                · obtain ⟨here, same⟩ := forwardMessages_packet forwarded packet carries
                  exact here ▸ reported same
                · exact absurd packet (plain entry rule body)
  | execute index normal =>
      cases found : fabric.commands[index]? with
      | none => simpa [Fabric.step, found] using contained
      | some command =>
          obtain ⟨other, message⟩ := command
          have sent := contained.commands _ (List.mem_of_getElem? found)
          have taken : Contained datapath side data
              { fabric with
                commands := fabric.commands.eraseIdx index
                tables := fun switch => if switch = other then
                  message.apply (fabric.tables other) else fabric.tables switch } :=
            { contained with
              commands := fun entry member =>
                contained.commands entry (List.mem_of_mem_eraseIdx member) }
          cases message with
          | flowMod body => simpa [Fabric.step, found, execute] using taken
          | packetOut body =>
              cases carried : body.data with
              | none => simpa [Fabric.step, found, execute, carried] using taken
              | some packet =>
                  simp only [Fabric.step, found, execute, carried]
                  refine taken.apply closed (fun same => ?_) _ normal _
                  exact sent body rfl (same ▸ carried)
  | request event =>
      have served (other : ∀ message, event ≠ .packetIn message) :
          Contained datapath side data (Fabric.serve event fabric) := by
        obtain ⟨rules, installed, plain⟩ := Installs.packets (step_installs fabric.app other)
        exact contained.serve event installed fun entry member body packet =>
          absurd packet (plain entry member body)
      cases event with
      | packetIn message => exact contained
      | switchFeatures datapath => exact served (by simp)
      | protocolForbid body => exact served (by simp)
      | setIpWhiteTable dpid => exact served (by simp)
      | trafficEntropy => exact served (by simp)

omit [EntropyArithmetic K] in
/-- Of the priority of a ban and above there are only drops. -/
theorem ban_only {discipline : Discipline cabling format} {priority : Nat} {fields : OFPMatch}
    {actions : List OFPAction} (high : 3 ≤ priority)
    (holds : SwitchRule BanRule discipline datapath priority fields actions) : actions = [] := by
  cases holds with
  | learned leads => cases high
  | given sent =>
      cases sent with
      | miss => cases high
      | ban ipProto => rfl

omit [EntropyArithmetic K] in
/-- A switch that holds the drop flow drops the frames of the protocol. -/
theorem banned_handler {discipline : Discipline cabling format} {table : SwitchTable}
    (conforms : FlowTable.Conforms (SwitchRule BanRule discipline datapath) table)
    {protocol : BannedProtocol}
    (banned : table.get? (3, protocolMatch protocol.number) = some []) {frame : Frame}
    (carries : Carries frame protocol) (entry : Nat) : handler table frame entry = [] := by
  obtain dropped | ⟨slot, handles⟩ := handler_cases table frame entry
  · exact dropped
  · have above : 3 ≤ slot.1 := handles.highest 3 _ [] banned (protocolMatch_admits.mpr carries)
    exact ban_only above (conforms slot.1 slot.2 _ handles.installed)

/-- The event is no request for the whitelist defence. -/
def LeavesUndefended : FabricEvent → Prop
  | .request event => DDoSSimulationAPP.LeavesUndefended event
  | _ => True

/-- All along a run without the defence. -/
structure Plain (cabling : Cabling) (format : FrameFormat) (fabric : Fabric K) : Prop where
  disciplined : Disciplined BanRule (physical cabling format) fabric
  undefended : Undefended fabric.app

theorem Plain.step {fabric : Fabric K} (plain : Plain cabling format fabric) {event : FabricEvent}
    (leaves : LeavesUndefended event) :
    Plain cabling format (Fabric.step cabling format fabric event) := by
  refine ⟨plain.disciplined.step (physical_abides event) ?_, ?_⟩
  · cases event with
    | control index =>
        exact fun message _ => (packetIn_undefended plain.undefended message).2
    | request event =>
        exact fun noPacket => (step_installs fabric.app noPacket).mono fun _ _ _ => MissRule.ban
    | _ => trivial
  · obtain same | ⟨message, member, same⟩ | ⟨request, rfl, _, same⟩ := app_step fabric event
    · rw [same]
      exact plain.undefended
    · rw [same]
      exact (packetIn_undefended plain.undefended message).1
    · rw [same]
      exact plain.undefended.step leaves

omit [EntropyArithmetic K] in
theorem plain_init : Plain cabling format (init : Fabric K) :=
  ⟨disciplined_init, undefended_init⟩

/-- A switch keeps the drop flow of a ban. -/
theorem banned_step {fabric : Fabric K} (plain : Plain cabling format fabric)
    {protocol : BannedProtocol}
    (banned : (fabric.tables datapath).get? (3, protocolMatch protocol.number) = some [])
    (event : FabricEvent) :
    ((Fabric.step cabling format fabric event).tables datapath).get?
      (3, protocolMatch protocol.number) = some [] := by
  obtain same | ⟨message, member, same⟩ := tables_step fabric event datapath
  · rw [same, banned]
  · rw [same]
    exact (plain.disciplined.commands _ member).keeps (fun _ => ban_only (Nat.le_refl 3)) banned

/-- The run lemma. -/
theorem run_contained {fabric : Fabric K} (plain : Plain cabling format fabric)
    {protocol : BannedProtocol}
    (banned : (fabric.tables datapath).get? (3, protocolMatch protocol.number) = some [])
    (contained : Contained datapath side data fabric)
    (closed : Closed cabling datapath side) (carries : Carries (format.fields data) protocol)
    {events : List FabricEvent} (leaves : ∀ event ∈ events, LeavesUndefended event)
    (inside : ∀ address, .inject address data ∈ events → side (.host address)) :
    Contained datapath side data (run (step cabling format) fabric events) := by
  induction events generalizing fabric with
  | nil => exact contained
  | cons event rest inductionHypothesis =>
      have leave := leaves event List.mem_cons_self
      refine inductionHypothesis (plain.step leave) (banned_step plain banned event) ?_
        (fun other member => leaves other (List.mem_cons_of_mem _ member))
        (fun address member => inside address (List.mem_cons_of_mem _ member))
      refine contained.step closed (fun _ inPort entry => ?_)
        (fun address same => inside address (same ▸ List.mem_cons_self))
      have received : Carries (format.received inPort data) protocol := carries
      exact banned_handler (plain.disciplined.tables datapath) banned received entry

/-- A frame that was not injected is nowhere. -/
theorem contained_of_fresh {events : List FabricEvent} (fresh : data ∉ injections events) :
    Contained datapath side data (run (step cabling format) (init : Fabric K) events) := by
  have nowhere : Contained datapath (fun _ => False) data
      (run (step cabling format) (init : Fabric K) events) := by
    refine run_invariant_of_mem _ (fun fabric event member contained => ?_) ?_
    · refine contained.step (fun _ inside => inside.elim) (fun inside => inside.elim)
        fun address same => fresh ?_
      exact List.mem_filterMap.mpr ⟨event, member, by rw [same]⟩
    · constructor <;> simp [init]
  exact {
    wires := fun transit member same => (nowhere.wires transit member same).elim
    packetIns := fun message member same => (nowhere.packetIns message member same).2.elim
    commands := fun entry member body packet carries =>
      (nowhere.commands entry member body packet carries).2.elim
    arrivals := fun entry member same => (nowhere.arrivals entry member same).elim }

/-- Once a switch holds the drop flow of a protocol, and while the whitelist defence is not asked
for, a frame of the protocol stays among the devices that its senders are linked to without this
switch, and the switch. -/
theorem ban_isolates {boot events : List FabricEvent} {protocol : BannedProtocol}
    (leaves : ∀ event ∈ boot ++ events, LeavesUndefended event)
    (banned : ((run (step cabling format) (init : Fabric K) boot).tables datapath).get?
      (3, protocolMatch protocol.number) = some [])
    (carries : Carries (format.fields data) protocol) (fresh : data ∉ injections boot)
    (closed : Closed cabling datapath side)
    (inside : ∀ address, .inject address data ∈ events → side (.host address)) :
    ∀ device, (device, data) ∈
      (run (step cabling format) (init : Fabric K) (boot ++ events)).arrivals → side device := by
  have plain : Plain cabling format (run (step cabling format) (init : Fabric K) boot) :=
    run_invariant_of_mem (Plain cabling format)
      (fun _ event member known => known.step (leaves event (List.mem_append_left _ member)))
      plain_init
  have contained := run_contained plain banned (contained_of_fresh fresh) closed carries
    (fun event member => leaves event (List.mem_append_right _ member)) inside
  rw [← run_append] at contained
  exact fun device arrived => contained.arrivals _ arrived rfl

/-- Pings go from "a" to "b". -/
def pings : FrameFormat where
  fields _ := ⟨0, "b", "a", ethTypeIp, some ipprotoIcmp, none⟩
  protocols _ := .ok [.ethernet "b" "a" ethTypeIp, .other]
  agrees {data headers dst src ethertype} parsed named := by
    cases parsed
    cases (Option.some.inj named : ("b", "a", ethTypeIp) = (dst, src, ethertype))
    exact ⟨rfl, rfl⟩

/-- ICMP is banned, and the drop flow installed on the first ping. -/
def banPings : List FabricEvent :=
  handshake ++ .request (.protocolForbid icmpRequest) ::
    [.inject "a" [0], .arrive 0 0 [], .control 0, .execute 1 []]

theorem pings_stay_home :
    let after := run (step twoHosts pings) (init : Fabric Rat)
      (banPings ++ [.inject "a" [1], .arrive 0 0 []])
    (.switch 1, [1]) ∈ after.arrivals ∧
      ∀ device, (device, [1]) ∈ after.arrivals → device = .host "a" ∨ device = .switch 1 := by
  have banned : ((run (step twoHosts pings) (init : Fabric Rat) banPings).tables 1).get?
      (3, protocolMatch BannedProtocol.icmp.number) = some [] := by decide +kernel
  have carries : Carries (pings.fields [1]) .icmp := ⟨rfl, rfl⟩
  have closed : Closed twoHosts 1 fun device => device = .host "a" ∨ device = .switch 1 := by
    rintro device (rfl | rfl) apart other linked
    · rcases mem_twoHosts linked with ⟨one, _⟩ | ⟨_, one⟩
      · cases one
      · exact .inr one
    · exact absurd rfl apart
  have asks : forbids? icmpRequest = some "ICMP" := by rfl
  refine ⟨by decide +kernel, ban_isolates ?_ banned carries (by decide) closed ?_⟩
  · simp [banPings, handshake, LeavesUndefended, DDoSSimulationAPP.LeavesUndefended, asks]
  · intro address member
    simp only [List.mem_cons, FabricEvent.inject.injEq, List.not_mem_nil, reduceCtorEq, or_false,
      and_true] at member
    exact .inl (by rw [member])

end Fabric
end NetworkAdapter
