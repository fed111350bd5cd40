import NetworkAdapter.Controller.Handling

/-!
# The rules the controller installs

Apart from the flows of learned addresses, what the controller sends to a switch
are instances of five fixed rules. `Sends` is a change that teaches no address
and sends such rules only; everything an event does, forwarding apart, is one.
-/

namespace NetworkAdapter.DDoSSimulationAPP

variable {K : Type}

/-- The rules of the installers other than address learning; the table-miss rule
is among them if `missRule` says so. -/
inductive FixedRule (missRule : Prop) : Nat → OFPMatch → List OFPAction → Prop where
  | miss (installed : missRule) : FixedRule missRule 0 {} toController
  | dropAll : FixedRule missRule 2 {} []
  | ban (ipProto : Nat) : FixedRule missRule 3 (protocolMatch ipProto) []
  | allowed (ip : String) : FixedRule missRule 4 (whiteMatch ip) (outputTo ofppNormal)
  | sampling : FixedRule missRule 99 {} toController

theorem FixedRule.mono {missRule other : Prop} (implies : missRule → other) {priority : Nat}
    {fields : OFPMatch} {actions : List OFPAction}
    (fixed : FixedRule missRule priority fields actions) :
    FixedRule other priority fields actions := by
  cases fixed with
  | miss installed => exact .miss (implies installed)
  | dropAll => exact .dropAll
  | ban ipProto => exact .ban ipProto
  | allowed ip => exact .allowed ip
  | sampling => exact .sampling

/-- No fixed rule takes the slot of a learned flow. -/
theorem FixedRule.spares_learned {missRule : Prop} {priority inPort : Nat} {dst src : String}
    {actions : List OFPAction} :
    ¬ FixedRule missRule priority (learnedMatch inPort dst src) actions := by
  intro fixed
  generalize same : learnedMatch inPort dst src = fields at fixed
  cases fixed <;> simp [learnedMatch, protocolMatch, whiteMatch] at same

theorem flowAddition_adds {rule : Nat → OFPMatch → List OFPAction → Prop} {priority : Nat}
    {fields : OFPMatch} {actions : List OFPAction} (holds : rule priority fields actions) :
    (flowAddition priority fields actions).Adds rule :=
  .flow rfl holds

theorem defenceMessages_adds {missRule : Prop} (datapath : Nat) (ips : List String) (icmp : Bool) :
    ∀ entry ∈ defenceMessages datapath ips icmp, entry.2.Adds (FixedRule missRule) := by
  intro entry member
  obtain ⟨ip, _, rfl⟩ | rfl | rfl := defenceMessages_cases member
  · exact flowAddition_adds (.allowed ip)
  · exact flowAddition_adds .dropAll
  · exact flowAddition_adds (.ban ipprotoIcmp)

/-- Nothing is learned, and what is sent are fixed rules, the table-miss rule among
them only to the switches `missed` names. -/
structure Sends (missed : Nat → Prop) (before after : DDoSSimulationAPP K) : Prop where
  macToPort : after.macToPort = before.macToPort
  sent : ∃ messages, after.sent = before.sent ++ messages ∧
    ∀ entry ∈ messages, entry.2.Adds (FixedRule (missed entry.1))

namespace Sends

variable {missed : Nat → Prop} {before middle after : DDoSSimulationAPP K}

theorem trans (first : Sends missed before middle) (second : Sends missed middle after) :
    Sends missed before after := by
  obtain ⟨firstMessages, firstSent, firstAdds⟩ := first.sent
  obtain ⟨secondMessages, secondSent, secondAdds⟩ := second.sent
  refine ⟨second.macToPort.trans first.macToPort,
    firstMessages ++ secondMessages, by rw [secondSent, firstSent, List.append_assoc], ?_⟩
  intro entry member
  exact (List.mem_append.mp member).elim (firstAdds entry) (secondAdds entry)

theorem of_same (macToPort : after.macToPort = before.macToPort)
    (sent : after.sent = before.sent) : Sends missed before after :=
  ⟨macToPort, [], by simp [sent], by simp⟩

theorem one (macToPort : after.macToPort = before.macToPort) {entry : Nat × Message}
    (sent : after.sent = before.sent ++ [entry])
    (adds : entry.2.Adds (FixedRule (missed entry.1))) : Sends missed before after :=
  ⟨macToPort, [entry], sent, fun _ member => List.mem_singleton.mp member ▸ adds⟩

/-- A slot keeps what it held or takes a fixed rule. -/
theorem get?_flows (sends : Sends missed before after) (datapath : Nat) (slot : Nat × OFPMatch) :
    (after.flows datapath).get? slot = (before.flows datapath).get? slot ∨
      ∃ actions, (after.flows datapath).get? slot = some actions ∧
        FixedRule (missed datapath) slot.1 slot.2 actions := by
  obtain ⟨messages, sent, adds⟩ := sends.sent
  rw [flows, flows, sent, tableAfter_append]
  exact get?_applyAll (fun entry member same => same ▸ adds entry member) _ slot

end Sends

/-- The installers other than the handshake, and what never installs anything, send
no table-miss rule. -/
abbrev SendsOther (before after : DDoSSimulationAPP K) : Prop := Sends (fun _ => False) before after

theorem enforceBans_sends (event : PacketIn) (app : DDoSSimulationAPP K) :
    SendsOther app (enforceBans event app) := by
  obtain ⟨rules, messages, unfolded, bans⟩ := enforceBans_bans event app
  rw [unfolded]
  refine ⟨rfl, messages, rfl, ?_⟩
  intro entry member
  obtain ⟨ipProto, rfl⟩ := bans entry member
  exact flowAddition_adds (.ban ipProto)

/-- A packet that parses is learned from and forwarded; beyond that, fixed rules may be sent. -/
def Switches (event : PacketIn) (before after : DDoSSimulationAPP K) : Prop :=
  match ethernetHeader event with
  | .ok header => SendsOther (switched event header before) after
  | .error _ => SendsOther before after

theorem Switches.trans {event : PacketIn} {before middle after : DDoSSimulationAPP K}
    (switches : Switches event before middle) (sends : SendsOther middle after) :
    Switches event before after := by
  unfold Switches at *
  cases parsed : ethernetHeader event with
  | ok header =>
      simp only [parsed] at switches ⊢
      exact Sends.trans switches sends
  | error error =>
      simp only [parsed] at switches ⊢
      exact Sends.trans switches sends

/-- What the inherited handler leaves alone; all it sends is the packet's own forwarding. -/
structure Forwards (event : PacketIn) (before after : DDoSSimulationAPP K) : Prop where
  trafficEngineerRuleMap : after.trafficEngineerRuleMap = before.trafficEngineerRuleMap
  datapathInfoMap : after.datapathInfoMap = before.datapathInfoMap
  isDDoSAttacking : after.isDDoSAttacking = before.isDDoSAttacking
  sent : ∃ messages, after.sent = before.sent ++ messages ∧
    ∀ entry ∈ messages, ∃ dst src outPort, entry ∈ forwardMessages event dst src outPort

theorem switched_forwards (event : PacketIn) (header : String × String × Nat)
    (app : DDoSSimulationAPP K) : Forwards event app (switched event header app) := by
  unfold switched
  split
  · exact ⟨rfl, rfl, rfl, [], by simp, by simp⟩
  · rw [forward_eq]
    exact ⟨rfl, rfl, rfl, _, rfl, fun entry member => ⟨_, _, _, member⟩⟩

theorem switchMacToPort_switches (event : PacketIn) (app : DDoSSimulationAPP K) :
    Switches event app ((switchMacToPort event).leaves app) := by
  unfold Switches Effect.leaves
  rw [switchMacToPort_run]
  cases ethernetHeader event with
  | ok header => exact .of_same rfl rfl
  | error error => exact .of_same rfl rfl

/-- The same switches are registered and the same keys have rules. -/
structure SameSwitches (before after : DDoSSimulationAPP K) : Prop where
  datapathInfoMap : after.datapathInfoMap = before.datapathInfoMap
  ruleKeys : ∀ key, (after.trafficEngineerRuleMap.get? key).isSome =
    (before.trafficEngineerRuleMap.get? key).isSome

theorem SameSwitches.trans {before middle after : DDoSSimulationAPP K}
    (first : SameSwitches before middle) (second : SameSwitches middle after) :
    SameSwitches before after :=
  ⟨second.datapathInfoMap.trans first.datapathInfoMap,
    fun key => (second.ruleKeys key).trans (first.ruleKeys key)⟩

/-- A ban is carried out for a switch that has rules, and only changes these. -/
theorem enforce_sameSwitches (name : String) (ipProto : Nat) (event : PacketIn)
    (app : DDoSSimulationAPP K) :
    SameSwitches app (enforce name (addFlowDrop ipProto) event app) := by
  unfold enforce
  split
  · next set =>
      refine ⟨rfl, fun key => ?_⟩
      simp only [Dict.get?_set]
      split
      · next same =>
          subst same
          unfold ruleSet at set
          split at set
          · next rules found => simp [found]
          · cases set
      · rfl
  · exact ⟨rfl, fun _ => rfl⟩

variable [EntropyArithmetic K]

theorem createDefenseFlowRule_sends (event : PacketIn) (app : DDoSSimulationAPP K) :
    SendsOther app (createDefenseFlowRule event app) := by
  rw [createDefenseFlowRule_eq]
  exact ⟨rfl, _, rfl, defenceMessages_adds event.datapath _ _⟩

theorem samplePacketIn_switches (event : PacketIn) (app : DDoSSimulationAPP K) :
    Switches event app ((samplePacketIn event).leaves app) := by
  have sampled := samplePacketIn_sampled event app
  unfold Switches Effect.leaves
  generalize (samplePacketIn event).run app = result at sampled
  cases sampled with
  | unparsed raises =>
      simp only [raises]
      exact .of_same rfl rfl
  | passed parses between =>
      simp only [parses]
      exact .of_same rfl rfl
  | refused parses decoded due raises =>
      simp only [parses]
      exact .of_same rfl rfl
  | counted parses decoded due sampled few =>
      simp only [parses]
      exact .of_same rfl rfl
  | @windowed header protocols sample parses decoded due sampled enough =>
      simp only [parses]
      obtain ⟨computed, does⟩ := processSampleQueue_computed
        { queueSample protocols sample (switched event header app) with packetCount := 0 }
      exact .of_same does.macToPort does.sent

theorem processSampleQueue_datapathInfoMap (app : DDoSSimulationAPP K) :
    (processSampleQueue app).datapathInfoMap = app.datapathInfoMap := by
  obtain ⟨sources, ports, protocols, counted⟩ :=
    foldl_countSample app.sampleQueue { app with sampleQueue := [] }
  simp only [processSampleQueue, counted, publish, whitelistSources]
  split
  · split <;> rfl
  · rfl

theorem samplePacketIn_forwards (event : PacketIn) (app : DDoSSimulationAPP K) :
    Forwards event app ((samplePacketIn event).leaves app) := by
  have sampled := samplePacketIn_sampled event app
  unfold Effect.leaves
  generalize (samplePacketIn event).run app = result at sampled
  cases sampled with
  | unparsed raises => exact ⟨rfl, rfl, rfl, [], by simp, by simp⟩
  | @windowed header protocols sample parses decoded due sampled enough =>
      obtain ⟨rules, info, calm, sent⟩ := switched_forwards event header app
      obtain ⟨computed, does⟩ := processSampleQueue_computed
        { queueSample protocols sample (switched event header app) with packetCount := 0 }
      refine ⟨does.trafficEngineerRuleMap.trans rules,
        (processSampleQueue_datapathInfoMap _).trans info, does.isDDoSAttacking.trans calm, ?_⟩
      rw [does.sent]
      exact sent
  | @passed header =>
      obtain ⟨rules, info, calm, sent⟩ := switched_forwards event header app
      exact ⟨rules, info, calm, sent⟩
  | @refused header =>
      obtain ⟨rules, info, calm, sent⟩ := switched_forwards event header app
      exact ⟨rules, info, calm, sent⟩
  | @counted header =>
      obtain ⟨rules, info, calm, sent⟩ := switched_forwards event header app
      exact ⟨rules, info, calm, sent⟩

theorem packetIn_switches (event : PacketIn) (app : DDoSSimulationAPP K) :
    Switches event app (step app (.packetIn event)) := by
  refine (samplePacketIn_switches event app).trans ?_
  refine packetIn_after_sampling SendsOther event (fun _ => .of_same rfl rfl)
    (fun _ _ _ => Sends.trans) (fun _ => .of_same rfl rfl) (fun _ => .of_same rfl rfl) ?_
    (enforceBans_sends event) app
  exact fun app => (createDefenseFlowRule_sends event app).trans (.of_same rfl rfl)

/-- Any other event learns nothing and sends fixed rules only. -/
theorem step_sends (app : DDoSSimulationAPP K) (event : Event)
    (noPacket : ∀ message, event ≠ .packetIn message) :
    Sends (fun datapath => event = .switchFeatures datapath) app (step app event) := by
  have served := step_served app noPacket
  generalize step app event = after at served
  cases served with
  | protocolForbid body rules => exact .of_same rfl rfl
  | setIpWhiteTable dpid rules => exact .of_same rfl rfl
  | trafficEntropy => exact .of_same rfl rfl
  | switchFeatures datapath => exact .one rfl rfl (flowAddition_adds (.miss rfl))

/-- What is sent stays sent. -/
theorem step_sent (app : DDoSSimulationAPP K) (event : Event) :
    ∃ messages, (step app event).sent = app.sent ++ messages := by
  by_cases packet : ∃ message, event = .packetIn message
  · obtain ⟨message, rfl⟩ := packet
    have switches := packetIn_switches message app
    unfold Switches at switches
    split at switches
    · next header parsed =>
        obtain ⟨macToPort, first, unfolded⟩ := switched_eq message header app
        obtain ⟨second, sent, _⟩ := switches.sent
        rw [unfolded] at sent
        exact ⟨first ++ second, by rw [sent, List.append_assoc]⟩
    · obtain ⟨messages, sent, _⟩ := switches.sent
      exact ⟨messages, sent⟩
  · obtain ⟨messages, sent, _⟩ :=
      (step_sends app event fun message same => packet ⟨message, same⟩).sent
    exact ⟨messages, sent⟩

theorem packetIn_sameSwitches (event : PacketIn) (app : DDoSSimulationAPP K) :
    SameSwitches app (step app (.packetIn event)) := by
  have sampling := samplePacketIn_forwards event app
  have sampled : SameSwitches app ((samplePacketIn event).leaves app) :=
    ⟨sampling.datapathInfoMap, fun key => by rw [sampling.trafficEngineerRuleMap]⟩
  refine sampled.trans (packetIn_after_sampling SameSwitches event (fun _ => ⟨rfl, fun _ => rfl⟩)
    (fun _ _ _ => SameSwitches.trans) (fun _ => ⟨rfl, fun _ => rfl⟩) (fun _ => ⟨rfl, fun _ => rfl⟩)
    ?_ ?_ app)
  · intro before
    rw [createDefenseFlowRule_eq]
    exact ⟨rfl, fun _ => rfl⟩
  · intro before
    exact ((enforce_sameSwitches "ICMP" ipprotoIcmp event before).trans
      (enforce_sameSwitches "TCP" ipprotoTcp event _)).trans
        (enforce_sameSwitches "UDP" ipprotoUdp event _)

end NetworkAdapter.DDoSSimulationAPP
