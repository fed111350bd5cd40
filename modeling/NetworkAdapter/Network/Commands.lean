import NetworkAdapter.Controller.Learning
import NetworkAdapter.Controller.Observability
import NetworkAdapter.Network.Fabric

/-!
# What the controller sends in one step

A packet-in is answered by the messages that forward it and by fixed rules, all to
the switch it came from, the other events by fixed rules alone. The fixed rules of
a packet-in carry out flags of the rule map, so that nothing but forwarding is sent
while no flag is set, and no flag is set before a request for a ban.
-/

namespace NetworkAdapter.DDoSSimulationAPP

variable {K : Type}

/-- Addresses are not learned, and all that is sent are additions of instances of a rule. -/
structure Installs (rule : Nat → OFPMatch → List OFPAction → Prop)
    (before after : DDoSSimulationAPP K) : Prop where
  macToPort : after.macToPort = before.macToPort
  sent : ∃ rules, after.sent = before.sent ++ rules ∧ ∀ entry ∈ rules, ∃ priority fields actions,
    entry.2 = flowAddition priority fields actions ∧ rule priority fields actions

namespace Installs

variable {rule : Nat → OFPMatch → List OFPAction → Prop}
  {before middle after : DDoSSimulationAPP K}

theorem of_same (macToPort : after.macToPort = before.macToPort)
    (sent : after.sent = before.sent) : Installs rule before after :=
  ⟨macToPort, [], by simp [sent], by simp⟩

theorem mono {weaker : Nat → OFPMatch → List OFPAction → Prop}
    (implies : ∀ priority fields actions, rule priority fields actions →
      weaker priority fields actions) (installs : Installs rule before after) :
    Installs weaker before after := by
  obtain ⟨rules, sent, holds⟩ := installs.sent
  refine ⟨installs.macToPort, rules, sent, fun entry member => ?_⟩
  obtain ⟨priority, fields, actions, same, instanceOf⟩ := holds entry member
  exact ⟨priority, fields, actions, same, implies _ _ _ instanceOf⟩

theorem trans (first : Installs rule before middle) (second : Installs rule middle after) :
    Installs rule before after := by
  obtain ⟨rules, sent, fixed⟩ := first.sent
  obtain ⟨rules', sent', fixed'⟩ := second.sent
  refine ⟨second.macToPort.trans first.macToPort, rules ++ rules',
    by rw [sent', sent, List.append_assoc], ?_⟩
  intro entry member
  exact (List.mem_append.mp member).elim (fixed entry) (fixed' entry)

end Installs

theorem enforceBans_installs (event : PacketIn) (app : DDoSSimulationAPP K) :
    Installs SentRule app (enforceBans event app) := by
  obtain ⟨rules, messages, unfolded, bans⟩ := enforceBans_bans event app
  rw [unfolded]
  refine ⟨rfl, messages, rfl, fun entry member => ?_⟩
  obtain ⟨ipProto, rfl⟩ := bans entry member
  exact ⟨_, _, _, rfl, .ban ipProto⟩

/-- A packet that is not buffered is sent on, after the flow to its port if that is known. -/
theorem forwardMessages_unbuffered {event : PacketIn} (unbuffered : event.bufferId = ofpNoBuffer)
    (dst src : String) (outPort : Nat) :
    forwardMessages event dst src outPort =
      (if outPort = ofppFlood then []
        else [(event.datapath,
          flowAddition 0 (learnedMatch event.inPort dst src) (outputTo outPort))]) ++
        [(event.datapath, packetOut event (outputTo outPort))] := by
  by_cases flooded : outPort = ofppFlood <;> simp [forwardMessages, flooded, unbuffered]

/-- The application after the learning switch has done its part. -/
def relayed (event : PacketIn) (app : DDoSSimulationAPP K) : DDoSSimulationAPP K :=
  match ethernetHeader event with
  | .ok header => switched event header app
  | .error _ => app

/-- Nothing is done, or the source is learned and the packet forwarded. -/
theorem relayed_cases (event : PacketIn) (app : DDoSSimulationAPP K) :
    relayed event app = app ∨
      ∃ dst src ethertype, ethernetHeader event = .ok (dst, src, ethertype) ∧
        relayed event app = forward event dst src (learn event src app) := by
  unfold relayed switched
  split
  · next header parses =>
      split
      · exact .inl rfl
      · exact .inr ⟨header.1, header.2.1, header.2.2, parses, rfl⟩
  · exact .inl rfl

variable [EntropyArithmetic K]

theorem createDefenseFlowRule_installs (event : PacketIn) (app : DDoSSimulationAPP K) :
    Installs SentRule app (createDefenseFlowRule event app) := by
  rw [createDefenseFlowRule_eq]
  refine ⟨rfl, _, rfl, fun entry member => ?_⟩
  obtain ⟨ip, _, rfl⟩ | rfl | rfl := defenceMessages_cases member
  · exact ⟨_, _, _, rfl, .allowed ip⟩
  · exact ⟨_, _, _, rfl, .dropAll⟩
  · exact ⟨_, _, _, rfl, .ban ipprotoIcmp⟩

/-- Sampling neither learns nor sends. -/
theorem samplePacketIn_relays (event : PacketIn) (app : DDoSSimulationAPP K) :
    ((samplePacketIn event).leaves app).macToPort = (relayed event app).macToPort ∧
      ((samplePacketIn event).leaves app).sent = (relayed event app).sent := by
  have sampled := samplePacketIn_sampled event app
  unfold Effect.leaves relayed
  generalize (samplePacketIn event).run app = result at sampled
  cases sampled with
  | unparsed raises => simp [raises]
  | passed parses => simp [parses]
  | refused parses => simp [parses, queueSample]
  | counted parses => simp [parses, queueSample]
  | @windowed header protocols sample parses =>
      obtain ⟨computed, does⟩ := processSampleQueue_computed
        { queueSample protocols sample (switched event header app) with packetCount := 0 }
      simp only [parses]
      exact ⟨does.macToPort, does.sent⟩

/-- A packet-in is relayed; then fixed rules may follow. -/
theorem packetIn_installs (event : PacketIn) (app : DDoSSimulationAPP K) :
    Installs SentRule (relayed event app) (step app (.packetIn event)) := by
  obtain ⟨macToPort, sent⟩ := samplePacketIn_relays event app
  have sampled : Installs SentRule (relayed event app)
      ((samplePacketIn event).leaves app) :=
    .of_same macToPort sent
  refine sampled.trans (packetIn_after_sampling (Installs SentRule) event
    (fun _ => .of_same rfl rfl) (fun _ _ _ => Installs.trans) (fun _ => .of_same rfl rfl)
    (fun _ => .of_same rfl rfl) ?_
    (enforceBans_installs event) app)
  exact fun app => (createDefenseFlowRule_installs event app).trans (.of_same rfl rfl)

/-- Only what belongs to one switch is learned, and only that switch is sent something. -/
structure Concerns (datapath : Nat) (before after : DDoSSimulationAPP K) : Prop where
  ports : ∀ other, other ≠ datapath → after.learnedPorts other = before.learnedPorts other
  sent : ∃ messages, after.sent = before.sent ++ messages ∧ ∀ entry ∈ messages, entry.1 = datapath

omit [EntropyArithmetic K] in
theorem Concerns.trans {datapath : Nat} {before middle after : DDoSSimulationAPP K}
    (first : Concerns datapath before middle) (second : Concerns datapath middle after) :
    Concerns datapath before after := by
  obtain ⟨messages, sent, here⟩ := first.sent
  obtain ⟨messages', sent', here'⟩ := second.sent
  refine ⟨fun other apart => (second.ports other apart).trans (first.ports other apart),
    messages ++ messages', by rw [sent', sent, List.append_assoc], ?_⟩
  intro entry member
  exact (List.mem_append.mp member).elim (here entry) (here' entry)

omit [EntropyArithmetic K] in
theorem Concerns.of_same {datapath : Nat} {before after : DDoSSimulationAPP K}
    (macToPort : after.macToPort = before.macToPort) (sent : after.sent = before.sent) :
    Concerns datapath before after :=
  ⟨fun other _ => by rw [learnedPorts, learnedPorts, macToPort], [], by simp [sent], by simp⟩

omit [EntropyArithmetic K] in
theorem relayed_concerns (event : PacketIn) (app : DDoSSimulationAPP K) :
    Concerns event.datapath app (relayed event app) := by
  obtain same | ⟨dst, src, _, _, same⟩ := relayed_cases event app
  · rw [same]
    exact .of_same rfl rfl
  · rw [same, forward_eq]
    refine ⟨fun other apart => ?_, _, rfl, fun entry member => ?_⟩
    · have elsewhere : formatDpid event.datapath ≠ formatDpid other :=
        fun equal => apart (formatDpid_injective equal).symm
      simp [learnedPorts, learn, elsewhere]
    · rcases forwardMessages_cases member with rfl | rfl <;> rfl

/-- A packet-in concerns the switch it comes from. -/
theorem packetIn_concerns (event : PacketIn) (app : DDoSSimulationAPP K) :
    Concerns event.datapath app (step app (.packetIn event)) := by
  obtain ⟨macToPort, sent⟩ := samplePacketIn_relays event app
  have sampled : Concerns event.datapath app ((samplePacketIn event).leaves app) :=
    (relayed_concerns event app).trans (.of_same macToPort sent)
  refine sampled.trans (packetIn_after_sampling (Concerns event.datapath) event
    (fun _ => .of_same rfl rfl) (fun _ _ _ => Concerns.trans) (fun _ => .of_same rfl rfl)
    (fun _ => .of_same rfl rfl) (fun app => ?_) (fun app => ?_) app)
  · rw [createDefenseFlowRule_eq]
    refine ⟨fun _ _ => rfl, _, rfl, fun entry member => ?_⟩
    obtain ⟨ip, _, rfl⟩ | rfl | rfl := defenceMessages_cases member <;> rfl
  · obtain ⟨rules, messages, unfolded, bans⟩ := enforceBans_bans event app
    rw [unfolded]
    refine ⟨fun _ _ => rfl, messages, rfl, fun entry member => ?_⟩
    obtain ⟨ipProto, rfl⟩ := bans entry member
    rfl

/-- The table-miss rule. -/
inductive MissRule : Nat → OFPMatch → List OFPAction → Prop where
  | miss : MissRule 0 {} toController

theorem MissRule.sent {priority : Nat} {fields : OFPMatch} {actions : List OFPAction}
    (isMiss : MissRule priority fields actions) : SentRule priority fields actions := by
  cases isMiss
  exact .miss

/-- The other events send the table-miss rule at most. -/
theorem step_installs (app : DDoSSimulationAPP K) {event : Event}
    (noPacket : ∀ message, event ≠ .packetIn message) :
    Installs MissRule app (step app event) := by
  have served := step_served app noPacket
  generalize step app event = after at served
  cases served with
  | protocolForbid body rules => exact .of_same rfl rfl
  | setIpWhiteTable dpid rules => exact .of_same rfl rfl
  | trafficEntropy => exact .of_same rfl rfl
  | switchFeatures datapath =>
      refine ⟨rfl, [(datapath, flowAddition 0 {} toController)], rfl, fun entry member => ?_⟩
      rw [List.mem_singleton.mp member]
      exact ⟨_, _, _, rfl, .miss⟩

/-- No rule of any switch is switched on. -/
def RulesOff (app : DDoSSimulationAPP K) : Prop :=
  ∀ datapath name, app.ruleSet datapath name = false

omit [EntropyArithmetic K] in
theorem RulesOff.of_rules {before after : DDoSSimulationAPP K} (rulesOff : RulesOff before)
    (same : after.trafficEngineerRuleMap = before.trafficEngineerRuleMap) : RulesOff after := by
  intro datapath name
  rw [ruleSet, same]
  exact rulesOff datapath name

omit [EntropyArithmetic K] in
theorem enforceBans_rulesOff {app : DDoSSimulationAPP K} (rulesOff : RulesOff app)
    (event : PacketIn) : enforceBans event app = app := by
  have idle (name : String) (drop : PacketIn → DDoSSimulationAPP K → DDoSSimulationAPP K) :
      enforce name drop event app = app := by
    simp [enforce, rulesOff event.datapath name]
  simp [enforceBans, idle]

/-- Then a packet-in is relayed and nothing else is done for it. -/
theorem packetIn_rulesOff {app : DDoSSimulationAPP K} (rulesOff : RulesOff app) (event : PacketIn) :
    step app (.packetIn event) = (samplePacketIn event).leaves app := by
  have sampling := samplePacketIn_forwards event app
  have handled := packetInHandler_handled event app
  show (packetInHandler event).leaves app = _
  generalize (packetInHandler event).leaves app = after at handled
  have still {sampled : DDoSSimulationAPP K}
      (returns : (samplePacketIn event).run app = .ok () sampled) : RulesOff sampled := by
    rw [Effect.leaves_of_ok returns] at sampling
    exact rulesOff.of_rules sampling.trafficEngineerRuleMap
  cases handled with
  | refused raises => exact (Effect.leaves_of_error raises).symm
  | unguarded returns =>
      rw [Effect.leaves_of_ok returns, enforceBans_rulesOff (still returns)]
  | noted returns on => simp [still returns event.datapath] at on
  | alarmed returns on => simp [still returns event.datapath] at on
  | doubted returns on => simp [still returns event.datapath] at on
  | failed returns on => simp [still returns event.datapath] at on

omit [EntropyArithmetic K] in
/-- The rules a switch starts with are all off. -/
theorem RulesOff.register {app : DDoSSimulationAPP K} (rulesOff : RulesOff app) (datapath : Nat) :
    RulesOff { app with
      trafficEngineerRuleMap := app.trafficEngineerRuleMap.set (.id datapath) initialRules } := by
  intro other name
  have off : (initialRules.get? name == some true) = false := by
    have all : ∀ entry ∈ initialRules.entries, entry.2 = false := by decide
    cases found : initialRules.get? name with
    | none => rfl
    | some value =>
        obtain rfl : value = false := all (name, value) (Fields.mem_of_get? found)
        rfl
  have before := rulesOff other name
  simp only [ruleSet, Dict.get?_set] at before ⊢
  by_cases same : DatapathKey.id datapath = .id other
  · simpa [same] using off
  · simpa [same] using before

theorem packetIn_installs_of_rulesOff {app : DDoSSimulationAPP K} (rulesOff : RulesOff app)
    (event : PacketIn) : Installs MissRule (relayed event app) (step app (.packetIn event)) := by
  obtain ⟨macToPort, sent⟩ := samplePacketIn_relays event app
  rw [packetIn_rulesOff rulesOff]
  exact .of_same macToPort sent

omit [EntropyArithmetic K] in
theorem rulesOff_init : RulesOff (init : DDoSSimulationAPP K) := by
  intro datapath name
  simp [ruleSet, init]

/-- Only a request for a ban switches a rule on. -/
theorem RulesOff.step {app : DDoSSimulationAPP K} (rulesOff : RulesOff app) {event : Event}
    (noBan : ∀ body, event ≠ .protocolForbid body) : RulesOff (step app event) := by
  cases event with
  | packetIn message =>
      rw [packetIn_rulesOff rulesOff]
      exact rulesOff.of_rules (samplePacketIn_forwards message app).trafficEngineerRuleMap
  | protocolForbid body => exact absurd rfl (noBan body)
  | trafficEntropy => exact rulesOff
  | switchFeatures datapath =>
      rw [DDoSSimulationAPP.step, switchFeaturesHandler_eq]
      exact (rulesOff.register datapath).of_rules rfl
  | setIpWhiteTable dpid =>
      cases dpid with
      | none => exact rulesOff
      | some text =>
          -- The flag is stored under the text of the id, where no handler looks.
          intro datapath name
          have before := rulesOff datapath name
          show ruleSet { app with
            trafficEngineerRuleMap := app.trafficEngineerRuleMap.set (.text text) _ } datapath
              name = false
          simpa [ruleSet] using before

end NetworkAdapter.DDoSSimulationAPP
