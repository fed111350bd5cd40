import NetworkAdapter.Controller.Simulation
import NetworkAdapter.Semantics.Execution

/-!
# What handling a packet-in does

`Sampled` and `Handled` list the ways a packet-in can be handled, each with the
application it leaves; the modules on detection, defence and forwarding split
cases on them and never unfold the handlers. `processSampleQueue_computed` says
the same of a window.
-/

namespace NetworkAdapter.DDoSSimulationAPP

open EntropyArithmetic

variable {K : Type}

/-- What forwarding a packet sends: to a known port a flow, and the packet itself
unless it is buffered; otherwise the packet. -/
def forwardMessages (event : PacketIn) (dst src : String) (outPort : Nat) :
    List (Nat × Message) :=
  if outPort ≠ ofppFlood then
    (event.datapath, flowAddition 0 (learnedMatch event.inPort dst src) (outputTo outPort)) ::
      if event.bufferId ≠ ofpNoBuffer then []
      else [(event.datapath, packetOut event (outputTo outPort))]
  else [(event.datapath, packetOut event (outputTo outPort))]

/-- Forwarding sends flows of learned addresses and packets. -/
theorem forwardMessages_cases {event : PacketIn} {dst src : String} {outPort : Nat}
    {entry : Nat × Message} (member : entry ∈ forwardMessages event dst src outPort) :
    entry = (event.datapath,
        flowAddition 0 (learnedMatch event.inPort dst src) (outputTo outPort)) ∨
      entry = (event.datapath, packetOut event (outputTo outPort)) := by
  unfold forwardMessages at member
  split at member
  · rcases List.mem_cons.mp member with flow | packet
    · exact .inl flow
    · split at packet
      · cases packet
      · exact .inr (List.mem_singleton.mp packet)
  · exact .inr (List.mem_singleton.mp member)

theorem forward_eq (event : PacketIn) (dst src : String) (app : DDoSSimulationAPP K) :
    forward event dst src app =
      { app with
        sent := app.sent ++ forwardMessages event dst src
          (((app.learnedPorts event.datapath).get? dst).getD ofppFlood) } := by
  simp only [forward, forwardMessages, addFlow, sendMsg]
  split
  · split <;> simp
  · rfl

/-- The application once a parsed packet has taught its source and been forwarded;
a link discovery packet does neither. -/
def switched (event : PacketIn) (header : String × String × Nat) (app : DDoSSimulationAPP K) :
    DDoSSimulationAPP K :=
  if header.2.2 = ethTypeLldp then app
  else forward event header.1 header.2.1 (learn event header.2.1 app)

theorem switchMacToPort_run (event : PacketIn) (app : DDoSSimulationAPP K) :
    (switchMacToPort event).run app =
      match ethernetHeader event with
      | .ok header => .ok () (switched event header app)
      | .error error => .error error app := by
  cases parsed : ethernetHeader event with
  | error error => simp [switchMacToPort, parsed]
  | ok header =>
      by_cases discovery : header.2.2 = ethTypeLldp <;>
        simp [switchMacToPort, parsed, switched, discovery]

/-- Learning and forwarding touch the table of ports and the messages sent. -/
theorem switched_eq (event : PacketIn) (header : String × String × Nat)
    (app : DDoSSimulationAPP K) :
    ∃ macToPort messages, switched event header app =
      { app with macToPort := macToPort, sent := app.sent ++ messages } := by
  unfold switched
  split
  · exact ⟨app.macToPort, [], by simp⟩
  · rw [forward_eq]
    exact ⟨_, _, rfl⟩

/-- The application with the sample of a packet, if there is one, in the queue. -/
def queueSample (protocols : List Header) (sample : Option SampleData) (app : DDoSSimulationAPP K) :
    DDoSSimulationAPP K :=
  { app with
    sampleCount := 0
    protocolStatistic := countProtocol protocols app.protocolStatistic
    sampleQueue := sample.elim app.sampleQueue (putUnlessFull 100 app.sampleQueue) }

theorem ethernetHeader_protocols {event : PacketIn} {header : String × String × Nat}
    (parses : ethernetHeader event = .ok header) :
    ∃ protocols, event.protocols = .ok protocols := by
  unfold ethernetHeader at parses
  cases decoded : event.protocols with
  | ok protocols => exact ⟨protocols, rfl⟩
  | error error =>
      rw [decoded] at parses
      cases parses

/-- No id of the sampling list is ever the id of a datapath. -/
theorem sampleIfListed_eq (datapath : Nat) (app : DDoSSimulationAPP K) (dpid : String) :
    sampleIfListed datapath app dpid = app :=
  if_neg (by simp)

/-- A handshake registers the switch and sends the table-miss rule, nothing else. -/
theorem switchFeaturesHandler_eq (datapath : Nat) (app : DDoSSimulationAPP K) :
    switchFeaturesHandler datapath app = addFlowMissRule datapath { app with
      datapathInfoMap := app.datapathInfoMap.set datapath ⟨false⟩
      trafficEngineerRuleMap := app.trafficEngineerRuleMap.set (.id datapath) initialRules } := by
  simp [switchFeaturesHandler, samplingSwitchIdList, sampleIfListed_eq]

theorem forbidEverywhere_eq {protocol : Json} {app after : DDoSSimulationAPP K}
    (forbidden : forbidEverywhere protocol app = .ok after) :
    ∃ rules, after = { app with trafficEngineerRuleMap := rules } := by
  cases protocol with
  | str name =>
      cases forbidden
      exact ⟨_, rfl⟩
  | arr items =>
      simp only [forbidEverywhere] at forbidden
      split at forbidden <;> cases forbidden
      exact ⟨app.trafficEngineerRuleMap, rfl⟩
  | obj fields =>
      simp only [forbidEverywhere] at forbidden
      split at forbidden <;> cases forbidden
      exact ⟨app.trafficEngineerRuleMap, rfl⟩
  | _ =>
      cases forbidden
      exact ⟨app.trafficEngineerRuleMap, rfl⟩

/-- A protocol ban changes pending rules only. -/
theorem protocolForbid_leaves (body : Json) (app : DDoSSimulationAPP K) :
    ∃ rules, (protocolForbid body).leaves app = { app with trafficEngineerRuleMap := rules } := by
  cases dpid : body.subscript "dpid" with
  | error error => exact ⟨app.trafficEngineerRuleMap, by simp [protocolForbid, Effect.leaves, dpid]⟩
  | ok named =>
      cases protocol : body.subscript "protocol" with
      | error error =>
          exact ⟨app.trafficEngineerRuleMap,
            by simp [protocolForbid, Effect.leaves, dpid, protocol]⟩
      | ok banned =>
          by_cases null : named.equals .null = true
          · exact ⟨app.trafficEngineerRuleMap,
              by simp [protocolForbid, Effect.leaves, dpid, protocol, null]⟩
          · cases forbidden : forbidEverywhere banned app with
            | error error =>
                exact ⟨app.trafficEngineerRuleMap,
                  by simp [protocolForbid, Effect.leaves, dpid, protocol, null, forbidden]⟩
            | ok after =>
                obtain ⟨rules, rfl⟩ := forbidEverywhere_eq forbidden
                exact ⟨rules,
                  by simp [protocolForbid, Effect.leaves, dpid, protocol, null, forbidden]⟩

/-- Counting samples touches the three histograms. -/
theorem foldl_countSample (samples : List SampleData) (app : DDoSSimulationAPP K) :
    ∃ sources ports protocols, samples.foldl countSample app =
      { app with
        sourceIps := sources
        destinationPorts := ports
        protocolCount := protocols } := by
  induction samples generalizing app with
  | nil => exact ⟨app.sourceIps, app.destinationPorts, app.protocolCount, rfl⟩
  | cons sample rest inductionHypothesis =>
      obtain ⟨sources, ports, protocols, counted⟩ := inductionHypothesis (countSample app sample)
      exact ⟨sources, ports, protocols, counted⟩

/-- The three protocol bans at the end of the handler. -/
def enforceBans (event : PacketIn) (app : DDoSSimulationAPP K) : DDoSSimulationAPP K :=
  enforce "UDP" addFlowUdpDrop event (enforce "TCP" addFlowTcpDrop event
    (enforce "ICMP" addFlowIcmpDrop event app))

/-- The application with bans of some protocols sent to a switch, and pending rules changed. -/
def Bans (datapath : Nat) (before after : DDoSSimulationAPP K) : Prop :=
  ∃ rules messages, after =
      { before with trafficEngineerRuleMap := rules, sent := before.sent ++ messages } ∧
    ∀ entry ∈ messages, ∃ ipProto, entry = (datapath, flowAddition 3 (protocolMatch ipProto) [])

theorem Bans.trans {datapath : Nat} {before middle after : DDoSSimulationAPP K}
    (first : Bans datapath before middle) (second : Bans datapath middle after) :
    Bans datapath before after := by
  obtain ⟨_, firstMessages, rfl, firstBans⟩ := first
  obtain ⟨rules, secondMessages, rfl, secondBans⟩ := second
  refine ⟨rules, firstMessages ++ secondMessages, by simp, ?_⟩
  intro entry member
  exact (List.mem_append.mp member).elim (firstBans entry) (secondBans entry)

theorem enforce_bans (name : String) (ipProto : Nat) (event : PacketIn)
    (app : DDoSSimulationAPP K) :
    Bans event.datapath app (enforce name (addFlowDrop ipProto) event app) := by
  unfold enforce
  split
  · refine ⟨_, [(event.datapath, flowAddition 3 (protocolMatch ipProto) [])], rfl, ?_⟩
    intro entry member
    exact ⟨ipProto, List.mem_singleton.mp member⟩
  · exact ⟨app.trafficEngineerRuleMap, [], by simp, by simp⟩

theorem enforceBans_bans (event : PacketIn) (app : DDoSSimulationAPP K) :
    Bans event.datapath app (enforceBans event app) :=
  ((enforce_bans "ICMP" ipprotoIcmp event app).trans
    (enforce_bans "TCP" ipprotoTcp event _)).trans (enforce_bans "UDP" ipprotoUdp event _)

/-- The rules of a defence, in the order they are sent. -/
def defenceMessages (datapath : Nat) (ips : List String) (icmp : Bool) : List (Nat × Message) :=
  ips.map (fun ip => (datapath, flowAddition 4 (whiteMatch ip) (outputTo ofppNormal))) ++
    (datapath, flowAddition 2 {} []) ::
      if icmp then [(datapath, flowAddition 3 (protocolMatch ipprotoIcmp) [])] else []

/-- A defence consists of entries that allow addresses, the default drop and an ICMP ban. -/
theorem defenceMessages_cases {datapath : Nat} {ips : List String} {icmp : Bool}
    {entry : Nat × Message} (member : entry ∈ defenceMessages datapath ips icmp) :
    (∃ ip ∈ ips, entry = (datapath, flowAddition 4 (whiteMatch ip) (outputTo ofppNormal))) ∨
      entry = (datapath, flowAddition 2 {} []) ∨
        entry = (datapath, flowAddition 3 (protocolMatch ipprotoIcmp) []) := by
  rcases List.mem_append.mp member with allowed | rest
  · obtain ⟨ip, listed, rfl⟩ := List.mem_map.mp allowed
    exact .inl ⟨ip, listed, rfl⟩
  · rcases List.mem_cons.mp rest with dropAll | heavy
    · exact .inr (.inl dropAll)
    · cases icmp with
      | true => exact .inr (.inr (List.mem_singleton.mp heavy))
      | false => cases heavy

theorem foldl_addFlow (datapath priority : Nat) (rule : String → OFPMatch)
    (actions : List OFPAction) (ips : List String) (app : DDoSSimulationAPP K) :
    ips.foldl (fun app ip => addFlow datapath priority (rule ip) actions app) app =
      { app with
        sent := app.sent ++
          ips.map fun ip => (datapath, flowAddition priority (rule ip) actions) } := by
  induction ips generalizing app with
  | nil => simp
  | cons ip rest inductionHypothesis =>
      rw [List.foldl_cons, inductionHypothesis]
      simp [addFlow, sendMsg]

variable [EntropyArithmetic K]

/-- The ways the inherited handler can end. -/
inductive Sampled (event : PacketIn) (app : DDoSSimulationAPP K) :
    EStateM.Result PyError (DDoSSimulationAPP K) Unit → Prop where
  | unparsed {error : PyError} (raises : ethernetHeader event = .error error) :
      Sampled event app (.error error app)
  | passed {header : String × String × Nat} (parses : ethernetHeader event = .ok header)
      (between : (app.sampleCount + 1) % sampleRate ≠ 0) :
      Sampled event app
        (.ok () { switched event header app with sampleCount := app.sampleCount + 1 })
  | refused {header : String × String × Nat} {protocols : List Header} {error : PyError}
      (parses : ethernetHeader event = .ok header) (decoded : event.protocols = .ok protocols)
      (due : (app.sampleCount + 1) % sampleRate = 0)
      (raises : sampleOf protocols = .error error) :
      Sampled event app (.error error (queueSample protocols none (switched event header app)))
  | counted {header : String × String × Nat} {protocols : List Header}
      {sample : Option SampleData} (parses : ethernetHeader event = .ok header)
      (decoded : event.protocols = .ok protocols) (due : (app.sampleCount + 1) % sampleRate = 0)
      (sampled : sampleOf protocols = .ok sample) (few : ¬ 50 < app.packetCount + 1) :
      Sampled event app
        (.ok () { queueSample protocols sample (switched event header app) with
          packetCount := app.packetCount + 1 })
  | windowed {header : String × String × Nat} {protocols : List Header}
      {sample : Option SampleData} (parses : ethernetHeader event = .ok header)
      (decoded : event.protocols = .ok protocols) (due : (app.sampleCount + 1) % sampleRate = 0)
      (sampled : sampleOf protocols = .ok sample) (enough : 50 < app.packetCount + 1) :
      Sampled event app
        (.ok () (processSampleQueue { queueSample protocols sample (switched event header app) with
          packetCount := 0 }))

/-- The inherited handler ends in one of those ways. -/
theorem samplePacketIn_sampled (event : PacketIn) (app : DDoSSimulationAPP K) :
    Sampled event app ((samplePacketIn event).run app) := by
  cases parses : ethernetHeader event with
  | error error =>
      have raised : (samplePacketIn event).run app = .error error app := by
        simp [samplePacketIn, switchMacToPort_run, parses]
      rw [raised]
      exact .unparsed parses
  | ok header =>
      obtain ⟨protocols, decoded⟩ := ethernetHeader_protocols parses
      obtain ⟨macToPort, messages, unfolded⟩ := switched_eq event header app
      have sampleCount : (switched event header app).sampleCount = app.sampleCount := by
        rw [unfolded]
      have packetCount : (switched event header app).packetCount = app.packetCount := by
        rw [unfolded]
      by_cases due : (app.sampleCount + 1) % sampleRate = 0
      · cases sampled : sampleOf protocols with
        | error error =>
            have raised : (samplePacketIn event).run app =
                .error error (queueSample protocols none (switched event header app)) := by
              simp [samplePacketIn, switchMacToPort_run, parses, decoded, sampleCount, due, sampled,
                queueSample]
            rw [raised]
            exact .refused parses decoded due sampled
        | ok sample =>
            by_cases enough : 50 < app.packetCount + 1
            · have returned : (samplePacketIn event).run app =
                  .ok () (processSampleQueue
                    { queueSample protocols sample (switched event header app) with
                      packetCount := 0 }) := by
                cases sample <;>
                  simp [samplePacketIn, switchMacToPort_run, parses, decoded, sampleCount, due,
                    sampled, queueSample, packetCount, enough]
              rw [returned]
              exact .windowed parses decoded due sampled enough
            · have returned : (samplePacketIn event).run app =
                  .ok () { queueSample protocols sample (switched event header app) with
                    packetCount := app.packetCount + 1 } := by
                cases sample <;>
                  simp [samplePacketIn, switchMacToPort_run, parses, decoded, sampleCount, due,
                    sampled, queueSample, packetCount, enough]
              rw [returned]
              exact .counted parses decoded due sampled enough
      · have returned : (samplePacketIn event).run app =
            .ok () { switched event header app with sampleCount := app.sampleCount + 1 } := by
          simp [samplePacketIn, switchMacToPort_run, parses, sampleCount, due]
        rw [returned]
        exact .passed parses due

/-- The share of ICMP is above what the defence tolerates. -/
def icmpHeavy (app : DDoSSimulationAPP K) : Bool :=
  threeTenths < (app.currentProtocolRate.get? .icmp).getD 0

/-- Creating a defence sends its rules and notes them. -/
theorem createDefenseFlowRule_eq (event : PacketIn) (app : DDoSSimulationAPP K) :
    createDefenseFlowRule event app =
      let rules := defenceMessages event.datapath app.whiteIpTable.keys app.icmpHeavy
      { app with
        sent := app.sent ++ rules
        defence := rules } := by
  have installed : installDefense event app =
      { app with
        sent := app.sent ++
          defenceMessages event.datapath app.whiteIpTable.keys app.icmpHeavy } := by
    simp only [installDefense, addFlowWhiteTable, foldl_addFlow]
    by_cases heavy : threeTenths < (app.currentProtocolRate.get? .icmp).getD 0 <;>
      simp [defenceMessages, icmpHeavy, heavy, addFlowIcmpDrop, addFlowDrop, addFlow, sendMsg]
  simp only [createDefenseFlowRule, installed]
  simp

/-- What one window changes: it is published, every fourth one ends a group, and a
group that ends with low entropies puts its sources on the whitelist. -/
structure WindowComputed (before : DDoSSimulationAPP K) (computed : Window K)
    (after : DDoSSimulationAPP K) : Prop where
  windows : after.windows = before.windows ++ [computed]
  sourceIpsEntropy :
    after.currentSourceIpsEntropy = before.currentSourceIpsEntropy ++ [computed.sourceIpsEntropy]
  destinationPortsEntropy : after.currentDestinationPortsEntropy =
    before.currentDestinationPortsEntropy ++ [computed.destinationPortsEntropy]
  sampleStaticCount : after.sampleStaticCount =
    if 3 ≤ before.sampleStaticCount then 0 else before.sampleStaticCount + 1
  whiteIpTable : ∀ ip, ip ∈ after.whiteIpTable.keys ↔ ip ∈ before.whiteIpTable.keys ∨
    (3 ≤ before.sampleStaticCount ∧ computed.sourceIpsEntropy < half ∧
      computed.destinationPortsEntropy < half ∧ ip ∈ computed.sources)
  macToPort : after.macToPort = before.macToPort
  trafficEngineerRuleMap : after.trafficEngineerRuleMap = before.trafficEngineerRuleMap
  isDDoSAttacking : after.isDDoSAttacking = before.isDDoSAttacking
  ddosingCount : after.ddosingCount = before.ddosingCount
  sent : after.sent = before.sent

theorem processSampleQueue_computed (app : DDoSSimulationAPP K) :
    ∃ computed, WindowComputed app computed (processSampleQueue app) := by
  obtain ⟨sources, ports, protocols, counted⟩ :=
    foldl_countSample app.sampleQueue { app with sampleQueue := [] }
  refine ⟨⟨calculateEntropy sources, calculateEntropy ports, sources.keys⟩, ?_⟩
  simp only [processSampleQueue, counted]
  by_cases closing : 3 ≤ app.sampleStaticCount
  · have ends : app.sampleStaticCount + 1 > 3 := by omega
    simp only [publish, window, ends, if_true, whitelistSources]
    by_cases low : calculateEntropy sources < (half : K) ∧ calculateEntropy ports < (half : K)
    · constructor <;> simp [closing, low, Dict.mem_keys_foldl_set]
    · constructor <;> simp only [low, closing, if_true, if_false]
      intro ip
      exact ⟨.inl, fun known => known.elim id fun added => absurd ⟨added.2.1, added.2.2.1⟩ low⟩
  · have continues : ¬ app.sampleStaticCount + 1 > 3 := by omega
    simp only [publish, window, continues, if_false]
    constructor <;> simp [closing]

/-- `ip_white_table` in full. The recovery branch ends with the missing attribute. -/
theorem ipWhiteTable_run (event : PacketIn) (app : DDoSSimulationAPP K) :
    (ipWhiteTable event).run app =
      if (judge app).ddosingCount > 10 then
        if (judge app).isDDoSAttacking then .ok () (judge app)
        else .ok () { createDefenseFlowRule event (judge app) with isDDoSAttacking := true }
      else if (judge app).isDDoSAttacking then
        if (detectDdosByEntropy (judge app)).1 then .ok () (detectDdosByEntropy (judge app)).2
        else .error (.attributeError "ip_white_list") (detectDdosByEntropy (judge app)).2
      else .ok () (judge app) := by
  by_cases high : (judge app).ddosingCount > 10
  · by_cases attacking : (judge app).isDDoSAttacking = true <;>
      simp [ipWhiteTable, high, attacking]
  · by_cases attacking : (judge app).isDDoSAttacking = true
    · by_cases anomalous : (detectDdosByEntropy (judge app)).1 = true <;>
        simp [ipWhiteTable, high, attacking, anomalous, clearDefenseFlowRule, clearWhiteTable,
          ipWhiteList]
    · simp [ipWhiteTable, high, attacking]

/-- The end of the handler, unless the whitelist defence raised. -/
def bansUnlessRaised (event : PacketIn) :
    EStateM.Result PyError (DDoSSimulationAPP K) Unit → DDoSSimulationAPP K
  | .ok _ after => enforceBans event after
  | .error _ after => after

/-- The ways a packet-in can be handled, each with the application it leaves. -/
inductive Handled (event : PacketIn) (app : DDoSSimulationAPP K) : DDoSSimulationAPP K → Prop where
  | refused {error : PyError} {sampled : DDoSSimulationAPP K}
      (raises : (samplePacketIn event).run app = .error error sampled) :
      Handled event app sampled
  | unguarded {sampled : DDoSSimulationAPP K}
      (returns : (samplePacketIn event).run app = .ok () sampled)
      (off : sampled.ruleSet event.datapath "ip_white_table" = false) :
      Handled event app (enforceBans event sampled)
  | noted {sampled : DDoSSimulationAPP K}
      (returns : (samplePacketIn event).run app = .ok () sampled)
      (on : sampled.ruleSet event.datapath "ip_white_table" = true)
      (settled : (judge sampled).ddosingCount > 10 ↔ sampled.isDDoSAttacking = true) :
      Handled event app (enforceBans event (judge sampled))
  | alarmed {sampled : DDoSSimulationAPP K}
      (returns : (samplePacketIn event).run app = .ok () sampled)
      (on : sampled.ruleSet event.datapath "ip_white_table" = true)
      (high : (judge sampled).ddosingCount > 10) (calm : sampled.isDDoSAttacking = false) :
      Handled event app (enforceBans event
        { createDefenseFlowRule event (judge sampled) with isDDoSAttacking := true })
  | doubted {sampled : DDoSSimulationAPP K}
      (returns : (samplePacketIn event).run app = .ok () sampled)
      (on : sampled.ruleSet event.datapath "ip_white_table" = true)
      (low : ¬ (judge sampled).ddosingCount > 10) (attacking : sampled.isDDoSAttacking = true)
      (anomalous : (detectDdosByEntropy (judge sampled)).1 = true) :
      Handled event app (enforceBans event (detectDdosByEntropy (judge sampled)).2)
  | failed {sampled : DDoSSimulationAPP K}
      (returns : (samplePacketIn event).run app = .ok () sampled)
      (on : sampled.ruleSet event.datapath "ip_white_table" = true)
      (low : ¬ (judge sampled).ddosingCount > 10) (attacking : sampled.isDDoSAttacking = true)
      (normal : (detectDdosByEntropy (judge sampled)).1 = false) :
      Handled event app (detectDdosByEntropy (judge sampled)).2

/-- Every packet-in is handled in one of those ways. -/
theorem packetInHandler_handled (event : PacketIn) (app : DDoSSimulationAPP K) :
    Handled event app ((packetInHandler event).leaves app) := by
  cases outcome : (samplePacketIn event).run app with
  | error error sampled =>
      have left : (packetInHandler event).leaves app = sampled := by
        simp [packetInHandler, Effect.leaves, outcome]
      rw [left]
      exact .refused outcome
  | ok value sampled =>
      cases on : sampled.ruleSet event.datapath "ip_white_table" with
      | false =>
          have left : (packetInHandler event).leaves app = enforceBans event sampled := by
            simp [packetInHandler, Effect.leaves, outcome, on, enforceBans]
          rw [left]
          exact .unguarded outcome on
      | true =>
          have kept : (judge sampled).isDDoSAttacking = sampled.isDDoSAttacking := rfl
          have left : (packetInHandler event).leaves app =
              bansUnlessRaised event ((ipWhiteTable event).run sampled) := by
            cases verdict : (ipWhiteTable event).run sampled <;>
              simp [packetInHandler, Effect.leaves, outcome, on, verdict, enforceBans,
                bansUnlessRaised]
          rw [left, ipWhiteTable_run]
          by_cases high : (judge sampled).ddosingCount > 10
          · cases attacking : sampled.isDDoSAttacking with
            | true => simpa [bansUnlessRaised, high, kept, attacking] using
                Handled.noted outcome on (iff_of_true high attacking)
            | false => simpa [bansUnlessRaised, high, kept, attacking] using
                Handled.alarmed outcome on high attacking
          · cases attacking : sampled.isDDoSAttacking with
            | true =>
                cases anomalous : (detectDdosByEntropy (judge sampled)).1 with
                | true => simpa [bansUnlessRaised, high, kept, attacking, anomalous] using
                    Handled.doubted outcome on high attacking anomalous
                | false => simpa [bansUnlessRaised, high, kept, attacking, anomalous] using
                    Handled.failed outcome on high attacking anomalous
            | false => simpa [bansUnlessRaised, high, kept, attacking] using
                Handled.noted outcome on (iff_of_false high (by simp [attacking]))

/-- The rule for what follows sampling: a relation that each piece of the rest of
the handler keeps relates the application after sampling to the one left. -/
theorem packetIn_after_sampling (related : DDoSSimulationAPP K → DDoSSimulationAPP K → Prop)
    (event : PacketIn) (refl : ∀ app, related app app)
    (trans : ∀ before middle after, related before middle → related middle after →
      related before after)
    (taken : ∀ app, related app (detectDdosByEntropy app).2)
    (judged : ∀ app, related app (judge app))
    (created : ∀ app, related app
      { createDefenseFlowRule event app with isDDoSAttacking := true })
    (banned : ∀ app, related app (enforceBans event app)) (app : DDoSSimulationAPP K) :
    related ((samplePacketIn event).leaves app) ((packetInHandler event).leaves app) := by
  have handled := packetInHandler_handled event app
  generalize (packetInHandler event).leaves app = after at handled
  cases handled with
  | refused raises =>
      rw [Effect.leaves_of_error raises]
      exact refl _
  | unguarded returns =>
      rw [Effect.leaves_of_ok returns]
      exact banned _
  | noted returns =>
      rw [Effect.leaves_of_ok returns]
      exact trans _ _ _ (judged _) (banned _)
  | alarmed returns =>
      rw [Effect.leaves_of_ok returns]
      exact trans _ _ _ (judged _) (trans _ _ _ (created _) (banned _))
  | doubted returns =>
      rw [Effect.leaves_of_ok returns]
      exact trans _ _ _ (judged _) (trans _ _ _ (taken _) (banned _))
  | failed returns =>
      rw [Effect.leaves_of_ok returns]
      exact trans _ _ _ (judged _) (taken _)

/-- What an event other than a packet does: a request changes pending rules or empties the
remote queues, a handshake registers its switch and sends the table-miss rule. -/
inductive Served (app : DDoSSimulationAPP K) : Event → DDoSSimulationAPP K → Prop where
  | protocolForbid (body : Json) (rules : Dict DatapathKey (Dict String Bool)) :
      Served app (.protocolForbid body) { app with trafficEngineerRuleMap := rules }
  | setIpWhiteTable (dpid : Option String) (rules : Dict DatapathKey (Dict String Bool)) :
      Served app (.setIpWhiteTable dpid) { app with trafficEngineerRuleMap := rules }
  | trafficEntropy : Served app .trafficEntropy (trafficEntropy app).2
  | switchFeatures (datapath : Nat) :
      Served app (.switchFeatures datapath) (addFlowMissRule datapath { app with
        datapathInfoMap := app.datapathInfoMap.set datapath ⟨false⟩
        trafficEngineerRuleMap := app.trafficEngineerRuleMap.set (.id datapath) initialRules })

/-- Every such event does that. -/
theorem step_served (app : DDoSSimulationAPP K) {event : Event}
    (noPacket : ∀ message, event ≠ .packetIn message) : Served app event (step app event) := by
  cases event with
  | packetIn message => exact absurd rfl (noPacket message)
  | trafficEntropy => exact .trafficEntropy
  | setIpWhiteTable dpid =>
      cases dpid with
      | none => exact .setIpWhiteTable none app.trafficEngineerRuleMap
      | some text => exact .setIpWhiteTable (some text) _
  | protocolForbid body =>
      obtain ⟨rules, changed⟩ := protocolForbid_leaves body app
      rw [step, changed]
      exact .protocolForbid body rules
  | switchFeatures datapath =>
      rw [step, switchFeaturesHandler_eq]
      exact .switchFeatures datapath

/-! Events for runs on fixed inputs. -/

/-- A packet that carries no address the detector counts. -/
def arpFrom (datapath : Nat) : PacketIn where
  datapath := datapath
  inPort := 1
  bufferId := ofpNoBuffer
  data := []
  protocols := .ok [.ethernet "ff:ff:ff:ff:ff:ff" "00:00:00:00:00:01" 0x0806, .other]

/-- A datagram over IPv4. -/
def datagram (datapath : Nat) (src : String) (port : Nat) : PacketIn where
  datapath := datapath
  inPort := 1
  bufferId := ofpNoBuffer
  data := []
  protocols := .ok [.ethernet "00:00:00:00:00:02" "00:00:00:00:00:01" ethTypeIp,
    .ipv4 src "10.0.0.2", .udp port 80]

/-- A switch registers and its whitelist defence is switched on. -/
def guardedSwitch : List Event :=
  [.switchFeatures 1,
    .protocolForbid (.obj [("dpid", .number 1), ("protocol", .str "ip_white_table")])]

end NetworkAdapter.DDoSSimulationAPP
