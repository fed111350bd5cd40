import NetworkAdapter.Controller.Rules

/-!
# Which switches the defence covers

The flag of a declared attack is one for the whole application, and rules are sent
only while it is being raised, to the switch whose packet raised it. Since recovery
never lowers the flag, that switch is the only one that ever holds the defence.
-/

namespace NetworkAdapter.DDoSSimulationAPP

open Execution

variable {K : Type}

/-- A rule of neither priority of the whitelist defence. -/
def OtherRule (priority : Nat) (_ : OFPMatch) (_ : List OFPAction) : Prop :=
  priority ≠ 4 ∧ priority ≠ 2

/-- What may stand in a flow table at the priorities of the whitelist defence. -/
def DefenceRule (priority : Nat) (_ : OFPMatch) (actions : List OFPAction) : Prop :=
  (priority = 4 → actions = outputTo ofppNormal) ∧ (priority = 2 → actions = [])

theorem OtherRule.defenceRule {priority : Nat} {fields : OFPMatch} {actions : List OFPAction}
    (other : OtherRule priority fields actions) : DefenceRule priority fields actions :=
  ⟨fun allows => absurd allows other.1, fun drops => absurd drops other.2⟩

theorem forwardMessages_other (event : PacketIn) (dst src : String) (outPort : Nat) :
    ∀ entry ∈ forwardMessages event dst src outPort, entry.2.Adds OtherRule := by
  intro entry member
  obtain rfl | rfl := forwardMessages_cases member
  · exact flowAddition_adds ⟨by decide, by decide⟩
  · exact .packet _

/-- A change that declares nothing: the flag stays, and no rule of the defence is sent. -/
structure Keeps (before after : DDoSSimulationAPP K) : Prop where
  isDDoSAttacking : after.isDDoSAttacking = before.isDDoSAttacking
  sent : ∃ messages, after.sent = before.sent ++ messages ∧
    ∀ entry ∈ messages, entry.2.Adds OtherRule

namespace Keeps

variable {before middle after : DDoSSimulationAPP K}

theorem trans (first : Keeps before middle) (second : Keeps middle after) : Keeps before after := by
  obtain ⟨firstMessages, firstSent, firstOther⟩ := first.sent
  obtain ⟨secondMessages, secondSent, secondOther⟩ := second.sent
  refine ⟨second.isDDoSAttacking.trans first.isDDoSAttacking,
    firstMessages ++ secondMessages, by rw [secondSent, firstSent, List.append_assoc], ?_⟩
  intro entry member
  exact (List.mem_append.mp member).elim (firstOther entry) (secondOther entry)

theorem of_same (isDDoSAttacking : after.isDDoSAttacking = before.isDDoSAttacking)
    (sent : after.sent = before.sent) : Keeps before after :=
  ⟨isDDoSAttacking, [], by simp [sent], by simp⟩

end Keeps

theorem enforceBans_keeps (event : PacketIn) (app : DDoSSimulationAPP K) :
    Keeps app (enforceBans event app) := by
  obtain ⟨rules, messages, unfolded, bans⟩ := enforceBans_bans event app
  rw [unfolded]
  refine ⟨rfl, messages, rfl, fun entry member => ?_⟩
  obtain ⟨ipProto, rfl⟩ := bans entry member
  exact flowAddition_adds ⟨by decide, by decide⟩

/-- The switch holds the defence for some whitelisted addresses: an entry that allows
each of them and the default drop. -/
structure HoldsDefence (ips : List String) (app : DDoSSimulationAPP K) (datapath : Nat) :
    Prop where
  allowed : ∀ ip ∈ ips,
    (app.flows datapath).get? (4, whiteMatch ip) = some (outputTo ofppNormal)
  dropAll : (app.flows datapath).get? (2, {}) = some []

/-- The switch holds no entry of either priority of the defence. -/
def HoldsNoDefence (app : DDoSSimulationAPP K) (datapath : Nat) : Prop :=
  ∀ priority fields, priority = 4 ∨ priority = 2 →
    (app.flows datapath).get? (priority, fields) = none

/-- The one defence sent so far is that of a switch, and no other rule has its priorities. -/
def DefenceSent (datapath : Nat) (ips : List String) (app : DDoSSimulationAPP K) : Prop :=
  ∃ earlier icmp later, app.sent = earlier ++ defenceMessages datapath ips icmp ++ later ∧
    (∀ entry ∈ earlier, entry.2.Adds OtherRule) ∧ ∀ entry ∈ later, entry.2.Adds OtherRule

theorem defenceMessages_defenceRule (datapath : Nat) (ips : List String) (icmp : Bool) :
    ∀ entry ∈ defenceMessages datapath ips icmp,
      entry.1 = datapath ∧ entry.2.Adds DefenceRule := by
  intro entry member
  obtain ⟨ip, _, rfl⟩ | rfl | rfl := defenceMessages_cases member
  · exact ⟨rfl, flowAddition_adds ⟨fun _ => rfl, fun drops => absurd drops (by decide)⟩⟩
  · exact ⟨rfl, flowAddition_adds ⟨fun allows => absurd allows (by decide), fun _ => rfl⟩⟩
  · exact ⟨rfl, flowAddition_adds (OtherRule.defenceRule ⟨by decide, by decide⟩)⟩

/-- The switch the defence was sent to holds it. -/
theorem DefenceSent.holds {datapath : Nat} {ips : List String} {app : DDoSSimulationAPP K}
    (defended : DefenceSent datapath ips app) : HoldsDefence ips app datapath := by
  obtain ⟨earlier, icmp, later, sent, before, after⟩ := defended
  have rules : ∀ entry ∈ app.sent, entry.2.Adds DefenceRule := by
    intro entry member
    rw [sent] at member
    rcases List.mem_append.mp member with first | last
    · rcases List.mem_append.mp first with other | defence
      · exact (before entry other).mono fun _ _ _ => OtherRule.defenceRule
      · exact (defenceMessages_defenceRule datapath ips icmp entry defence).2
    · exact (after entry last).mono fun _ _ _ => OtherRule.defenceRule
  have among : ∀ entry ∈ defenceMessages datapath ips icmp, entry ∈ app.sent := by
    intro entry member
    rw [sent]
    exact List.mem_append_left _ (List.mem_append_right _ member)
  constructor
  · intro ip listed
    have member := among _ (List.mem_append_left _ (List.mem_map_of_mem listed))
    exact get?_applyAll_of_sent rules (fun actions rule => rule.1 rfl) _ (.inr ⟨_, member, rfl⟩)
  · have member := among _ (List.mem_append_right _ List.mem_cons_self)
    exact get?_applyAll_of_sent rules (fun actions rule => rule.2 rfl) _ (.inr ⟨_, member, rfl⟩)

/-- Every other switch has none of it. -/
theorem DefenceSent.holdsNone {datapath other : Nat} {ips : List String}
    {app : DDoSSimulationAPP K} (defended : DefenceSent datapath ips app)
    (different : other ≠ datapath) : HoldsNoDefence app other := by
  obtain ⟨earlier, icmp, later, sent, before, after⟩ := defended
  have rules : ∀ entry ∈ app.sent, entry.1 = other → entry.2.Adds OtherRule := by
    rw [sent]
    rintro entry member rfl
    rcases List.mem_append.mp member with first | last
    · rcases List.mem_append.mp first with harmless | defence
      · exact before entry harmless
      · exact absurd (defenceMessages_defenceRule datapath ips icmp entry defence).1 different
    · exact after entry last
  intro priority fields defence
  rcases get?_applyAll rules .empty (priority, fields) with untouched | ⟨actions, _, harmless⟩
  · exact untouched
  · exact absurd defence (not_or.mpr harmless)

theorem DefenceSent.keeps {datapath : Nat} {ips : List String} {before after : DDoSSimulationAPP K}
    (defended : DefenceSent datapath ips before) (keeps : Keeps before after) :
    DefenceSent datapath ips after := by
  obtain ⟨earlier, icmp, later, sent, first, last⟩ := defended
  obtain ⟨messages, fresh, other⟩ := keeps.sent
  refine ⟨earlier, icmp, later ++ messages, by rw [fresh, sent]; simp, first, ?_⟩
  intro entry member
  exact (List.mem_append.mp member).elim (last entry) (other entry)

/-- What a packet that raises the flag does: its switch was enabled, and is sent the defence
for the addresses on the whitelist. -/
structure Defends (message : PacketIn) (before after : DDoSSimulationAPP K) : Prop where
  calm : before.isDDoSAttacking = false
  attacking : after.isDDoSAttacking = true
  guarded : before.ruleSet message.datapath "ip_white_table" = true
  sent : ∃ earlier icmp later, after.sent = before.sent ++
      (earlier ++ defenceMessages message.datapath after.whiteIpTable.keys icmp ++ later) ∧
    (∀ entry ∈ earlier, entry.2.Adds OtherRule) ∧ ∀ entry ∈ later, entry.2.Adds OtherRule

/-- A defence sent where none was is the one defence sent. -/
theorem Defends.defenceSent {message : PacketIn} {before after : DDoSSimulationAPP K}
    (defends : Defends message before after)
    (undefended : ∀ entry ∈ before.sent, entry.2.Adds OtherRule) :
    DefenceSent message.datapath after.whiteIpTable.keys after := by
  obtain ⟨earlier, icmp, later, sent, otherEarlier, otherLater⟩ := defends.sent
  refine ⟨before.sent ++ earlier, icmp, later, by rw [sent]; simp, ?_, otherLater⟩
  intro entry member
  exact (List.mem_append.mp member).elim (undefended entry) (otherEarlier entry)

variable [EntropyArithmetic K]

/-- The packet raises the flag of an attack. -/
structure Declares (app : DDoSSimulationAPP K) (message : PacketIn) : Prop where
  calm : app.isDDoSAttacking = false
  attacking : (step app (.packetIn message)).isDDoSAttacking = true

theorem samplePacketIn_keeps (event : PacketIn) (app : DDoSSimulationAPP K) :
    Keeps app ((samplePacketIn event).leaves app) := by
  obtain ⟨_, _, attacking, messages, sent, forwards⟩ := samplePacketIn_forwards event app
  refine ⟨attacking, messages, sent, fun entry member => ?_⟩
  obtain ⟨dst, src, outPort, forwarded⟩ := forwards entry member
  exact forwardMessages_other event dst src outPort entry forwarded

theorem samplePacketIn_keeps_of_ok {event : PacketIn} {app sampled : DDoSSimulationAPP K}
    (returns : (samplePacketIn event).run app = .ok () sampled) : Keeps app sampled :=
  Effect.leaves_of_ok returns ▸ samplePacketIn_keeps event app

theorem judge_keeps (app : DDoSSimulationAPP K) : Keeps app (judge app) := .of_same rfl rfl

theorem detect_keeps (app : DDoSSimulationAPP K) : Keeps app (detectDdosByEntropy app).2 :=
  .of_same rfl rfl

/-- A packet declares nothing, or raises the flag and defends its switch. -/
theorem packetIn_keeps_or_defends (message : PacketIn) (app : DDoSSimulationAPP K) :
    Keeps app (step app (.packetIn message)) ∨
      Defends message app (step app (.packetIn message)) := by
  have handled := packetInHandler_handled message app
  simp only [step]
  generalize (packetInHandler message).leaves app = after at handled
  cases handled with
  | refused raises =>
      rw [← Effect.leaves_of_error raises]
      exact .inl (samplePacketIn_keeps message app)
  | unguarded returns =>
      exact .inl ((samplePacketIn_keeps_of_ok returns).trans (enforceBans_keeps message _))
  | noted returns =>
      exact .inl (((samplePacketIn_keeps_of_ok returns).trans (judge_keeps _)).trans
        (enforceBans_keeps message _))
  | doubted returns =>
      exact .inl ((((samplePacketIn_keeps_of_ok returns).trans (judge_keeps _)).trans
        (detect_keeps _)).trans (enforceBans_keeps message _))
  | failed returns =>
      exact .inl (((samplePacketIn_keeps_of_ok returns).trans (judge_keeps _)).trans
        (detect_keeps _))
  | @alarmed sampled returns on high calm =>
      have sampling := samplePacketIn_keeps_of_ok returns
      have rules := (samplePacketIn_forwards message app).trafficEngineerRuleMap
      rw [Effect.leaves_of_ok returns] at rules
      obtain ⟨earlier, sentEarlier, otherEarlier⟩ := sampling.sent
      obtain ⟨pending, bans, unfolded, isBan⟩ := enforceBans_bans message
        { createDefenseFlowRule message (judge sampled) with isDDoSAttacking := true }
      rw [unfolded, createDefenseFlowRule_eq]
      refine .inr ⟨sampling.isDDoSAttacking.symm.trans calm, rfl, ?_, earlier,
        (judge sampled).icmpHeavy, bans, ?_, otherEarlier, fun entry member => ?_⟩
      · simpa [ruleSet, rules] using on
      · have judged : (judge sampled).sent = app.sent ++ earlier := sentEarlier
        simp [judged]
      · obtain ⟨ipProto, rfl⟩ := isBan entry member
        exact flowAddition_adds ⟨by decide, by decide⟩

/-- Declaring an attack is defending the switch. -/
theorem Declares.defends {app : DDoSSimulationAPP K} {message : PacketIn}
    (declares : Declares app message) : Defends message app (step app (.packetIn message)) := by
  rcases packetIn_keeps_or_defends message app with keeps | defends
  · have stayed := keeps.isDDoSAttacking.trans declares.calm
    exact absurd (declares.attacking.symm.trans stayed) Bool.true_eq_false_eq_False
  · exact defends

/-- Whatever else happens declares nothing. -/
theorem step_keeps {app : DDoSSimulationAPP K} {event : Event}
    (undeclared : ∀ message, event = .packetIn message → ¬ Declares app message) :
    Keeps app (step app event) := by
  by_cases packet : ∃ message, event = .packetIn message
  · obtain ⟨message, rfl⟩ := packet
    rcases packetIn_keeps_or_defends message app with keeps | defends
    · exact keeps
    · exact absurd ⟨defends.calm, defends.attacking⟩ (undeclared message rfl)
  · have served := step_served app fun message same => packet ⟨message, same⟩
    generalize step app event = after at served
    cases served with
    | protocolForbid body rules => exact .of_same rfl rfl
    | setIpWhiteTable dpid rules => exact .of_same rfl rfl
    | trafficEntropy => exact .of_same rfl rfl
    | switchFeatures datapath =>
        refine ⟨rfl, _, rfl, fun entry member => ?_⟩
        rw [List.mem_singleton.mp member]
        exact flowAddition_adds ⟨by decide, by decide⟩

/-- Only a packet raises the flag. -/
theorem declares_of_raised {app : DDoSSimulationAPP K} {event : Event}
    (calm : app.isDDoSAttacking = false) (raised : (step app event).isDDoSAttacking = true) :
    ∃ message, event = .packetIn message ∧ Declares app message := by
  by_contra undeclared
  have keeps : Keeps app (step app event) :=
    step_keeps fun message same declares => undeclared ⟨message, same, declares⟩
  exact Bool.false_ne_true ((keeps.isDDoSAttacking.trans calm).symm.trans raised)

/-- Once declared, an attack stays declared and nobody else is defended. -/
theorem run_keeps {app : DDoSSimulationAPP K} (attacking : app.isDDoSAttacking = true)
    (events : List Event) : Keeps app (run step app events) := by
  induction events generalizing app with
  | nil => exact .of_same rfl rfl
  | cons event rest inductionHypothesis =>
      have keeps : Keeps app (step app event) := step_keeps fun message _ declares =>
        Bool.false_ne_true (declares.calm.symm.trans attacking)
      exact keeps.trans (inductionHypothesis (keeps.isDDoSAttacking.trans attacking))

/-- As long as no attack is declared no defence was sent. -/
theorem run_undefended {app : DDoSSimulationAPP K}
    (none : ∀ entry ∈ app.sent, entry.2.Adds OtherRule) {events : List Event}
    (calm : (run step app events).isDDoSAttacking = false) :
    ∀ entry ∈ (run step app events).sent, entry.2.Adds OtherRule := by
  induction events generalizing app with
  | nil => exact none
  | cons event rest inductionHypothesis =>
      have keeps : Keeps app (step app event) := step_keeps fun message same declares => by
        subst same
        have stayed := (run_keeps declares.attacking rest).isDDoSAttacking.trans declares.attacking
        exact Bool.false_ne_true (calm.symm.trans stayed)
      obtain ⟨messages, sent, other⟩ := keeps.sent
      refine inductionHypothesis (fun entry member => ?_) calm
      rw [sent] at member
      exact (List.mem_append.mp member).elim (none entry) (other entry)

/-- From the packet that declares an attack on, its switch's defence is all that was sent. -/
theorem run_defenceSent {before : List Event} {message : PacketIn}
    (declares : Declares (run step (init : DDoSSimulationAPP K) before) message)
    (after : List Event) :
    DefenceSent message.datapath
      (step (run step (init : DDoSSimulationAPP K) before) (.packetIn message)).whiteIpTable.keys
      (run step (init : DDoSSimulationAPP K) (before ++ .packetIn message :: after)) := by
  have none : ∀ entry ∈ (init : DDoSSimulationAPP K).sent, entry.2.Adds OtherRule := by simp [init]
  have undefended := run_undefended none declares.calm
  rw [run_append, run_cons]
  exact (declares.defends.defenceSent undefended).keeps (run_keeps declares.attacking after)

/-- The switch whose packet declared the attack, and no other, holds the defence. -/
theorem declaring_switch_defended (events : List Event)
    (attacking : (run step (init : DDoSSimulationAPP K) events).isDDoSAttacking = true) :
    (∃ before message after, events = before ++ .packetIn message :: after ∧
      Declares (run step (init : DDoSSimulationAPP K) before) message) ∧
    ∀ before message after, events = before ++ .packetIn message :: after →
      Declares (run step (init : DDoSSimulationAPP K) before) message →
        (run step (init : DDoSSimulationAPP K) before).ruleSet message.datapath
          "ip_white_table" = true ∧
        HoldsDefence
          (step (run step (init : DDoSSimulationAPP K) before)
            (.packetIn message)).whiteIpTable.keys
          (run step (init : DDoSSimulationAPP K) events) message.datapath ∧
        ∀ other, other ≠ message.datapath →
          HoldsNoDefence (run step (init : DDoSSimulationAPP K) events) other := by
  constructor
  · obtain ⟨before, event, after, split, calm, raised⟩ :=
      exists_turn (fun app : DDoSSimulationAPP K => app.isDDoSAttacking = true)
        Bool.false_ne_true attacking
    obtain ⟨message, rfl, declares⟩ := declares_of_raised (Bool.eq_false_of_not_eq_true calm) raised
    exact ⟨before, message, after, split, declares⟩
  · rintro before message after rfl declares
    have defended := run_defenceSent declares after
    exact ⟨declares.defends.guarded, defended.holds, fun other different =>
      defended.holdsNone different⟩

/-- Two switches register and their whitelist defences are switched on. -/
def guardedSwitches : List Event :=
  [.switchFeatures 1, .switchFeatures 2,
    .protocolForbid (.obj [("dpid", .number 1), ("protocol", .str "ip_white_table")])]

/-- The first one raises the flag with its eleventh packet. -/
def beforeAlarm : List Event := guardedSwitches ++ List.replicate 10 (.packetIn (arpFrom 1))

/-- The second one sends a packet after that. -/
theorem declaring_switch_defended_of_two :
    let events := beforeAlarm ++ [.packetIn (arpFrom 1), .packetIn (arpFrom 2)]
    HoldsDefence [] (run step (init : DDoSSimulationAPP Rat) events) 1 ∧
      HoldsNoDefence (run step (init : DDoSSimulationAPP Rat) events) 2 := by
  intro events
  have attacking : (run step (init : DDoSSimulationAPP Rat) events).isDDoSAttacking = true := by
    decide +kernel
  have declares : Declares (run step (init : DDoSSimulationAPP Rat) beforeAlarm) (arpFrom 1) :=
    ⟨by decide +kernel, by decide +kernel⟩
  obtain ⟨_, holds, none⟩ := (declaring_switch_defended events attacking).2 beforeAlarm (arpFrom 1)
    [.packetIn (arpFrom 2)] rfl declares
  have unlisted : (step (run step (init : DDoSSimulationAPP Rat) beforeAlarm)
      (.packetIn (arpFrom 1))).whiteIpTable.keys = [] := by decide +kernel
  exact ⟨unlisted ▸ holds, none 2 (by decide)⟩

/-- Every enabled switch that sent a packet since the attack was declared, the declaring
packet included, holds the defence. -/
def Covered (events : List Event) : Prop :=
  ∀ before message after, events = before ++ .packetIn message :: after →
    Declares (run step (init : DDoSSimulationAPP K) before) message →
      (run step (init : DDoSSimulationAPP K) events).isDDoSAttacking = true →
        ∀ packet, .packetIn packet ∈ .packetIn message :: after →
          (run step (init : DDoSSimulationAPP K) events).ruleSet packet.datapath
            "ip_white_table" = true →
          HoldsDefence
            (step (run step (init : DDoSSimulationAPP K) before)
              (.packetIn message)).whiteIpTable.keys
            (run step (init : DDoSSimulationAPP K) events) packet.datapath

/-- The second switch is not covered. -/
theorem second_switch_uncovered :
    ¬ Covered (K := Rat) (beforeAlarm ++ [.packetIn (arpFrom 1), .packetIn (arpFrom 2)]) := by
  intro covered
  have declares : Declares (run step (init : DDoSSimulationAPP Rat) beforeAlarm) (arpFrom 1) :=
    ⟨by decide +kernel, by decide +kernel⟩
  have holds := covered beforeAlarm (arpFrom 1) [.packetIn (arpFrom 2)] rfl declares
    (by decide +kernel) (arpFrom 2) (by simp) (by decide +kernel)
  exact absurd holds.dropAll (by decide +kernel)

end NetworkAdapter.DDoSSimulationAPP
