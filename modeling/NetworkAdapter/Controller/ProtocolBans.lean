import NetworkAdapter.Controller.Rules

/-!
# Protocol bans, from request to drop flow

A ban request sets a flag on every registered switch, the next packet-in from the
switch sends the drop flow and resets the flag, and a handshake resets it without
sending anything. Flags and drop flows are counted together: a packet-in only
turns the one into the other, so what is due to a switch can grow by a request
and be lost by a handshake, and in no other way.
-/

namespace NetworkAdapter.DDoSSimulationAPP

open Execution

variable {K : Type}

/-- The protocols whose bans the packet-in handler carries out. -/
inductive BannedProtocol where
  | icmp
  | tcp
  | udp
deriving DecidableEq

namespace BannedProtocol

/-- The name of the flag in a switch's rules. -/
def name : BannedProtocol → String
  | .icmp => "ICMP"
  | .tcp => "TCP"
  | .udp => "UDP"

/-- The protocol number the drop flow matches. -/
def number : BannedProtocol → Nat
  | .icmp => ipprotoIcmp
  | .tcp => ipprotoTcp
  | .udp => ipprotoUdp

/-- The drop flow. -/
def drop (protocol : BannedProtocol) : Message :=
  flowAddition 3 (protocolMatch protocol.number) []

theorem name_inj {first second : BannedProtocol} : first.name = second.name ↔ first = second := by
  cases first <;> cases second <;> decide

theorem drop_inj {first second : BannedProtocol} : first.drop = second.drop ↔ first = second := by
  cases first <;> cases second <;> decide

end BannedProtocol

/-- The drop flows of a protocol sent to a switch. -/
def drops (datapath : Nat) (protocol : BannedProtocol) (app : DDoSSimulationAPP K) : Nat :=
  app.sent.count (datapath, protocol.drop)

/-- One if the ban of the protocol is pending for a switch. -/
def pending (datapath : Nat) (protocol : BannedProtocol) (app : DDoSSimulationAPP K) : Nat :=
  if app.ruleSet datapath protocol.name then 1 else 0

/-- What a change owes to requests made before it: drop flows sent and bans pending are
together as many as before, but for the drop flows among the rules `created`. -/
def Settles (created : List (Nat × Message)) (before after : DDoSSimulationAPP K) : Prop :=
  ∀ datapath protocol, drops datapath protocol after + pending datapath protocol after =
    drops datapath protocol before + pending datapath protocol before +
      created.count (datapath, protocol.drop)

theorem Settles.trans {first second : List (Nat × Message)}
    {before middle after : DDoSSimulationAPP K}
    (one : Settles first before middle) (other : Settles second middle after) :
    Settles (first ++ second) before after := by
  intro datapath protocol
  rw [other datapath protocol, one datapath protocol, List.count_append]
  omega

/-- Sending messages and touching no rules settles what is among the messages. -/
theorem Settles.of_sent {before after : DDoSSimulationAPP K}
    (rules : ∀ datapath, after.trafficEngineerRuleMap.get? (.id datapath) =
      before.trafficEngineerRuleMap.get? (.id datapath))
    {messages : List (Nat × Message)} (sent : after.sent = before.sent ++ messages) :
    Settles messages before after := by
  intro datapath protocol
  have flags : pending datapath protocol after = pending datapath protocol before := by
    unfold pending ruleSet
    rw [rules]
  rw [flags, drops, sent, List.count_append, drops]
  omega

/-- Carrying out a ban resets its flag and leaves the other flags alone. -/
theorem ruleSet_enforce (name : String) (ipProto : Nat) (event : PacketIn)
    (app : DDoSSimulationAPP K) (datapath : Nat) (other : String) :
    (enforce name (addFlowDrop ipProto) event app).ruleSet datapath other =
      (app.ruleSet datapath other && !decide (event.datapath = datapath ∧ name = other)) := by
  unfold enforce
  split
  · by_cases here : event.datapath = datapath
    · subst here
      simp only [ruleSet, Dict.get?_set, if_true]
      by_cases same : name = other
      · simp [same]
      · cases found : app.trafficEngineerRuleMap.get? (.id event.datapath) <;>
          simp [same, found, addFlowDrop, addFlow, sendMsg]
    · simp [ruleSet, here, addFlowDrop, addFlow, sendMsg]
  · next unset =>
      by_cases both : event.datapath = datapath ∧ name = other
      · obtain ⟨rfl, rfl⟩ := both
        simpa using unset
      · simp [both]

theorem sent_enforce (name : String) (ipProto : Nat) (event : PacketIn)
    (app : DDoSSimulationAPP K) :
    (enforce name (addFlowDrop ipProto) event app).sent =
      if app.ruleSet event.datapath name then
        app.sent ++ [(event.datapath, flowAddition 3 (protocolMatch ipProto) [])]
      else app.sent := by
  unfold enforce
  split <;> rfl

/-- Carrying out a pending ban turns its flag into a drop flow. -/
theorem enforce_settles (protocol : BannedProtocol) (event : PacketIn)
    (app : DDoSSimulationAPP K) :
    Settles [] app (enforce protocol.name (addFlowDrop protocol.number) event app) := by
  intro datapath other
  have flow : flowAddition 3 (protocolMatch protocol.number) [] = protocol.drop := rfl
  simp only [drops, pending, ruleSet_enforce, sent_enforce, flow, List.count_nil, Nat.add_zero]
  by_cases same : event.datapath = datapath ∧ protocol = other
  · obtain ⟨rfl, rfl⟩ := same
    cases set : app.ruleSet event.datapath protocol.name <;> simp
  · have names : ¬ (event.datapath = datapath ∧ protocol.name = other.name) := by
      rwa [BannedProtocol.name_inj]
    have apart : (event.datapath, protocol.drop) ≠ (datapath, other.drop) := by
      rw [Ne, Prod.mk.injEq, BannedProtocol.drop_inj]
      exact same
    cases set : app.ruleSet event.datapath protocol.name <;> simp [names, apart]

theorem enforceBans_settles (event : PacketIn) (app : DDoSSimulationAPP K) :
    Settles [] app (enforceBans event app) :=
  ((enforce_settles .icmp event app).trans (enforce_settles .tcp event _)).trans
    (enforce_settles .udp event _)

/-- Forwarding a packet sends no drop flow. -/
theorem forwardMessages_ne_drop {event : PacketIn} {dst src : String} {outPort : Nat}
    {entry : Nat × Message} (member : entry ∈ forwardMessages event dst src outPort)
    (protocol : BannedProtocol) : entry.2 ≠ protocol.drop := by
  obtain rfl | rfl := forwardMessages_cases member
  · simp [BannedProtocol.drop, flowAddition]
  · simp [BannedProtocol.drop, flowAddition, packetOut]

/-- Sending no drop flow and touching no rules settles nothing. -/
theorem Settles.of_silent {before after : DDoSSimulationAPP K}
    (rules : ∀ datapath, after.trafficEngineerRuleMap.get? (.id datapath) =
      before.trafficEngineerRuleMap.get? (.id datapath))
    {messages : List (Nat × Message)} (sent : after.sent = before.sent ++ messages)
    (silent : ∀ entry ∈ messages, ∀ protocol : BannedProtocol, entry.2 ≠ protocol.drop) :
    Settles [] before after := by
  intro datapath protocol
  have none : messages.count (datapath, protocol.drop) = 0 :=
    List.count_eq_zero.mpr fun member => silent _ member protocol rfl
  rw [Settles.of_sent rules sent datapath protocol, none, List.count_nil]

theorem Settles.of_same {before after : DDoSSimulationAPP K}
    (rules : ∀ datapath, after.trafficEngineerRuleMap.get? (.id datapath) =
      before.trafficEngineerRuleMap.get? (.id datapath))
    (sent : after.sent = before.sent) : Settles [] before after :=
  .of_silent rules (sent.trans (List.append_nil _).symm) (by simp)

theorem Forwards.settles {event : PacketIn} {before after : DDoSSimulationAPP K}
    (forwards : Forwards event before after) : Settles [] before after := by
  obtain ⟨messages, sent, forwarded⟩ := forwards.sent
  have rules := forwards.trafficEngineerRuleMap
  refine .of_silent (fun datapath => by rw [rules]) sent fun entry member protocol => ?_
  obtain ⟨dst, src, outPort, inside⟩ := forwarded entry member
  exact forwardMessages_ne_drop inside protocol

/-- The protocol a request bans, if it names a switch and a text as the protocol. -/
def forbids? (body : Json) : Option String :=
  match body.subscript "dpid", body.subscript "protocol" with
  | .ok dpid, .ok (.str name) => if dpid.equals .null then none else some name
  | _, _ => none

/-- The event is a request that bans the protocol. -/
def requests (protocol : BannedProtocol) : Event → Bool
  | .protocolForbid body => forbids? body == some protocol.name
  | _ => false

/-- A request sets its flag in the rules of every switch. -/
theorem protocolForbid_rules (body : Json) (app : DDoSSimulationAPP K) :
    ((protocolForbid body).leaves app).trafficEngineerRuleMap =
      match forbids? body with
      | some name => app.trafficEngineerRuleMap.mapValues fun rules => rules.set name true
      | none => app.trafficEngineerRuleMap := by
  unfold forbids?
  cases dpid : body.subscript "dpid" with
  | error error => simp [protocolForbid, Effect.leaves, dpid]
  | ok named =>
      cases protocol : body.subscript "protocol" with
      | error error => simp [protocolForbid, Effect.leaves, dpid, protocol]
      | ok banned =>
          cases null : named.equals .null with
          | true => cases banned <;> simp [protocolForbid, Effect.leaves, dpid, protocol, null]
          | false =>
              cases banned with
              | str name =>
                  simp [protocolForbid, Effect.leaves, dpid, protocol, null, forbidEverywhere]
              | arr items =>
                  by_cases none : app.trafficEngineerRuleMap.entries = [] <;>
                    simp [protocolForbid, Effect.leaves, dpid, protocol, null, forbidEverywhere,
                      none]
              | obj fields =>
                  by_cases none : app.trafficEngineerRuleMap.entries = [] <;>
                    simp [protocolForbid, Effect.leaves, dpid, protocol, null, forbidEverywhere,
                      none]
              | _ => simp [protocolForbid, Effect.leaves, dpid, protocol, null, forbidEverywhere]

theorem enforceBans_kept (event : PacketIn) (app : DDoSSimulationAPP K) :
    (enforceBans event app).isDDoSAttacking = app.isDDoSAttacking ∧
      (enforceBans event app).defence = app.defence := by
  obtain ⟨rules, messages, unfolded, _⟩ := enforceBans_bans event app
  rw [unfolded]
  exact ⟨rfl, rfl⟩

/-- The ban is pending for the switch, or its drop flow was sent to it after the first
`before` messages. -/
def BanKept (datapath : Nat) (protocol : BannedProtocol) (before : Nat)
    (app : DDoSSimulationAPP K) : Prop :=
  app.ruleSet datapath protocol.name = true ∨
    (datapath, protocol.drop) ∈ app.sent.drop before

/-- A kept ban stays kept where nothing that is due gets lost. -/
theorem BanKept.of_due {datapath : Nat} {protocol : BannedProtocol} {before : Nat}
    {first second : DDoSSimulationAPP K} (kept : BanKept datapath protocol before first)
    (later : before ≤ first.sent.length) {messages : List (Nat × Message)}
    (sent : second.sent = first.sent ++ messages)
    (due : drops datapath protocol first + pending datapath protocol first ≤
      drops datapath protocol second + pending datapath protocol second) :
    BanKept datapath protocol before second := by
  unfold BanKept
  rw [sent, List.drop_append_of_le_length later, List.mem_append]
  rcases kept with flagged | dropped
  · by_cases still : second.ruleSet datapath protocol.name = true
    · exact .inl still
    · have grown : drops datapath protocol second =
          drops datapath protocol first + messages.count (datapath, protocol.drop) := by
        rw [drops, sent, List.count_append, drops]
      have flag : pending datapath protocol first = 1 := if_pos flagged
      have reset : pending datapath protocol second = 0 := if_neg still
      exact .inr (.inr (List.count_pos_iff.mp (by omega)))
  · exact .inr (.inl dropped)

variable [EntropyArithmetic K]

/-- The rules of the defence a step creates, if it declares an attack. -/
def created (app : DDoSSimulationAPP K) (event : Event) : List (Nat × Message) :=
  if app.isDDoSAttacking = false ∧ (step app event).isDDoSAttacking = true then
    (step app event).defence
  else []

/-- The rules of the defences created along a run. -/
def createdAlong (app : DDoSSimulationAPP K) : List Event → List (Nat × Message)
  | [] => []
  | event :: rest => created app event ++ createdAlong (step app event) rest

/-- An alarm settles: it creates the rules of the defence. -/
theorem alarm_settles (event : PacketIn) (sampled : DDoSSimulationAPP K) :
    Settles (defenceMessages event.datapath sampled.whiteIpTable.keys sampled.icmpHeavy) sampled
      { createDefenseFlowRule event (judge sampled) with isDDoSAttacking := true } := by
  have sent : ({ createDefenseFlowRule event (judge sampled) with
      isDDoSAttacking := true } : DDoSSimulationAPP K).sent = sampled.sent ++
        defenceMessages event.datapath sampled.whiteIpTable.keys sampled.icmpHeavy := by
    rw [createDefenseFlowRule_eq]
    rfl
  exact .of_sent (fun datapath => by rw [createDefenseFlowRule_eq]; rfl) sent

/-- A packet-in settles: it creates a defence, or carries out pending bans, or both. -/
theorem packetIn_settles (event : PacketIn) (app : DDoSSimulationAPP K) :
    Settles (created app (.packetIn event)) app (step app (.packetIn event)) := by
  have sampling := samplePacketIn_forwards event app
  have handled : Handled event app (step app (.packetIn event)) := packetInHandler_handled event app
  have unalarmed : (step app (.packetIn event)).isDDoSAttacking = app.isDDoSAttacking →
      created app (.packetIn event) = [] := by
    intro same
    unfold created
    rw [same]
    exact if_neg fun both => by simp [both.1] at both
  have quiet (first second : DDoSSimulationAPP K)
      (rules : second.trafficEngineerRuleMap = first.trafficEngineerRuleMap)
      (sent : second.sent = first.sent) : Settles [] first second :=
    .of_same (fun datapath => by rw [rules]) sent
  generalize left : step app (.packetIn event) = after at handled unalarmed ⊢
  cases handled with
  | refused raises =>
      rw [Effect.leaves_of_error raises] at sampling
      rw [unalarmed sampling.isDDoSAttacking]
      exact sampling.settles
  | @unguarded sampled returns =>
      rw [Effect.leaves_of_ok returns] at sampling
      rw [unalarmed ((enforceBans_kept event sampled).1.trans sampling.isDDoSAttacking)]
      exact sampling.settles.trans (enforceBans_settles event sampled)
  | @noted sampled returns =>
      rw [Effect.leaves_of_ok returns] at sampling
      rw [unalarmed ((enforceBans_kept event _).1.trans sampling.isDDoSAttacking)]
      have judged := quiet sampled (judge sampled) rfl rfl
      exact (sampling.settles.trans judged).trans (enforceBans_settles event _)
  | @alarmed sampled returns _ _ calm =>
      rw [Effect.leaves_of_ok returns] at sampling
      have rules : created app (.packetIn event) =
          defenceMessages event.datapath sampled.whiteIpTable.keys sampled.icmpHeavy := by
        unfold created
        rw [left, (enforceBans_kept event _).1, (enforceBans_kept event _).2,
          ← sampling.isDDoSAttacking, if_pos ⟨calm, rfl⟩, createDefenseFlowRule_eq]
        rfl
      rw [rules]
      have settled := (sampling.settles.trans (alarm_settles event sampled)).trans
        (enforceBans_settles event _)
      simpa using settled
  | @doubted sampled returns =>
      rw [Effect.leaves_of_ok returns] at sampling
      rw [unalarmed ((enforceBans_kept event _).1.trans sampling.isDDoSAttacking)]
      have judged := quiet sampled (detectDdosByEntropy (judge sampled)).2 rfl rfl
      exact (sampling.settles.trans judged).trans (enforceBans_settles event _)
  | @failed sampled returns =>
      rw [Effect.leaves_of_ok returns] at sampling
      rw [unalarmed sampling.isDDoSAttacking]
      exact sampling.settles.trans (quiet sampled (detectDdosByEntropy (judge sampled)).2 rfl rfl)

/-- A request makes its ban pending wherever there are rules, and touches no other. -/
theorem protocolForbid_pending (body : Json) (datapath : Nat) (protocol : BannedProtocol)
    (app : DDoSSimulationAPP K) :
    pending datapath protocol (step app (.protocolForbid body)) =
      if requests protocol (.protocolForbid body) = true ∧
          (app.trafficEngineerRuleMap.get? (.id datapath)).isSome = true then 1
      else pending datapath protocol app := by
  have rules := protocolForbid_rules body app
  have flag : (step app (.protocolForbid body)).ruleSet datapath protocol.name =
      if requests protocol (.protocolForbid body) = true ∧
          (app.trafficEngineerRuleMap.get? (.id datapath)).isSome = true then true
      else app.ruleSet datapath protocol.name := by
    unfold ruleSet step requests
    rw [rules]
    cases named : forbids? body with
    | none => simp [named]
    | some name =>
        cases found : app.trafficEngineerRuleMap.get? (.id datapath) with
        | none => simp [found]
        | some flags =>
            by_cases same : name = protocol.name <;> simp [named, found, same]
  unfold pending
  rw [flag]
  split <;> rfl

/-- It sends nothing. -/
theorem protocolForbid_drops (body : Json) (datapath : Nat) (protocol : BannedProtocol)
    (app : DDoSSimulationAPP K) :
    drops datapath protocol (step app (.protocolForbid body)) = drops datapath protocol app := by
  obtain ⟨rules, changed⟩ := protocolForbid_leaves body app
  rw [step, changed]
  rfl

/-- A handshake forgets what is pending for its switch. -/
theorem switchFeatures_pending (other datapath : Nat) (protocol : BannedProtocol)
    (app : DDoSSimulationAPP K) :
    pending datapath protocol (step app (.switchFeatures other)) =
      if other = datapath then 0 else pending datapath protocol app := by
  unfold pending ruleSet
  rw [step, switchFeaturesHandler_eq]
  simp only [addFlowMissRule, addFlow, sendMsg, Dict.get?_set, DatapathKey.id.injEq]
  by_cases same : other = datapath
  · cases protocol <;> simp [same, initialRules, BannedProtocol.name]
  · simp [same]

theorem switchFeatures_sent (other : Nat) (app : DDoSSimulationAPP K) :
    (step app (.switchFeatures other)).sent =
      app.sent ++ [(other, flowAddition 0 {} toController)] := by
  rw [step, switchFeaturesHandler_eq]
  rfl

theorem missRule_ne_drop (protocol : BannedProtocol) :
    flowAddition 0 {} toController ≠ protocol.drop := by
  cases protocol <;> decide

theorem switchFeatures_drops (other datapath : Nat) (protocol : BannedProtocol)
    (app : DDoSSimulationAPP K) :
    drops datapath protocol (step app (.switchFeatures other)) = drops datapath protocol app := by
  have apart : (other, flowAddition 0 {} toController) ≠ (datapath, protocol.drop) :=
    fun same => missRule_ne_drop protocol (Prod.mk.inj same).2
  simp [drops, switchFeatures_sent, apart]

/-- Requests to the whitelist and to the entropies settle: no drop flow, no flag. -/
theorem step_settles {event : Event} (app : DDoSSimulationAPP K)
    (quiet : (∃ dpid, event = .setIpWhiteTable dpid) ∨ event = .trafficEntropy) :
    Settles [] app (step app event) := by
  rcases quiet with ⟨dpid, rfl⟩ | rfl
  · cases dpid with
    | none => exact .of_same (fun _ => rfl) rfl
    | some text =>
        refine .of_same (fun datapath => ?_) rfl
        exact (Dict.get?_set _ _ _ _).trans (if_neg (by simp))
  · exact .of_same (fun _ => rfl) rfl

/-- What is due to a switch for a protocol grows with a request, by one, and with the
defence; nothing else adds to it. -/
theorem step_due_le (datapath : Nat) (protocol : BannedProtocol) (app : DDoSSimulationAPP K)
    (event : Event) :
    drops datapath protocol (step app event) + pending datapath protocol (step app event) ≤
      drops datapath protocol app + pending datapath protocol app +
        (if requests protocol event then 1 else 0) +
          (created app event).count (datapath, protocol.drop) := by
  cases event with
  | packetIn message =>
      have settled := packetIn_settles message app datapath protocol
      omega
  | protocolForbid body =>
      rw [protocolForbid_drops, protocolForbid_pending]
      cases asked : requests protocol (.protocolForbid body) with
      | false => simp
      | true =>
          simp only [true_and, if_true]
          split <;> omega
  | switchFeatures other =>
      rw [switchFeatures_drops, switchFeatures_pending]
      split <;> omega
  | setIpWhiteTable dpid =>
      have settled := step_settles app (.inl ⟨dpid, rfl⟩) datapath protocol
      rw [List.count_nil] at settled
      omega
  | trafficEntropy =>
      have settled := step_settles app (.inr rfl) datapath protocol
      rw [List.count_nil] at settled
      omega

/-- No handshake of the switch before the drop flow was sent to it. -/
def NotReset (datapath : Nat) (protocol : BannedProtocol) (before : Nat)
    (app : DDoSSimulationAPP K) (event : Event) : Prop :=
  event = .switchFeatures datapath → (datapath, protocol.drop) ∈ app.sent.drop before

/-- A step out of a state that keeps the ban loses it only by a handshake. -/
theorem step_banKept_iff {datapath : Nat} {protocol : BannedProtocol} {before : Nat}
    {app : DDoSSimulationAPP K} (event : Event) (later : before ≤ app.sent.length)
    (kept : BanKept datapath protocol before app) :
    BanKept datapath protocol before (step app event) ↔
      NotReset datapath protocol before app event := by
  obtain ⟨messages, sent⟩ := step_sent app event
  have keeps (due : drops datapath protocol app + pending datapath protocol app ≤
      drops datapath protocol (step app event) + pending datapath protocol (step app event))
      (other : event ≠ .switchFeatures datapath) :
      BanKept datapath protocol before (step app event) ↔
        NotReset datapath protocol before app event :=
    iff_of_true (kept.of_due later sent due) fun same => absurd same other
  cases event with
  | packetIn message =>
      have settled := packetIn_settles message app datapath protocol
      exact keeps (by omega) (by simp)
  | protocolForbid body =>
      refine keeps ?_ (by simp)
      rw [protocolForbid_drops, protocolForbid_pending]
      have flag : pending datapath protocol app ≤ 1 := by
        unfold pending
        split <;> simp
      split <;> omega
  | setIpWhiteTable dpid =>
      have settled := step_settles app (.inl ⟨dpid, rfl⟩) datapath protocol
      exact keeps (by rw [List.count_nil] at settled; omega) (by simp)
  | trafficEntropy =>
      have settled := step_settles app (.inr rfl) datapath protocol
      exact keeps (by rw [List.count_nil] at settled; omega) (by simp)
  | switchFeatures other =>
      by_cases same : other = datapath
      · subst same
        have reset : (step app (.switchFeatures other)).ruleSet other protocol.name = false := by
          have none := switchFeatures_pending other other protocol app
          rw [if_pos rfl] at none
          unfold pending at none
          split at none
          · cases none
          · next off => simpa using off
        have apart : (other, protocol.drop) ≠ (other, flowAddition 0 {} toController) :=
          fun equal => missRule_ne_drop protocol (Prod.mk.inj equal).2.symm
        unfold BanKept NotReset
        rw [reset, switchFeatures_sent, List.drop_append_of_le_length later]
        simp [apart]
      · refine keeps ?_ (by simpa using same)
        rw [switchFeatures_drops, switchFeatures_pending, if_neg same]

/-- Along a run a ban is kept exactly while its switch does not repeat its handshake
before the drop flow is sent. -/
theorem along_banKept_iff (datapath : Nat) (protocol : BannedProtocol) {app : DDoSSimulationAPP K}
    {before : Nat} (later : before ≤ app.sent.length)
    (kept : BanKept datapath protocol before app) (events : List Event) :
    Along step (BanKept datapath protocol before) app events ↔
      Each step (NotReset datapath protocol before) app events := by
  have grows : ∀ (app : DDoSSimulationAPP K) (event : Event), before ≤ app.sent.length →
      before ≤ (step app event).sent.length := by
    intro app event later
    obtain ⟨messages, sent⟩ := step_sent app event
    rw [sent, List.length_append]
    omega
  have exactly : ∀ (app : DDoSSimulationAPP K) (event : Event), before ≤ app.sent.length →
      BanKept datapath protocol before app →
        (BanKept datapath protocol before (step app event) ↔
          NotReset datapath protocol before app event) :=
    fun _ event later kept => step_banKept_iff event later kept
  exact along_iff_each grows exactly later kept events

/-- Over a run, drop flows are no more than the requests and what was pending, the ICMP
rules of created defences apart. -/
theorem run_drops_le (datapath : Nat) (protocol : BannedProtocol) (app : DDoSSimulationAPP K)
    (events : List Event) :
    drops datapath protocol (run step app events) ≤
      drops datapath protocol app + pending datapath protocol app +
        events.countP (requests protocol) +
          (createdAlong app events).count (datapath, protocol.drop) := by
  suffices accounts : drops datapath protocol (run step app events) +
      pending datapath protocol (run step app events) ≤
        drops datapath protocol app + pending datapath protocol app +
          events.countP (requests protocol) +
            (createdAlong app events).count (datapath, protocol.drop) by omega
  induction events generalizing app with
  | nil => simp [createdAlong]
  | cons event rest inductionHypothesis =>
      have one := step_due_le datapath protocol app event
      have others := inductionHypothesis (step app event)
      rw [run_cons, List.countP_cons, createdAlong, List.count_append]
      omega

/-- A switch is registered exactly if there are rules under the number of its id. -/
def Registers (app : DDoSSimulationAPP K) : Prop :=
  ∀ datapath, (app.datapathInfoMap.get? datapath).isSome =
    (app.trafficEngineerRuleMap.get? (.id datapath)).isSome

theorem step_registers (app : DDoSSimulationAPP K) (event : Event) (registers : Registers app) :
    Registers (step app event) := by
  cases event with
  | packetIn message =>
      have same := packetIn_sameSwitches message app
      intro datapath
      rw [same.datapathInfoMap, same.ruleKeys]
      exact registers datapath
  | protocolForbid body =>
      have rules := protocolForbid_rules body app
      obtain ⟨_, changed⟩ := protocolForbid_leaves body app
      intro datapath
      have info : (step app (.protocolForbid body)).datapathInfoMap = app.datapathInfoMap := by
        rw [step, changed]
      rw [info, step, rules, registers datapath]
      cases forbids? body <;> simp
  | setIpWhiteTable dpid =>
      intro datapath
      have same := (registers datapath)
      cases dpid with
      | none => exact same
      | some text =>
          refine same.trans (congrArg Option.isSome ?_)
          exact ((Dict.get?_set _ _ _ _).trans (if_neg (by simp))).symm
  | trafficEntropy => exact registers
  | switchFeatures other =>
      intro datapath
      rw [step, switchFeaturesHandler_eq]
      simp only [addFlowMissRule, addFlow, sendMsg, Dict.get?_set, DatapathKey.id.injEq]
      split
      · rfl
      · exact registers datapath

theorem run_registers (events : List Event) :
    Registers (run step (init : DDoSSimulationAPP K) events) :=
  run_invariant Registers step_registers (fun _ => rfl) events

/-- A request answered with success for a protocol of the list carries the ban out. -/
theorem forbids_of_accepted {body dpid : Json} {protocol : BannedProtocol}
    {app after : DDoSSimulationAPP K}
    (named : body.subscript "protocol" = .ok (.str protocol.name))
    (accepted : (protocolForbid body).run app =
      .ok (.obj [("status", .str "success"), ("data", dpid)]) after) :
    requests protocol (.protocolForbid body) = true ∧
      step app (.protocolForbid body) = after := by
  refine ⟨?_, Effect.leaves_of_ok accepted⟩
  cases switch : body.subscript "dpid" with
  | error error => simp [protocolForbid, switch] at accepted
  | ok named' =>
      cases null : named'.equals .null with
      | true => simp [protocolForbid, switch, named, null] at accepted
      | false => simp [requests, forbids?, switch, named, null]

/-- A ban accepted for a registered switch is kept in every later state exactly if no
handshake of the switch comes before the drop flow; and over any run a switch is sent at
most one drop flow of a protocol for each request and pending ban, apart from those the
whitelist defence creates. -/
theorem accepted_ban_kept_iff (earlier later : List Event) (body dpid : Json)
    (protocol : BannedProtocol) (datapath : Nat) (after : DDoSSimulationAPP K)
    (named : body.subscript "protocol" = .ok (.str protocol.name))
    (accepted : (protocolForbid body).run (run step init earlier) =
      .ok (.obj [("status", .str "success"), ("data", dpid)]) after)
    (registered : ((run step (init : DDoSSimulationAPP K) earlier).datapathInfoMap.get?
      datapath).isSome = true) :
    (Along step (BanKept datapath protocol after.sent.length) after later ↔
      Each step (NotReset datapath protocol after.sent.length) after later) ∧
    ∀ (app : DDoSSimulationAPP K) (events : List Event),
      drops datapath protocol (run step app events) ≤
        drops datapath protocol app + pending datapath protocol app +
          events.countP (requests protocol) +
            (createdAlong app events).count (datapath, protocol.drop) := by
  refine ⟨?_, fun app events => run_drops_le datapath protocol app events⟩
  obtain ⟨asked, rfl⟩ := forbids_of_accepted named accepted
  rw [run_registers earlier datapath] at registered
  have flag := protocolForbid_pending body datapath protocol
    (run step (init : DDoSSimulationAPP K) earlier)
  rw [if_pos ⟨asked, registered⟩] at flag
  refine along_banKept_iff datapath protocol (Nat.le_refl _) (.inl ?_) later
  unfold pending at flag
  split at flag
  · next set => exact set
  · cases flag

/-- The request of the runs below. -/
def icmpRequest : Json := .obj [("dpid", .number 1), ("protocol", .str "ICMP")]

/-- The switch sends a packet, then shakes hands again. -/
theorem accepted_ban_kept_iff_sent :
    let after := run step (init : DDoSSimulationAPP Rat)
      [.switchFeatures 1, .protocolForbid icmpRequest]
    (Along step (BanKept 1 .icmp after.sent.length) after
        [.packetIn (arpFrom 1), .switchFeatures 1] ↔
      Each step (NotReset 1 .icmp after.sent.length) after
        [.packetIn (arpFrom 1), .switchFeatures 1]) ∧
    ∀ (app : DDoSSimulationAPP Rat) (events : List Event),
      drops 1 .icmp (run step app events) ≤ drops 1 .icmp app + pending 1 .icmp app +
        events.countP (requests .icmp) +
          (createdAlong app events).count (1, BannedProtocol.icmp.drop) := by
  intro after
  exact accepted_ban_kept_iff [.switchFeatures 1] [.packetIn (arpFrom 1), .switchFeatures 1]
    icmpRequest (.number 1) .icmp 1 after rfl rfl rfl

/-- The switch reconnects before it has sent a packet: the ban is gone. -/
theorem reconnect_forgets_ban :
    let accepted := run step (init : DDoSSimulationAPP Rat)
      [.switchFeatures 1, .protocolForbid icmpRequest]
    ¬ BanKept 1 .icmp accepted.sent.length (step accepted (.switchFeatures 1)) := by
  rintro accepted (flagged | sent)
  · exact absurd flagged (by decide +kernel)
  · exact absurd sent (by decide +kernel)

end NetworkAdapter.DDoSSimulationAPP
