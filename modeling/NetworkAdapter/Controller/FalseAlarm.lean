import NetworkAdapter.Controller.Handling

/-!
# When the detector raises a false alarm

A verdict is taken for every packet of a guarded switch, a window is computed
for every few hundred packets, and a verdict that finds no unread window reads
two zero entropies, which count as an attack. While all windows are normal, an
alarm is avoided exactly as long as the verdicts without a window outnumber those
with one by at most ten (`along_noFalseAlarm_iff`), but each of the former raises
the counter. `no_false_alarm_iff` says when neither happens: every verdict has to
find an unread window.
-/

namespace NetworkAdapter

open Execution EntropyArithmetic

variable {K : Type}

/-- A rule that only the whitelist defence installs: an allowed address or the default drop. -/
def Message.isDefence : Message → Bool
  | .flowMod body => body.command = .add && (body.priority = 4 || body.priority = 2)
  | .packetOut _ => false

namespace DDoSSimulationAPP

/-- No attack is declared and no defence rule was sent to any switch. -/
structure Quiet (app : DDoSSimulationAPP K) : Prop where
  calm : app.isDDoSAttacking = false
  noDefence : ∀ entry ∈ app.sent, entry.2.isDefence = false

/-- The unread entropies are those of the latest windows, in order. -/
def Aligned (app : DDoSSimulationAPP K) (unread : List (Window K)) : Prop :=
  unread <:+ app.windows ∧
    app.currentSourceIpsEntropy = unread.map Window.sourceIpsEntropy ∧
    app.currentDestinationPortsEntropy = unread.map Window.destinationPortsEntropy

/-- The windows no verdict has judged, the oldest first. -/
def unread (app : DDoSSimulationAPP K) : List (Window K) :=
  app.windows.drop (app.windows.length - app.currentSourceIpsEntropy.length)

/-- The queues hold the entropies of the unread windows. -/
theorem Aligned.unread {app : DDoSSimulationAPP K} {unread : List (Window K)}
    (aligned : app.Aligned unread) : app.unread = unread := by
  obtain ⟨suffix, source, _⟩ := aligned
  rw [DDoSSimulationAPP.unread, source, List.length_map]
  exact (List.suffix_iff_eq_drop.mp suffix).symm

/-- A change that takes no verdict: windows may be added, and what is sent is no defence. -/
structure Observed (before after : DDoSSimulationAPP K) : Prop where
  isDDoSAttacking : after.isDDoSAttacking = before.isDDoSAttacking
  ddosingCount : after.ddosingCount = before.ddosingCount
  sent : ∃ messages, after.sent = before.sent ++ messages ∧
    ∀ entry ∈ messages, entry.2.isDefence = false
  windows : ∃ fresh, after.windows = before.windows ++ fresh ∧
    after.currentSourceIpsEntropy =
      before.currentSourceIpsEntropy ++ fresh.map Window.sourceIpsEntropy ∧
    after.currentDestinationPortsEntropy =
      before.currentDestinationPortsEntropy ++ fresh.map Window.destinationPortsEntropy

namespace Observed

variable {before middle after : DDoSSimulationAPP K}

theorem trans (first : Observed before middle) (second : Observed middle after) :
    Observed before after := by
  obtain ⟨firstMessages, firstSent, firstHarmless⟩ := first.sent
  obtain ⟨secondMessages, secondSent, secondHarmless⟩ := second.sent
  obtain ⟨firstFresh, firstWindows, firstSource, firstPorts⟩ := first.windows
  obtain ⟨secondFresh, secondWindows, secondSource, secondPorts⟩ := second.windows
  refine ⟨second.isDDoSAttacking.trans first.isDDoSAttacking,
    second.ddosingCount.trans first.ddosingCount,
    ⟨firstMessages ++ secondMessages, by rw [secondSent, firstSent, List.append_assoc], ?_⟩,
    ⟨firstFresh ++ secondFresh, by rw [secondWindows, firstWindows, List.append_assoc], ?_, ?_⟩⟩
  · intro entry member
    exact (List.mem_append.mp member).elim (firstHarmless entry) (secondHarmless entry)
  · rw [secondSource, firstSource, List.map_append, List.append_assoc]
  · rw [secondPorts, firstPorts, List.map_append, List.append_assoc]

/-- A change of other attributes that sends harmless messages. -/
theorem of_sent (isDDoSAttacking : after.isDDoSAttacking = before.isDDoSAttacking)
    (ddosingCount : after.ddosingCount = before.ddosingCount)
    (windows : after.windows = before.windows)
    (source : after.currentSourceIpsEntropy = before.currentSourceIpsEntropy)
    (ports : after.currentDestinationPortsEntropy = before.currentDestinationPortsEntropy)
    {messages : List (Nat × Message)} (sent : after.sent = before.sent ++ messages)
    (harmless : ∀ entry ∈ messages, entry.2.isDefence = false) : Observed before after :=
  ⟨isDDoSAttacking, ddosingCount, ⟨messages, sent, harmless⟩,
    ⟨[], by simp [windows], by simp [source], by simp [ports]⟩⟩

theorem of_same (isDDoSAttacking : after.isDDoSAttacking = before.isDDoSAttacking)
    (ddosingCount : after.ddosingCount = before.ddosingCount)
    (windows : after.windows = before.windows)
    (source : after.currentSourceIpsEntropy = before.currentSourceIpsEntropy)
    (ports : after.currentDestinationPortsEntropy = before.currentDestinationPortsEntropy)
    (sent : after.sent = before.sent) : Observed before after :=
  of_sent isDDoSAttacking ddosingCount windows source ports (sent.trans (List.append_nil _).symm)
    (by simp)

theorem quiet (observed : Observed before after) (quiet : before.Quiet) : after.Quiet := by
  obtain ⟨messages, sent, harmless⟩ := observed.sent
  refine ⟨observed.isDDoSAttacking.trans quiet.calm, ?_⟩
  intro entry member
  rw [sent] at member
  exact (List.mem_append.mp member).elim (quiet.noDefence entry) (harmless entry)

theorem aligned (observed : Observed before after) {unread : List (Window K)}
    (aligned : before.Aligned unread) : ∃ unread', after.Aligned unread' := by
  obtain ⟨fresh, windows, source, ports⟩ := observed.windows
  obtain ⟨⟨read, split⟩, sourceAligned, portsAligned⟩ := aligned
  refine ⟨unread ++ fresh, ⟨read, ?_⟩, ?_, ?_⟩
  · rw [windows, ← split, List.append_assoc]
  · rw [source, sourceAligned, List.map_append]
  · rw [ports, portsAligned, List.map_append]

end Observed

theorem isDefence_flowAddition (priority : Nat) (fields : OFPMatch) (actions : List OFPAction) :
    (flowAddition priority fields actions).isDefence = (priority == 4 || priority == 2) := rfl

theorem forwardMessages_harmless (event : PacketIn) (dst src : String) (outPort : Nat) :
    ∀ entry ∈ forwardMessages event dst src outPort, entry.2.isDefence = false := by
  intro entry member
  obtain rfl | rfl := forwardMessages_cases member
  · rfl
  · rfl

theorem switched_observed (event : PacketIn) (header : String × String × Nat)
    (app : DDoSSimulationAPP K) : Observed app (switched event header app) := by
  unfold switched
  split
  · exact .of_same rfl rfl rfl rfl rfl rfl
  · rw [forward_eq]
    exact .of_sent rfl rfl rfl rfl rfl rfl (forwardMessages_harmless _ _ _ _)

theorem enforceBans_observed (event : PacketIn) (app : DDoSSimulationAPP K) :
    Observed app (enforceBans event app) := by
  obtain ⟨rules, messages, unfolded, bans⟩ := enforceBans_bans event app
  rw [unfolded]
  refine .of_sent rfl rfl rfl rfl rfl rfl ?_
  intro entry member
  obtain ⟨ipProto, rfl⟩ := bans entry member
  rfl

/-- The counter of a calm detector is the balance, and it is below the alarm. -/
structure Balanced (app : DDoSSimulationAPP K) (total : Int) : Prop where
  quiet : app.Quiet
  counts : app.ddosingCount = total
  low : total ≤ 10

theorem Observed.balanced {before after : DDoSSimulationAPP K} (observed : Observed before after)
    {total : Int} (balanced : before.Balanced total) : after.Balanced total :=
  ⟨observed.quiet balanced.quiet, observed.ddosingCount.trans balanced.counts, balanced.low⟩

/-- The windows computed so far stay, and the unread entropies stay aligned. -/
def Follows (before after : DDoSSimulationAPP K) : Prop :=
  before.windows <+: after.windows ∧
    ∀ unread, before.Aligned unread → ∃ unread', after.Aligned unread'

theorem Follows.trans {before middle after : DDoSSimulationAPP K} (first : Follows before middle)
    (second : Follows middle after) : Follows before after := by
  refine ⟨first.1.trans second.1, fun unread aligned => ?_⟩
  obtain ⟨unread', aligned'⟩ := first.2 unread aligned
  exact second.2 unread' aligned'

theorem Observed.follows {before after : DDoSSimulationAPP K} (observed : Observed before after) :
    Follows before after := by
  obtain ⟨fresh, windows, _⟩ := observed.windows
  exact ⟨⟨fresh, windows.symm⟩, fun unread aligned => observed.aligned aligned⟩

end DDoSSimulationAPP

variable [EntropyArithmetic K]

/-- The window meets the detector's criterion for an attack. -/
def Window.Anomalous (window : Window K) : Prop :=
  window.sourceIpsEntropy < 1 ∨ window.destinationPortsEntropy < 1

instance (window : Window K) : Decidable window.Anomalous := inferInstanceAs (Decidable (_ ∨ _))

namespace DDoSSimulationAPP

/-- Every window computed so far is normal. -/
def AllNormal (app : DDoSSimulationAPP K) : Prop := ∀ window ∈ app.windows, ¬ window.Anomalous

instance (app : DDoSSimulationAPP K) : Decidable app.AllNormal :=
  inferInstanceAs (Decidable (∀ window ∈ app.windows, ¬ window.Anomalous))

/-- Normal windows alone raise no alarm. -/
def NoFalseAlarm (app : DDoSSimulationAPP K) : Prop := app.AllNormal → app.Quiet

/-- The packet is sampled, and the oldest window no verdict has judged is then anomalous. -/
def BringsAnomaly (app : DDoSSimulationAPP K) (message : PacketIn) : Prop :=
  ∃ sampled, (samplePacketIn message).run app = .ok () sampled ∧
    ∃ window ∈ sampled.unread.head?, window.Anomalous

/-- Only a packet-in that brings an unread anomalous window raises the counter. -/
def RaisesOnAnomaly (app : DDoSSimulationAPP K) (event : Event) : Prop :=
  ∀ message, event = .packetIn message →
    app.ddosingCount < (step app event).ddosingCount → app.BringsAnomaly message

/-- If the event asks for a verdict, the entropies of a window are in the queues by then. -/
def FindsWindow (app : DDoSSimulationAPP K) (event : Event) : Prop :=
  ∀ message sampled, event = .packetIn message → (samplePacketIn message).run app = .ok () sampled →
    sampled.ruleSet message.datapath "ip_white_table" = true → sampled.currentSourceIpsEntropy ≠ []

/-- What an event adds to the verdicts without a window: one if it takes a verdict
and no window is unread then, minus one if one is. -/
def verdictBalance (app : DDoSSimulationAPP K) : Event → Int
  | .packetIn message =>
      match (samplePacketIn message).run app with
      | .ok _ sampled =>
          if sampled.ruleSet message.datapath "ip_white_table" then
            if sampled.currentSourceIpsEntropy.isEmpty then 1 else -1
          else 0
      | .error _ _ => 0
  | _ => 0

/-- The balance over a run. -/
def balance (app : DDoSSimulationAPP K) : List Event → Int
  | [] => 0
  | event :: rest => verdictBalance app event + balance (step app event) rest

theorem processSampleQueue_observed (app : DDoSSimulationAPP K) :
    Observed app (processSampleQueue app) := by
  obtain ⟨computed, does⟩ := processSampleQueue_computed app
  exact ⟨does.isDDoSAttacking, does.ddosingCount, ⟨[], by simp [does.sent], by simp⟩,
    ⟨[computed], does.windows, does.sourceIpsEntropy, does.destinationPortsEntropy⟩⟩

/-- Sampling takes no verdict, whether it returns or raises. -/
theorem samplePacketIn_observed (event : PacketIn) (app : DDoSSimulationAPP K) :
    Observed app ((samplePacketIn event).leaves app) := by
  have sampled := samplePacketIn_sampled event app
  unfold Effect.leaves
  generalize (samplePacketIn event).run app = result at sampled
  cases sampled with
  | unparsed raises => exact .of_same rfl rfl rfl rfl rfl rfl
  | passed parses between =>
      exact (switched_observed event _ app).trans (.of_same rfl rfl rfl rfl rfl rfl)
  | refused parses decoded due raises =>
      exact (switched_observed event _ app).trans (.of_same rfl rfl rfl rfl rfl rfl)
  | counted parses decoded due sampled few =>
      exact (switched_observed event _ app).trans (.of_same rfl rfl rfl rfl rfl rfl)
  | @windowed header protocols sample parses decoded due sampled enough =>
      have admitted : Observed app { queueSample protocols sample (switched event header app) with
          packetCount := 0 } :=
        (switched_observed event header app).trans (.of_same rfl rfl rfl rfl rfl rfl)
      exact admitted.trans (processSampleQueue_observed _)

theorem samplePacketIn_observed_of_ok {event : PacketIn} {app sampled : DDoSSimulationAPP K}
    (returns : (samplePacketIn event).run app = .ok () sampled) : Observed app sampled :=
  Effect.leaves_of_ok returns ▸ samplePacketIn_observed event app

/-- A verdict is an attack unless there is an unread window and the oldest one is normal. -/
theorem Aligned.detects_iff {app : DDoSSimulationAPP K} {unread : List (Window K)}
    (aligned : app.Aligned unread) :
    (detectDdosByEntropy app).1 = true ↔ ∀ oldest ∈ unread.head?, oldest.Anomalous := by
  obtain ⟨_, source, ports⟩ := aligned
  cases unread with
  | nil => simp [detectDdosByEntropy, source, ports, EntropyArithmetic.zero_lt_one]
  | cons oldest later => simp [detectDdosByEntropy, source, ports, Window.Anomalous]

/-- A verdict without an unread window is an attack, one with a normal window is not. -/
theorem detect_of_aligned {app : DDoSSimulationAPP K} {unread : List (Window K)}
    (aligned : app.Aligned unread) (normal : app.AllNormal) :
    (detectDdosByEntropy app).1 = app.currentSourceIpsEntropy.isEmpty := by
  obtain ⟨⟨read, split⟩, source, ports⟩ := aligned
  cases unread with
  | nil => simp [detectDdosByEntropy, source, ports, EntropyArithmetic.zero_lt_one]
  | cons window later =>
      have latest : ¬ window.Anomalous := normal window (by simp [← split])
      obtain ⟨highSource, highPorts⟩ := not_or.mp latest
      simp [detectDdosByEntropy, source, ports, highSource, highPorts]

/-- Taking a verdict leaves the unread windows aligned. -/
theorem detect_aligned {app : DDoSSimulationAPP K} {unread : List (Window K)}
    (aligned : app.Aligned unread) : (detectDdosByEntropy app).2.Aligned unread.tail := by
  obtain ⟨suffix, source, ports⟩ := aligned
  refine ⟨(List.tail_suffix unread).trans suffix, ?_, ?_⟩
  · simp [detectDdosByEntropy, source, List.map_tail]
  · simp [detectDdosByEntropy, ports, List.map_tail]

theorem judge_quiet {app : DDoSSimulationAPP K} (quiet : app.Quiet) : (judge app).Quiet :=
  ⟨quiet.calm, quiet.noDefence⟩

/-- Below the alarm a verdict moves the counter by one. -/
theorem judge_count {app : DDoSSimulationAPP K} {unread : List (Window K)}
    (aligned : app.Aligned unread) (normal : app.AllNormal) (low : app.ddosingCount ≤ 10) :
    (judge app).ddosingCount =
      app.ddosingCount + if app.currentSourceIpsEntropy.isEmpty then 1 else -1 := by
  have counted : (judge app).ddosingCount =
      countVerdict (detectDdosByEntropy app).1 app.ddosingCount := rfl
  rw [counted, detect_of_aligned aligned normal]
  have notHigh : ¬ app.ddosingCount > 20 := by omega
  cases app.currentSourceIpsEntropy.isEmpty
  · simp only [countVerdict, notHigh, Bool.false_eq_true, if_false]
    omega
  · rfl

/-- A verdict on an enabled switch moves the counter of a calm detector with the balance. -/
theorem judge_balance {app sampled : DDoSSimulationAPP K} {message : PacketIn}
    (returns : (samplePacketIn message).run app = .ok () sampled)
    (on : sampled.ruleSet message.datapath "ip_white_table" = true) {unread : List (Window K)}
    {total : Int} (aligned : sampled.Aligned unread) (balanced : sampled.Balanced total)
    (normal : sampled.AllNormal) :
    (judge sampled).ddosingCount = total + verdictBalance app (.packetIn message) := by
  rw [judge_count aligned normal (balanced.counts.trans_le balanced.low), balanced.counts]
  simp [verdictBalance, returns, on]

theorem AllNormal.of_observed {before after : DDoSSimulationAPP K}
    (observed : Observed before after) (normal : after.AllNormal) : before.AllNormal := by
  obtain ⟨fresh, windows, _⟩ := observed.windows
  intro window member
  exact normal window (by simp [windows, member])

/-- Requests and handshakes take no verdict. -/
theorem step_observed (app : DDoSSimulationAPP K) (event : Event)
    (noPacket : ∀ message, event ≠ .packetIn message) : Observed app (step app event) := by
  have served := step_served app noPacket
  generalize step app event = after at served
  cases served with
  | protocolForbid body rules => exact .of_same rfl rfl rfl rfl rfl rfl
  | setIpWhiteTable dpid rules => exact .of_same rfl rfl rfl rfl rfl rfl
  | trafficEntropy => exact .of_same rfl rfl rfl rfl rfl rfl
  | switchFeatures datapath =>
      exact .of_sent rfl rfl rfl rfl rfl rfl (by simp [isDefence_flowAddition])

theorem detect_follows (app : DDoSSimulationAPP K) : Follows app (detectDdosByEntropy app).2 :=
  ⟨List.prefix_rfl, fun unread aligned => ⟨unread.tail, detect_aligned aligned⟩⟩

theorem judge_follows (app : DDoSSimulationAPP K) : Follows app (judge app) :=
  detect_follows app

/-- Every step keeps the windows and the alignment. -/
theorem step_follows (app : DDoSSimulationAPP K) (event : Event) :
    Follows app (step app event) := by
  by_cases packet : ∃ message, event = .packetIn message
  · obtain ⟨message, rfl⟩ := packet
    have after : Follows ((samplePacketIn message).leaves app) (step app (.packetIn message)) := by
      refine packetIn_after_sampling Follows message ?_ (fun _ _ _ => Follows.trans) detect_follows
        judge_follows ?_ (fun app => (enforceBans_observed message app).follows) app
      · exact fun app => ⟨List.prefix_rfl, fun unread aligned => ⟨unread, aligned⟩⟩
      · intro app
        rw [createDefenseFlowRule_eq]
        exact ⟨List.prefix_rfl, fun unread aligned => ⟨unread, aligned⟩⟩
    exact (samplePacketIn_observed message app).follows.trans after
  · exact (step_observed app event fun message same => packet ⟨message, same⟩).follows

/-- What a packet-in does to a calm detector, when all windows stay normal. -/
theorem packetIn_balanced {app : DDoSSimulationAPP K} {unread : List (Window K)} {total : Int}
    (aligned : app.Aligned unread) (balanced : app.Balanced total) (message : PacketIn)
    (normal : (step app (.packetIn message)).AllNormal) :
    if total + verdictBalance app (.packetIn message) ≤ 10 then
      (step app (.packetIn message)).Balanced (total + verdictBalance app (.packetIn message))
    else ¬ (step app (.packetIn message)).Quiet := by
  have low := balanced.low
  have handled := packetInHandler_handled message app
  simp only [step] at normal ⊢
  generalize (packetInHandler message).leaves app = after at handled normal
  cases handled with
  | @refused error sampled raises =>
      have none : verdictBalance app (.packetIn message) = 0 := by simp [verdictBalance, raises]
      simpa [none, low] using (Effect.leaves_of_error raises ▸ samplePacketIn_observed message app :
        Observed app after).balanced balanced
  | @unguarded sampled returns off =>
      have none : verdictBalance app (.packetIn message) = 0 := by
        simp [verdictBalance, returns, off]
      have sampledBalanced := (samplePacketIn_observed_of_ok returns).balanced balanced
      simpa [none, low] using (enforceBans_observed message sampled).balanced sampledBalanced
  | @noted sampled returns on settled =>
      have observed := samplePacketIn_observed_of_ok returns
      obtain ⟨unread', aligned'⟩ := observed.aligned aligned
      have sampledBalanced := observed.balanced balanced
      have judgedNormal : (judge sampled).AllNormal :=
        .of_observed (enforceBans_observed message (judge sampled)) normal
      have sampledNormal : sampled.AllNormal := judgedNormal
      have counted := judge_balance returns on aligned' sampledBalanced sampledNormal
      have notHigh : ¬ (judge sampled).ddosingCount > 10 := by
        rw [settled, sampledBalanced.quiet.calm]
        exact Bool.false_ne_true
      have stays : total + verdictBalance app (.packetIn message) ≤ 10 := by omega
      rw [if_pos stays]
      exact (enforceBans_observed message (judge sampled)).balanced
        ⟨judge_quiet sampledBalanced.quiet, counted, stays⟩
  | @alarmed sampled returns on high calm =>
      have observed := samplePacketIn_observed_of_ok returns
      obtain ⟨unread', aligned'⟩ := observed.aligned aligned
      have sampledBalanced := observed.balanced balanced
      have attacked := (enforceBans_observed message
        { createDefenseFlowRule message (judge sampled) with isDDoSAttacking := true })
      have sampledNormal : sampled.AllNormal := by
        have created := AllNormal.of_observed attacked normal
        rw [createDefenseFlowRule_eq] at created
        exact created
      have counted := judge_balance returns on aligned' sampledBalanced sampledNormal
      have exceeds : ¬ total + verdictBalance app (.packetIn message) ≤ 10 := by omega
      rw [if_neg exceeds]
      intro quiet
      exact Bool.noConfusion (attacked.isDDoSAttacking.symm.trans quiet.calm)
  | @doubted sampled returns on low' attacking anomalous =>
      have calm := ((samplePacketIn_observed_of_ok returns).balanced balanced).quiet.calm
      simp [calm] at attacking
  | @failed sampled returns on low' attacking normal' =>
      have calm := ((samplePacketIn_observed_of_ok returns).balanced balanced).quiet.calm
      simp [calm] at attacking

/-- What any event does to a calm detector, when all windows stay normal. -/
theorem step_balanced {app : DDoSSimulationAPP K} {unread : List (Window K)} {total : Int}
    (aligned : app.Aligned unread) (balanced : app.Balanced total) (event : Event)
    (normal : (step app event).AllNormal) :
    if total + verdictBalance app event ≤ 10 then
      (step app event).Balanced (total + verdictBalance app event)
    else ¬ (step app event).Quiet := by
  by_cases packet : ∃ message, event = .packetIn message
  · obtain ⟨message, rfl⟩ := packet
    exact packetIn_balanced aligned balanced message normal
  · have observed := step_observed app event fun message same => packet ⟨message, same⟩
    have none : verdictBalance app event = 0 := by
      cases event with
      | packetIn message => exact absurd ⟨message, rfl⟩ packet
      | _ => rfl
    simpa [none, balanced.low] using observed.balanced balanced

theorem AllNormal.of_follows {before after : DDoSSimulationAPP K} (follows : Follows before after)
    (normal : after.AllNormal) : before.AllNormal :=
  fun window member => normal window (follows.1.subset member)

/-- From a state which is calm as long as its windows are normal, the balance
decides. The induction is on the events; the total carries what came before. -/
theorem along_noFalseAlarm_iff {app : DDoSSimulationAPP K} {unread : List (Window K)} {total : Int}
    (aligned : app.Aligned unread) (balanced : app.AllNormal → app.Balanced total)
    (events : List Event) :
    Along step NoFalseAlarm app events ↔
      ∀ first, first <+: events → (run step app first).AllNormal →
        total + balance app first ≤ 10 := by
  induction events generalizing app unread total with
  | nil =>
      constructor
      · intro _ first within normal
        rw [List.prefix_nil.mp within] at normal ⊢
        simpa [balance] using (balanced normal).low
      · exact fun _ normal => (balanced normal).quiet
  | cons event rest inductionHypothesis =>
      obtain ⟨unread', aligned'⟩ := (step_follows app event).2 unread aligned
      have here : app.NoFalseAlarm := fun normal => (balanced normal).quiet
      have bounds : (∀ first, first <+: event :: rest → (run step app first).AllNormal →
            total + balance app first ≤ 10) ↔
          ∀ first, first <+: rest → (run step (step app event) first).AllNormal →
            total + verdictBalance app event + balance (step app event) first ≤ 10 := by
        constructor
        · intro bounded first within normal
          have := bounded (event :: first) (List.cons_prefix_cons.mpr ⟨rfl, within⟩) normal
          simpa [balance, add_assoc] using this
        · intro bounded first within normal
          cases first with
          | nil => simpa [balance] using (balanced normal).low
          | cons head tail =>
              obtain ⟨rfl, tailWithin⟩ := List.cons_prefix_cons.mp within
              simpa [balance, add_assoc] using bounded tail tailWithin normal
      rw [bounds, Along]
      by_cases stays : (step app event).AllNormal → total + verdictBalance app event ≤ 10
      · have next : (step app event).AllNormal →
            (step app event).Balanced (total + verdictBalance app event) := by
          intro normal
          have before := balanced (normal.of_follows (step_follows app event))
          have after := step_balanced aligned before event normal
          rwa [if_pos (stays normal)] at after
        rw [← inductionHypothesis aligned' next]
        exact ⟨And.right, fun later => ⟨here, later⟩⟩
      · obtain ⟨normal, exceeds⟩ := Classical.not_imp.mp stays
        have before := balanced (normal.of_follows (step_follows app event))
        have alarmed := step_balanced aligned before event normal
        rw [if_neg exceeds] at alarmed
        constructor
        · rintro ⟨_, later⟩
          exact absurd (later.first normal) alarmed
        · intro bounded
          have := bounded [] List.nil_prefix normal
          exact absurd (by simpa [balance] using this) exceeds

/-- A verdict raises the counter exactly if it is an attack. -/
theorem lt_countVerdict_iff (anomalous : Bool) (count : Int) :
    count < countVerdict anomalous count ↔ anomalous = true := by
  cases anomalous with
  | true => simp [countVerdict]
  | false =>
      simp only [countVerdict, Bool.false_eq_true, if_false, iff_false]
      split <;> omega

/-- The packet-in asks for a verdict, which is taken in this state. -/
def Judges (app : DDoSSimulationAPP K) (message : PacketIn) (sampled : DDoSSimulationAPP K) :
    Prop :=
  (samplePacketIn message).run app = .ok () sampled ∧
    sampled.ruleSet message.datapath "ip_white_table" = true

/-- The first verdict is the one that counts, whatever follows it. -/
theorem Judges.count {app sampled : DDoSSimulationAPP K} {message : PacketIn}
    (judges : app.Judges message sampled) :
    (step app (.packetIn message)).ddosingCount =
      countVerdict (detectDdosByEntropy sampled).1 app.ddosingCount := by
  obtain ⟨returns, on⟩ := judges
  have kept : sampled.ddosingCount = app.ddosingCount :=
    (samplePacketIn_observed_of_ok returns).ddosingCount
  have counted : (judge sampled).ddosingCount =
      countVerdict (detectDdosByEntropy sampled).1 app.ddosingCount := by
    rw [← kept]
    rfl
  rw [← counted]
  have handled := packetInHandler_handled message app
  simp only [step]
  generalize (packetInHandler message).leaves app = after at handled
  cases handled with
  | refused raises => cases returns.symm.trans raises
  | unguarded returns' off =>
      cases returns.symm.trans returns'
      exact Bool.noConfusion (on.symm.trans off)
  | noted returns' =>
      cases returns.symm.trans returns'
      exact (enforceBans_observed message _).ddosingCount
  | alarmed returns' =>
      cases returns.symm.trans returns'
      rw [(enforceBans_observed message _).ddosingCount, createDefenseFlowRule_eq]
  | doubted returns' =>
      cases returns.symm.trans returns'
      exact (enforceBans_observed message _).ddosingCount
  | failed returns' =>
      cases returns.symm.trans returns'
      rfl

/-- Without a verdict the counter stays. -/
theorem count_of_not_judges {app : DDoSSimulationAPP K} {message : PacketIn}
    (unjudged : ∀ sampled, ¬ app.Judges message sampled) :
    (step app (.packetIn message)).ddosingCount = app.ddosingCount := by
  have handled := packetInHandler_handled message app
  simp only [step]
  generalize (packetInHandler message).leaves app = after at handled
  cases handled with
  | refused raises =>
      exact (Effect.leaves_of_error raises ▸ samplePacketIn_observed message app :
        Observed app after).ddosingCount
  | unguarded returns off =>
      exact (enforceBans_observed message _).ddosingCount.trans
        (samplePacketIn_observed_of_ok returns).ddosingCount
  | noted returns on => exact absurd ⟨returns, on⟩ (unjudged _)
  | alarmed returns on => exact absurd ⟨returns, on⟩ (unjudged _)
  | doubted returns on => exact absurd ⟨returns, on⟩ (unjudged _)
  | failed returns on => exact absurd ⟨returns, on⟩ (unjudged _)

/-- A verdict on empty queues raises the counter without a window, any other verdict
raises it for the window it judges. -/
theorem raisesOnAnomaly_iff {app : DDoSSimulationAPP K} {unread : List (Window K)}
    (aligned : app.Aligned unread) (event : Event) :
    RaisesOnAnomaly app event ↔ FindsWindow app event := by
  constructor
  · rintro raises message sampled rfl returns on empty
    obtain ⟨unread', aligned'⟩ := (samplePacketIn_observed_of_ok returns).aligned aligned
    have none : unread' = [] := List.map_eq_nil_iff.mp (aligned'.2.1.symm.trans empty)
    have attack : (detectDdosByEntropy sampled).1 = true :=
      aligned'.detects_iff.mpr (by simp [none])
    have raised : app.ddosingCount < (step app (.packetIn message)).ddosingCount := by
      rw [Judges.count ⟨returns, on⟩]
      exact (lt_countVerdict_iff _ _).mpr attack
    obtain ⟨brought, returns', window, first, _⟩ := raises message rfl raised
    cases returns.symm.trans returns'
    rw [aligned'.unread, none] at first
    cases first
  · rintro finds message rfl raised
    by_cases judged : ∃ sampled, app.Judges message sampled
    · obtain ⟨sampled, returns, on⟩ := judged
      obtain ⟨unread', aligned'⟩ := (samplePacketIn_observed_of_ok returns).aligned aligned
      rw [Judges.count ⟨returns, on⟩, lt_countVerdict_iff, aligned'.detects_iff] at raised
      refine ⟨sampled, returns, ?_⟩
      rw [aligned'.unread]
      cases unread' with
      | nil => exact absurd aligned'.2.1 (finds message sampled rfl returns on)
      | cons oldest later => exact ⟨oldest, rfl, raised oldest rfl⟩
    · rw [count_of_not_judges fun sampled judges => judged ⟨sampled, judges⟩] at raised
      exact absurd raised (lt_irrefl _)

/-- A verdict that finds a window does not add to the balance. -/
theorem FindsWindow.verdictBalance_le {app : DDoSSimulationAPP K} {event : Event}
    (finds : FindsWindow app event) : verdictBalance app event ≤ 0 := by
  cases event with
  | packetIn message =>
      cases outcome : (samplePacketIn message).run app with
      | error error sampled => simp [verdictBalance, outcome]
      | ok value sampled =>
          by_cases on : sampled.ruleSet message.datapath "ip_white_table" = true
          · simp [verdictBalance, outcome, on, finds message sampled rfl outcome on]
          · simp [verdictBalance, outcome, on]
  | _ => exact le_rfl

theorem balance_le_of_finds {app : DDoSSimulationAPP K} {events : List Event}
    (finds : Each step FindsWindow app events) {first : List Event} (within : first <+: events) :
    balance app first ≤ 0 := by
  induction first generalizing app events with
  | nil => exact le_rfl
  | cons event rest inductionHypothesis =>
      obtain ⟨later, rfl⟩ := within
      have here := FindsWindow.verdictBalance_le finds.1
      have after := inductionHypothesis finds.2 ⟨later, rfl⟩
      simp only [balance]
      omega

/-- On every run of packets, handshakes and requests, normal windows alone raise no
alarm in any state and no packet without an unread anomalous window raises the counter,
exactly if every verdict finds an unread window. -/
theorem no_false_alarm_iff (events : List Event) :
    Along step NoFalseAlarm (init : DDoSSimulationAPP K) events ∧
        Each step RaisesOnAnomaly (init : DDoSSimulationAPP K) events ↔
      Each step FindsWindow (init : DDoSSimulationAPP K) events := by
  have aligned : (init : DDoSSimulationAPP K).Aligned [] := ⟨List.nil_suffix, rfl, rfl⟩
  have counter : Each step RaisesOnAnomaly (init : DDoSSimulationAPP K) events ↔
      Each step FindsWindow (init : DDoSSimulationAPP K) events := by
    refine each_congr_of_invariant (fun app : DDoSSimulationAPP K => ∃ unread, app.Aligned unread)
      (fun app event known => ?_) (fun app event known => ?_) ⟨[], aligned⟩ events
    · obtain ⟨unread, known⟩ := known
      exact (step_follows app event).2 unread known
    · obtain ⟨unread, known⟩ := known
      exact raisesOnAnomaly_iff known event
  rw [counter]
  refine ⟨And.right, fun finds => ⟨?_, finds⟩⟩
  have balanced : (init : DDoSSimulationAPP K).AllNormal →
      (init : DDoSSimulationAPP K).Balanced 0 :=
    fun _ => ⟨⟨rfl, by simp [init]⟩, rfl, by decide⟩
  refine (along_noFalseAlarm_iff aligned balanced events).mpr fun first within _ => ?_
  have := balance_le_of_finds finds within
  omega

/-- Eleven packets, and no window yet: the attack is declared. -/
theorem eleven_packets_alarm :
    ¬ (Along step NoFalseAlarm (init : DDoSSimulationAPP Rat)
        (guardedSwitch ++ List.replicate 11 (.packetIn (arpFrom 1))) ∧
      Each step RaisesOnAnomaly (init : DDoSSimulationAPP Rat)
        (guardedSwitch ++ List.replicate 11 (.packetIn (arpFrom 1)))) := by
  rintro ⟨along, _⟩
  have quiet := along.last (by decide +kernel)
  exact absurd quiet.calm (by decide +kernel)

end DDoSSimulationAPP
end NetworkAdapter
