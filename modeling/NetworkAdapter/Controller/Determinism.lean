import NetworkAdapter.Controller.Learning

/-!
# Overlapping flows

A handshake installs the table-miss rule with priority 0, and so does address
learning its flows, which match some of the frames the table-miss rule matches.
That is the only clash between installers: a switch which has not both is
deterministic, whatever else was installed on it, and one which has both is not.
-/

namespace NetworkAdapter.DDoSSimulationAPP

open Execution FlowTable

variable {K : Type}

/-- The rules in a flow table; `missRule` and `learnedRule` say whether the table-miss
rule and learned flows are among them. -/
inductive InstalledRule (missRule learnedRule : Prop) : Nat → OFPMatch → List OFPAction → Prop where
  | fixed {priority : Nat} {fields : OFPMatch} {actions : List OFPAction}
      (fixed : FixedRule missRule priority fields actions) :
      InstalledRule missRule learnedRule priority fields actions
  | learned (installed : learnedRule) (inPort : Nat) (dst src : String) (port : Nat) :
      InstalledRule missRule learnedRule 0 (learnedMatch inPort dst src) (outputTo port)

/-- A frame has one ingress port and one pair of addresses. -/
theorem learnedMatch_overlap {inPort otherPort : Nat} {dst src otherDst otherSrc : String}
    {frame : Frame} (first : (learnedMatch inPort dst src).admits frame)
    (second : (learnedMatch otherPort otherDst otherSrc).admits frame) :
    learnedMatch inPort dst src = learnedMatch otherPort otherDst otherSrc := by
  simp only [OFPMatch.admits, OFPMatch.covers, learnedMatch, fieldCovers, Frame.fields,
    Option.isNone_some, Option.isNone_none, Bool.false_or, Bool.true_or, Bool.and_true,
    Bool.and_eq_true, decide_eq_true_eq, Option.some.injEq] at first second
  obtain ⟨⟨rfl, rfl⟩, rfl⟩ := first
  obtain ⟨⟨rfl, rfl⟩, rfl⟩ := second
  rfl

/-- The table-miss rule and a learned flow overlap, but no two other rules of one
priority differ where they overlap. -/
theorem InstalledRule.agree {missRule learnedRule : Prop} (apart : ¬ (missRule ∧ learnedRule))
    {priority : Nat} {first second : OFPMatch} {firstActions secondActions : List OFPAction}
    (one : InstalledRule missRule learnedRule priority first firstActions)
    (two : InstalledRule missRule learnedRule priority second secondActions)
    (different : first ≠ second)
    (overlap : ∃ frame, first.admits frame ∧ second.admits frame) :
    firstActions = secondActions := by
  cases one with
  | fixed one =>
      cases two with
      | fixed two => cases one <;> cases two <;> rfl
      | learned installed =>
          cases one with
          | miss missed => exact absurd ⟨missed, installed⟩ apart
  | learned installed =>
      cases two with
      | fixed two =>
          cases two with
          | miss missed => exact absurd ⟨missed, installed⟩ apart
      | learned _ =>
          obtain ⟨frame, admitsFirst, admitsSecond⟩ := overlap
          exact absurd (learnedMatch_overlap admitsFirst admitsSecond) different

/-- Some packet-in taught a flow of the switch. -/
def FlowTaught (history : List PacketIn) (datapath : Nat) : Prop :=
  ∃ inPort dst src port, Taught datapath inPort dst src history port

/-- No learned flow has this match. -/
def Unlearned (fields : OFPMatch) : Prop := ∀ inPort dst src, fields ≠ learnedMatch inPort dst src

/-- What is in the flow tables, by the switches that shook hands and the packets learned from. -/
structure Tables (handshaken : Nat → Prop) (history : List PacketIn)
    (app : DDoSSimulationAPP K) : Prop where
  learned : Learned history app
  fixed : ∀ datapath priority fields actions, Unlearned fields →
    (app.flows datapath).get? (priority, fields) = some actions →
      FixedRule (handshaken datapath) priority fields actions
  missed : ∀ datapath, handshaken datapath → (app.flows datapath).get? (0, {}) = some toController

theorem unlearned_wildcard : Unlearned {} := by
  intro inPort dst src same
  simp [learnedMatch] at same

/-- Forwarding leaves alone the slots of other flows. -/
theorem get?_flows_switched (event : PacketIn) (header : String × String × Nat)
    (app : DDoSSimulationAPP K) (datapath priority : Nat) {fields : OFPMatch}
    (unlearned : Unlearned fields) :
    ((switched event header app).flows datapath).get? (priority, fields) =
      (app.flows datapath).get? (priority, fields) := by
  unfold switched
  split
  · rfl
  · rw [flows_forward]
    have before : (learn event header.2.1 app).flows datapath = app.flows datapath := rfl
    simp only [before]
    split
    · have apart : ¬ (0, learnedMatch event.inPort header.1 header.2.1) = (priority, fields) :=
        fun same => unlearned _ _ _ (Prod.mk.inj same).2.symm
      rw [FlowTable.add, Dict.get?_set, if_neg apart]
    · rfl

theorem Tables.of_sends {handshaken after' missed : Nat → Prop} {history : List PacketIn}
    {before after : DDoSSimulationAPP K} (tables : Tables handshaken history before)
    (sends : Sends missed before after)
    (grows : ∀ datapath, after' datapath ↔ handshaken datapath ∨ missed datapath)
    (sent : ∀ datapath, missed datapath → (after.flows datapath).get? (0, {}) = some toController) :
    Tables after' history after := by
  constructor
  · exact tables.learned.of_sends sends
  · intro datapath priority fields actions unlearned found
    rcases sends.get?_flows datapath (priority, fields) with kept | ⟨added, new, fixed⟩
    · have old := tables.fixed datapath priority fields actions unlearned (kept.symm.trans found)
      exact old.mono fun was => (grows datapath).mpr (.inl was)
    · cases new.symm.trans found
      exact fixed.mono fun now => (grows datapath).mpr (.inr now)
  · intro datapath known
    rcases (grows datapath).mp known with was | now
    · rcases sends.get?_flows datapath (0, {}) with kept | ⟨added, new, fixed⟩
      · exact kept.trans (tables.missed datapath was)
      · -- Only the table-miss rule itself takes its slot.
        cases fixed with
        | miss => exact new
    · exact sent datapath now

/-- Installers other than the handshake. -/
theorem Tables.of_sendsOther {handshaken : Nat → Prop} {history : List PacketIn}
    {before after : DDoSSimulationAPP K} (tables : Tables handshaken history before)
    (sends : SendsOther before after) : Tables handshaken history after :=
  tables.of_sends sends (by simp) (by simp)

/-- Learning from a parsed packet and forwarding it. -/
theorem Tables.switch {handshaken : Nat → Prop} {history : List PacketIn}
    {app : DDoSSimulationAPP K} (tables : Tables handshaken history app) {event : PacketIn}
    {header : String × String × Nat} (parses : ethernetHeader event = .ok header) :
    Tables handshaken (history ++ [event]) (switched event header app) := by
  constructor
  · exact tables.learned.switch parses
  · intro datapath priority fields actions unlearned found
    rw [get?_flows_switched event header app datapath priority unlearned] at found
    exact tables.fixed datapath priority fields actions unlearned found
  · intro datapath known
    rw [get?_flows_switched event header app datapath 0 unlearned_wildcard]
    exact tables.missed datapath known

/-- A packet-in, however else it is handled. -/
theorem Tables.switches {handshaken : Nat → Prop} {history : List PacketIn} {event : PacketIn}
    {before after : DDoSSimulationAPP K} (tables : Tables handshaken history before)
    (switches : Switches event before after) : Tables handshaken (history ++ [event]) after := by
  unfold Switches at switches
  cases parses : ethernetHeader event with
  | ok header =>
      simp only [parses] at switches
      exact (tables.switch parses).of_sendsOther switches
  | error error =>
      simp only [parses] at switches
      have unread : Tables handshaken (history ++ [event]) before :=
        { tables with learned := tables.learned.ignore (by simp [parses]) }
      exact unread.of_sendsOther switches

/-- A switch is deterministic unless it has both the table-miss rule and a learned flow. -/
theorem Tables.deterministic_iff {handshaken : Nat → Prop} {history : List PacketIn}
    {app : DDoSSimulationAPP K} (tables : Tables handshaken history app) (datapath : Nat) :
    Deterministic OFPMatch.admits (app.flows datapath) ↔
      ¬ (handshaken datapath ∧ FlowTaught history datapath) := by
  constructor
  · rintro deterministic ⟨known, inPort, dst, src, port, taught⟩
    have miss := tables.missed datapath known
    have flow := (tables.learned.flows datapath 0 inPort dst src (outputTo port)).mpr
      ⟨rfl, port, rfl, taught⟩
    -- Both match a frame with the addresses of the learned flow.
    have overlap : ∃ frame, ({} : OFPMatch).admits frame ∧
        (learnedMatch inPort dst src).admits frame := by
      refine ⟨⟨inPort, dst, src, 0, none, none⟩, ?_, ?_⟩ <;>
        simp [OFPMatch.admits, OFPMatch.covers, learnedMatch, fieldCovers, Frame.fields]
    have same := deterministic 0 {} (learnedMatch inPort dst src) toController (outputTo port)
      miss flow overlap
    simp [toController, outputTo, ofpcmlNoBuffer, ofpcmlMax] at same
  · intro apart
    have conforms : Conforms (InstalledRule (handshaken datapath) (FlowTaught history datapath))
        (app.flows datapath) := by
      intro priority fields actions found
      by_cases unlearned : Unlearned fields
      · exact .fixed (tables.fixed datapath priority fields actions unlearned found)
      · have learned : ∃ inPort dst src, fields = learnedMatch inPort dst src := by
          simpa [Unlearned] using unlearned
        obtain ⟨inPort, dst, src, rfl⟩ := learned
        obtain ⟨rfl, port, rfl, taught⟩ := (tables.learned.flows ..).mp found
        exact .learned ⟨inPort, dst, src, port, taught⟩ inPort dst src port
    exact conforms.deterministic fun _ _ _ _ _ => InstalledRule.agree apart

theorem tables_init : Tables (fun _ => False) [] (init : DDoSSimulationAPP K) := by
  refine ⟨learned_init, ?_, fun _ known => known.elim⟩
  intro datapath priority fields actions _ found
  simp [DDoSSimulationAPP.flows, init, tableAfter] at found

theorem flows_switchFeatures (datapath : Nat) (app : DDoSSimulationAPP K) :
    ((switchFeaturesHandler datapath app).flows datapath).get? (0, {}) = some toController := by
  simp [switchFeaturesHandler_eq, addFlowMissRule, addFlow, sendMsg, DDoSSimulationAPP.flows,
    flowAddition, Message.apply, FlowTable.add]

variable [EntropyArithmetic K]

/-- The installers. Each can be invoked by itself, with whatever whitelist and
protocol ratios there are when a defence is created. -/
inductive Installation (K : Type) where
  | handshake (datapath : Nat)
  | learning (event : PacketIn)
  | icmpBan (event : PacketIn)
  | tcpBan (event : PacketIn)
  | udpBan (event : PacketIn)
  | sampling (datapath : Nat)
  | defence (event : PacketIn) (whiteIpTable : Dict String Bool)
      (currentProtocolRate : Dict Protocol K)

/-- One invocation. -/
def install (app : DDoSSimulationAPP K) : Installation K → DDoSSimulationAPP K
  | .handshake datapath => switchFeaturesHandler datapath app
  | .learning event => (switchMacToPort event).leaves app
  | .icmpBan event => addFlowIcmpDrop event app
  | .tcpBan event => addFlowTcpDrop event app
  | .udpBan event => addFlowUdpDrop event app
  | .sampling datapath => requestSamplingPackets datapath app
  | .defence event whiteIpTable currentProtocolRate =>
      createDefenseFlowRule event { app with
        whiteIpTable := whiteIpTable
        currentProtocolRate := currentProtocolRate }

/-- The packets learned from. -/
def learnings (installations : List (Installation K)) : List PacketIn :=
  installations.filterMap fun
    | .learning event => some event
    | _ => none

theorem run_install_tables (installations : List (Installation K)) :
    Tables (fun datapath => .handshake datapath ∈ installations) (learnings installations)
      (run install init installations) := by
  induction installations using List.reverseRecOn with
  | nil => simpa [learnings] using tables_init
  | append_singleton earlier installation inductionHypothesis =>
      rw [run_append, run_cons, run_nil, learnings, List.filterMap_append, ← learnings, ← learnings]
      generalize run install init earlier = app at inductionHypothesis
      -- Neither a handshake nor learning: only fixed rules are sent, and not the table-miss rule.
      have other (sends : SendsOther app (install app installation))
          (noHandshake : ∀ datapath, installation ≠ .handshake datapath)
          (silent : learnings [installation] = []) :
          Tables (fun datapath => .handshake datapath ∈ earlier ++ [installation])
            (learnings earlier ++ learnings [installation]) (install app installation) := by
        rw [silent, List.append_nil]
        refine inductionHypothesis.of_sends sends (fun datapath => ?_) (fun _ known => known.elim)
        simp [(noHandshake datapath).symm]
      cases installation with
      | handshake datapath =>
          have sends := step_sends app (.switchFeatures datapath) (by simp)
          have silent : learnings [(.handshake datapath : Installation K)] = [] := rfl
          rw [silent, List.append_nil]
          refine inductionHypothesis.of_sends sends (fun other => ?_) ?_
          · simp [eq_comm]
          · rintro _ ⟨⟩
            exact flows_switchFeatures datapath app
      | learning event =>
          have grown := inductionHypothesis.switches (switchMacToPort_switches event app)
          simpa [learnings, install] using grown
      | icmpBan event =>
          exact other (.one rfl rfl (flowAddition_adds (.ban ipprotoIcmp))) (by simp) rfl
      | tcpBan event =>
          exact other (.one rfl rfl (flowAddition_adds (.ban ipprotoTcp))) (by simp) rfl
      | udpBan event =>
          exact other (.one rfl rfl (flowAddition_adds (.ban ipprotoUdp))) (by simp) rfl
      | sampling datapath =>
          exact other (.one rfl rfl (flowAddition_adds .sampling)) (by simp) rfl
      | defence event whiteIpTable currentProtocolRate =>
          have prepared : SendsOther app { app with
              whiteIpTable := whiteIpTable
              currentProtocolRate := currentProtocolRate } :=
            .of_same rfl rfl
          exact other (prepared.trans (createDefenseFlowRule_sends event _)) (by simp) rfl

/-- Forwarding is deterministic on a switch, after any sequence of installations, unless
the switch shook hands and a packet-in taught it a flow. -/
theorem forwarding_deterministic_iff (installations : List (Installation K)) (datapath : Nat) :
    Deterministic OFPMatch.admits ((run install init installations).flows datapath) ↔
      ¬ (.handshake datapath ∈ installations ∧ FlowTaught (learnings installations) datapath) :=
  (run_install_tables installations).deterministic_iff datapath

/-- The table-miss rule, and the answer to a host. -/
def answeredHost : List (Installation Rat) :=
  [.handshake 1, .learning (hostFrame "a" "b" 1), .learning (hostFrame "b" "a" 2)]

/-- Further answers go to the host or to the controller. -/
theorem answered_host_overlaps_miss :
    ¬ ∀ (installations : List (Installation Rat)) (datapath : Nat),
      Deterministic OFPMatch.admits ((run install init installations).flows datapath) := by
  intro deterministic
  have same := deterministic answeredHost 1 0 {} (learnedMatch 2 "a" "b") toController
    (outputTo 1) (by decide +kernel) (by decide +kernel)
    ⟨⟨2, "a", "b", ethTypeIp, none, none⟩, by decide +kernel, by decide +kernel⟩
  revert same
  decide +kernel

/-- The controller's own runs. -/
theorem run_tables (events : List Event) :
    Tables (fun datapath => .switchFeatures datapath ∈ events) (packetIns events)
      (run step (init : DDoSSimulationAPP K) events) := by
  induction events using List.reverseRecOn with
  | nil => simpa [packetIns] using tables_init
  | append_singleton earlier event inductionHypothesis =>
      rw [run_append, run_cons, run_nil]
      by_cases packet : ∃ message, event = .packetIn message
      · obtain ⟨message, rfl⟩ := packet
        rw [packetIns_append_packetIn]
        simpa using inductionHypothesis.switches (packetIn_switches message _)
      · have other : ∀ message, event ≠ .packetIn message := fun message same =>
          packet ⟨message, same⟩
        rw [packetIns_append_other earlier other]
        refine inductionHypothesis.of_sends (step_sends _ event other) (fun datapath => ?_) ?_
        · simp [eq_comm]
        · rintro datapath rfl
          exact flows_switchFeatures datapath _

/-- The same on the controller itself, whatever reaches it. -/
theorem flows_deterministic_iff (events : List Event) (datapath : Nat) :
    Deterministic OFPMatch.admits
        ((run step (init : DDoSSimulationAPP K) events).flows datapath) ↔
      ¬ (.switchFeatures datapath ∈ events ∧ FlowTaught (packetIns events) datapath) :=
  (run_tables events).deterministic_iff datapath

end NetworkAdapter.DDoSSimulationAPP
