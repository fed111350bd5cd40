import NetworkAdapter.Controller.BanLookup

/-!
# What the whitelist defence restricts

The default drop of the defence is meant for other IP traffic, but it matches every frame.
IPv4 is treated as intended; what is not IPv4 loses the entries that handled it.
-/

namespace NetworkAdapter.DDoSSimulationAPP

open Execution FlowTable

variable {K : Type}

/-- The rules on a switch before a defence and without sampling. -/
inductive BuiltRule : Nat → OFPMatch → List OFPAction → Prop where
  | miss : BuiltRule 0 {} toController
  | learned (inPort : Nat) (dst src : String) (port : Nat) :
      BuiltRule 0 (learnedMatch inPort dst src) (outputTo port)
  | ban (ipProto : Nat) : BuiltRule 3 (protocolMatch ipProto) []

theorem whiteMatch_admits {ip : String} {frame : Frame} :
    (whiteMatch ip).admits frame ↔ frame.ethType = ethTypeIp ∧ frame.ipv4Dst = some ip := by
  simp only [OFPMatch.admits, OFPMatch.covers, whiteMatch, fieldCovers, Frame.fields,
    Option.isNone_some, Option.isNone_none, Bool.false_or, Bool.true_or, Bool.true_and,
    Bool.and_true, Bool.and_eq_true, decide_eq_true_eq, Option.some.injEq]
  exact and_congr eq_comm (decide_eq_true_iff.trans eq_comm)

theorem wildcard_admits (frame : Frame) : ({} : OFPMatch).admits frame := by
  simp [OFPMatch.admits, OFPMatch.covers, fieldCovers]

/-- Messages to other switches do not count. -/
theorem applyAll_elsewhere {datapath : Nat} {messages : List (Nat × Message)}
    (elsewhere : ∀ entry ∈ messages, entry.1 ≠ datapath) (table : SwitchTable) :
    applyAll datapath table messages = table := by
  induction messages generalizing table with
  | nil => rfl
  | cons entry rest inductionHypothesis =>
      obtain ⟨here, others⟩ := List.forall_mem_cons.mp elsewhere
      rw [applyAll_cons, if_neg here]
      exact inductionHypothesis others table

theorem switched_built {event : PacketIn} {header : String × String × Nat}
    {app : DDoSSimulationAPP K} {datapath : Nat}
    (built : Conforms BuiltRule (app.flows datapath)) :
    Conforms BuiltRule ((switched event header app).flows datapath) := by
  unfold switched
  split
  · exact built
  · rw [flows_forward]
    dsimp only
    split
    · exact Conforms.add built (.learned _ _ _ _)
    · exact built

/-- What the defence leaves in a slot: the default drop, a whitelisted address, or what it held. -/
theorem flows_whitelisted {event : PacketIn} {ips : List String} {app : DDoSSimulationAPP K}
    {slot : Nat × OFPMatch} {actions : List OFPAction} :
    ((ips.foldl (fun app ip => addFlow event.datapath 4 (whiteMatch ip) (outputTo ofppNormal) app)
      app).flows event.datapath).get? slot = some actions ↔
      ((∃ ip ∈ ips, (4, whiteMatch ip) = slot) ∧ outputTo ofppNormal = actions) ∨
        (¬ (∃ ip ∈ ips, (4, whiteMatch ip) = slot) ∧
          (app.flows event.datapath).get? slot = some actions) := by
  induction ips generalizing app with
  | nil => simp
  | cons ip rest inductionHypothesis =>
      rw [List.foldl_cons, inductionHypothesis, flows_addFlow, if_pos rfl, get?_add_eq_some]
      simp only [List.mem_cons, exists_eq_or_imp]
      by_cases here : (4, whiteMatch ip) = slot <;>
        by_cases later : ∃ ip ∈ rest, (4, whiteMatch ip) = slot <;> simp [here, later]

theorem flows_addFlowWhiteTable {event : PacketIn} {app : DDoSSimulationAPP K}
    {slot : Nat × OFPMatch} {actions : List OFPAction} :
    ((addFlowWhiteTable event app).flows event.datapath).get? slot = some actions ↔
      ((2, {}) = slot ∧ [] = actions) ∨
        ((∃ ip ∈ app.whiteIpTable.keys, (4, whiteMatch ip) = slot) ∧
          outputTo ofppNormal = actions) ∨
        ((2, {}) ≠ slot ∧ (¬ ∃ ip ∈ app.whiteIpTable.keys, (4, whiteMatch ip) = slot) ∧
          (app.flows event.datapath).get? slot = some actions) := by
  rw [addFlowWhiteTable, flows_addFlow, if_pos rfl, get?_add_eq_some, flows_whitelisted]
  by_cases default : ((2, {}) : Nat × OFPMatch) = slot
  · have apart : ¬ ∃ ip ∈ app.whiteIpTable.keys, (4, whiteMatch ip) = slot := by
      rintro ⟨_, _, same⟩
      simp [← default] at same
    simp [default, apart]
  · simp [default]

/-- What the defence is meant to do with a frame. -/
structure Restricts (white : List String) (before after : SwitchTable) (frame : Frame) :
    Prop where
  allowed : frame.ethType = ethTypeIp → (∃ ip ∈ white, frame.ipv4Dst = some ip) →
    HandledAs OFPMatch.admits after frame (outputTo ofppNormal)
  dropped : frame.ethType = ethTypeIp → (¬ ∃ ip ∈ white, frame.ipv4Dst = some ip) →
    HandledAs OFPMatch.admits after frame []
  others : frame.ethType ≠ ethTypeIp → SameHandling OFPMatch.admits before after frame

section Built

variable {event : PacketIn} {app : DDoSSimulationAPP K} {frame : Frame}

/-- The entry of a whitelisted address is above all others. -/
theorem allowed_whitelisted (built : Conforms BuiltRule (app.flows event.datapath))
    (ipv4 : frame.ethType = ethTypeIp)
    (listed : ∃ ip ∈ app.whiteIpTable.keys, frame.ipv4Dst = some ip) :
    HandledAs OFPMatch.admits ((addFlowWhiteTable event app).flows event.datapath) frame
      (outputTo ofppNormal) := by
  obtain ⟨ip, listed, dst⟩ := listed
  have found : ((addFlowWhiteTable event app).flows event.datapath).get? (4, whiteMatch ip) =
      some (outputTo ofppNormal) :=
    flows_addFlowWhiteTable.mpr (.inr (.inl ⟨⟨ip, listed, rfl⟩, rfl⟩))
  have matched := whiteMatch_admits.mpr ⟨ipv4, dst⟩
  refine ⟨⟨_, found, matched, fun priority fields other there _ => ?_⟩, ?_⟩
  · obtain ⟨same, _⟩ | ⟨⟨_, _, same⟩, _⟩ | ⟨_, _, there⟩ := flows_addFlowWhiteTable.mp there
    · simp [← (Prod.mk.inj same).1]
    · simp [← (Prod.mk.inj same).1]
    · cases built _ _ _ there <;> simp
  · intro slot other handled
    have least : 4 ≤ slot.1 := handled.highest _ _ _ found matched
    obtain ⟨rfl, _⟩ | ⟨_, same⟩ | ⟨_, _, there⟩ := flows_addFlowWhiteTable.mp handled.installed
    · exact absurd least (by decide)
    · exact same.symm
    · obtain ⟨priority, fields⟩ := slot
      cases built _ _ _ there <;> simp at least

/-- Of what matches a frame which is not whitelisted the bans are above the default drop. -/
theorem unlisted_entry (built : Conforms BuiltRule (app.flows event.datapath))
    (unlisted : ¬ (frame.ethType = ethTypeIp ∧
      ∃ ip ∈ app.whiteIpTable.keys, frame.ipv4Dst = some ip))
    {slot : Nat × OFPMatch} {actions : List OFPAction}
    (found : ((addFlowWhiteTable event app).flows event.datapath).get? slot = some actions)
    (matched : slot.2.admits frame) :
    slot.1 = 0 ∨ (slot = (2, {}) ∧ actions = []) ∨
      (slot.1 = 3 ∧ frame.ethType = ethTypeIp ∧ actions = [] ∧
        (app.flows event.datapath).get? slot = some []) := by
  obtain ⟨rfl, rfl⟩ | ⟨⟨ip, listed, rfl⟩, _⟩ | ⟨_, _, there⟩ := flows_addFlowWhiteTable.mp found
  · exact .inr (.inl ⟨rfl, rfl⟩)
  · obtain ⟨ipv4, dst⟩ := whiteMatch_admits.mp matched
    exact absurd ⟨ipv4, ip, listed, dst⟩ unlisted
  · obtain ⟨priority, fields⟩ := slot
    cases built _ _ _ there with
    | miss => exact .inl rfl
    | learned => exact .inl rfl
    | ban ipProto =>
        exact .inr (.inr ⟨rfl, (protocolMatch_admits.mp matched).1, rfl, there⟩)

/-- Other IPv4 is dropped, by a ban or by default. -/
theorem dropped_unlisted (built : Conforms BuiltRule (app.flows event.datapath))
    (unlisted : ¬ ∃ ip ∈ app.whiteIpTable.keys, frame.ipv4Dst = some ip) :
    HandledAs OFPMatch.admits ((addFlowWhiteTable event app).flows event.datapath) frame [] := by
  have absent : ¬ (frame.ethType = ethTypeIp ∧
      ∃ ip ∈ app.whiteIpTable.keys, frame.ipv4Dst = some ip) := fun both => unlisted both.2
  have default : ((addFlowWhiteTable event app).flows event.datapath).get? (2, {}) = some [] :=
    flows_addFlowWhiteTable.mpr (.inl ⟨rfl, rfl⟩)
  constructor
  · by_cases banned : ∃ fields, (app.flows event.datapath).get? (3, fields) = some [] ∧
        fields.admits frame
    · obtain ⟨fields, there, matched⟩ := banned
      have found : ((addFlowWhiteTable event app).flows event.datapath).get? (3, fields) =
          some [] := by
        refine flows_addFlowWhiteTable.mpr (.inr (.inr ⟨by simp, ?_, there⟩))
        rintro ⟨_, _, same⟩
        simp at same
      refine ⟨_, found, matched, fun priority fields' other there' matched' => ?_⟩
      rcases unlisted_entry built absent there' matched' with lowest | ⟨same, _⟩ | ⟨ban, _⟩
      · exact lowest.trans_le (Nat.zero_le 3)
      · simp [(Prod.mk.inj same).1]
      · exact Nat.le_of_eq ban
    · refine ⟨_, default, wildcard_admits frame, fun priority fields other there matched => ?_⟩
      rcases unlisted_entry built absent there matched with lowest | ⟨same, _⟩ | ⟨ban, _, _, held⟩
      · exact lowest.trans_le (Nat.zero_le 2)
      · simp [(Prod.mk.inj same).1]
      · exact absurd ⟨fields, ban ▸ held, matched⟩ banned
  · intro slot other handled
    have least : 2 ≤ slot.1 := handled.highest _ _ _ default (wildcard_admits frame)
    rcases unlisted_entry built absent handled.installed handled.admitted with
      lowest | ⟨_, same⟩ | ⟨_, _, same, _⟩
    · rw [lowest] at least
      cases least
    · exact same
    · exact same

/-- What is not IPv4 comes to the default drop, which was not there before. -/
theorem others_differ (built : Conforms BuiltRule (app.flows event.datapath))
    (other : frame.ethType ≠ ethTypeIp) :
    ¬ SameHandling OFPMatch.admits (app.flows event.datapath)
      ((addFlowWhiteTable event app).flows event.datapath) frame := by
  intro same
  have handled : Handles OFPMatch.admits ((addFlowWhiteTable event app).flows event.datapath)
      frame (2, {}) [] := by
    refine ⟨flows_addFlowWhiteTable.mpr (.inl ⟨rfl, rfl⟩), wildcard_admits frame, ?_⟩
    intro priority fields actions found matched
    rcases unlisted_entry built (mt And.left other) found matched with
      lowest | ⟨same, _⟩ | ⟨_, ipv4, _⟩
    · exact lowest.trans_le (Nat.zero_le 2)
    · simp [(Prod.mk.inj same).1]
    · exact absurd ipv4 other
  cases built _ _ _ ((same _ _).mp handled).installed

end Built

variable [EntropyArithmetic K]

/-- The installation belongs to another switch, or is neither a defence nor sampling. -/
def Installation.Builds (datapath : Nat) : Installation K → Prop
  | .sampling other => other ≠ datapath
  | .defence event _ _ => event.datapath ≠ datapath
  | _ => True

theorem install_built {app : DDoSSimulationAPP K} {datapath : Nat}
    (built : Conforms BuiltRule (app.flows datapath)) {installation : Installation K}
    (builds : installation.Builds datapath) :
    Conforms BuiltRule ((install app installation).flows datapath) := by
  have added {other priority : Nat} {fields : OFPMatch} {actions : List OFPAction}
      (holds : other = datapath → BuiltRule priority fields actions) :
      Conforms BuiltRule ((addFlow other priority fields actions app).flows datapath) := by
    rw [flows_addFlow]
    split
    · next here => exact Conforms.add built (holds here)
    · exact built
  cases installation with
  | handshake other =>
      simp only [install, switchFeaturesHandler_eq, addFlowMissRule, flows_addFlow]
      split
      · exact Conforms.add built .miss
      · exact built
  | learning event =>
      simp only [install, Effect.leaves, switchMacToPort_run]
      cases ethernetHeader event with
      | ok header => exact switched_built built
      | error error => exact built
  | icmpBan event => exact added fun _ => .ban ipprotoIcmp
  | tcpBan event => exact added fun _ => .ban ipprotoTcp
  | udpBan event => exact added fun _ => .ban ipprotoUdp
  | sampling other => exact added fun here => absurd here builds
  | defence event whiteIpTable currentProtocolRate =>
      have builds : event.datapath ≠ datapath := builds
      simp only [install, createDefenseFlowRule_eq, flows, tableAfter_append]
      rw [applyAll_elsewhere]
      · exact built
      · intro entry member
        obtain ⟨_, _, rfl⟩ | rfl | rfl := defenceMessages_cases member <;> exact builds

theorem run_install_built {datapath : Nat} {installations : List (Installation K)}
    (builds : ∀ installation ∈ installations, installation.Builds datapath) :
    Conforms BuiltRule ((run install init installations).flows datapath) := by
  induction installations using List.reverseRecOn with
  | nil => exact fun _ _ _ found => by simp [flows, init, tableAfter] at found
  | append_singleton earlier installation inductionHypothesis =>
      rw [run_append, run_cons, run_nil]
      refine install_built (inductionHypothesis fun other member => ?_) ?_
      · exact builds other (List.mem_append_left _ member)
      · exact builds installation (List.mem_append_right _ List.mem_cons_self)

/-- The defence does what it is meant to with the frames of IPv4, and with no other. -/
theorem restricts_iff (event : PacketIn) {installations : List (Installation K)}
    (builds : ∀ installation ∈ installations, installation.Builds event.datapath)
    (white : Dict String Bool) (frame : Frame) :
    Restricts white.keys ((run install init installations).flows event.datapath)
        ((addFlowWhiteTable event { run install init installations with
          whiteIpTable := white }).flows event.datapath) frame ↔
      frame.ethType = ethTypeIp := by
  have built : Conforms BuiltRule
      (({ run install init installations with whiteIpTable := white } :
        DDoSSimulationAPP K).flows event.datapath) := run_install_built builds
  constructor
  · intro restricts
    by_contra other
    exact others_differ built other (restricts.others other)
  · intro ipv4
    exact ⟨fun _ listed => allowed_whitelisted built ipv4 listed,
      fun _ unlisted => dropped_unlisted built unlisted, fun other => absurd ipv4 other⟩

/-- A request for an address, which is not IPv4. -/
def arpRequest : Frame := ⟨1, "ff:ff:ff:ff:ff:ff", "a", 0x0806, none, none⟩

/-- A host's echo request to a whitelisted address, on a switch that bans ICMP. -/
def echoRequest : Frame := ⟨1, "b", "a", ethTypeIp, some ipprotoIcmp, some "10.0.0.2"⟩

theorem echo_request_allowed :
    Restricts ["10.0.0.2"]
      ((run install (init : DDoSSimulationAPP Rat) [.handshake 1, .icmpBan (arpFrom 1)]).flows 1)
      ((addFlowWhiteTable (arpFrom 1) { run install (init : DDoSSimulationAPP Rat)
        [.handshake 1, .icmpBan (arpFrom 1)] with
          whiteIpTable := Dict.empty.set "10.0.0.2" true }).flows 1) echoRequest := by
  refine (restricts_iff (arpFrom 1) (fun installation member => ?_)
    (Dict.empty.set "10.0.0.2" true) echoRequest).mpr rfl
  rcases List.mem_cons.mp member with rfl | later
  · trivial
  · rw [List.mem_singleton.mp later]
    trivial

/-- The request went to the controller, and is dropped once an address is whitelisted. -/
theorem arp_request_dropped :
    ¬ ∀ frame, Restricts ["10.0.0.2"]
      ((run install (init : DDoSSimulationAPP Rat) [.handshake 1]).flows 1)
      ((addFlowWhiteTable (arpFrom 1) { run install (init : DDoSSimulationAPP Rat)
        [.handshake 1] with
          whiteIpTable := Dict.empty.set "10.0.0.2" true }).flows 1) frame := by
  intro restricts
  have before : Handles OFPMatch.admits
      ((run install (init : DDoSSimulationAPP Rat) [.handshake 1]).flows 1) arpRequest (0, {})
        toController := by
    have table : (run install (init : DDoSSimulationAPP Rat) [.handshake 1]).flows 1 =
        Dict.empty.set (0, {}) toController := rfl
    rw [table]
    refine ⟨by decide +kernel, by decide +kernel, fun priority fields actions found _ => ?_⟩
    rw [Dict.get?_set] at found
    split at found
    · next same => exact Nat.le_of_eq (Prod.mk.inj same).1.symm
    · cases found
  have after := ((restricts arpRequest).others (by decide) _ _).mpr before
  have least := after.highest 2 {} [] (by decide +kernel) (by decide +kernel)
  exact absurd least (by decide)

end NetworkAdapter.DDoSSimulationAPP
