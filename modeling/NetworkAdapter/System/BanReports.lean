import Mathlib.Data.List.Induction
import NetworkAdapter.Controller.ProtocolBans
import NetworkAdapter.Service.TaskStatus

/-!
# Bans that are reported as successful

The interface of the controller accepts every protocol and stores the ban under its name,
but the packet handler looks for three names only. `ban_honest_iff` says which answers
come true.
-/

namespace NetworkAdapter.DDoSSimulationAPP

open Execution
open SwitchTaskService (controller createSwitchTask)

variable {K : Type}

/-- The packet handler carries out bans of this name. -/
def Enforced (name : String) : Prop := ∃ protocol : BannedProtocol, name = protocol.name

/-- The switch has rules, in which bans are noted. -/
def Registered (app : DDoSSimulationAPP K) (datapath : Nat) : Prop :=
  (app.trafficEngineerRuleMap.get? (.id datapath)).isSome = true

theorem registered_of_ruleSet {app : DDoSSimulationAPP K} {datapath : Nat} {name : String}
    (set : app.ruleSet datapath name = true) : Registered app datapath := by
  unfold ruleSet at set
  unfold Registered
  split at set
  · next found => rw [found]; rfl
  · cases set

/-- Carrying out the bans resets the flags of the packet's switch, and no others. -/
theorem ruleSet_enforceBans (event : PacketIn) (app : DDoSSimulationAPP K) (datapath : Nat)
    (protocol : BannedProtocol) :
    (enforceBans event app).ruleSet datapath protocol.name =
      (app.ruleSet datapath protocol.name && !decide (event.datapath = datapath)) := by
  have unfolded : enforceBans event app =
      enforce "UDP" (addFlowDrop ipprotoUdp) event
        (enforce "TCP" (addFlowDrop ipprotoTcp) event
          (enforce "ICMP" (addFlowDrop ipprotoIcmp) event app)) := rfl
  rw [unfolded, ruleSet_enforce, ruleSet_enforce, ruleSet_enforce]
  cases protocol <;> simp [BannedProtocol.name]

theorem ruleSet_congr {first second : DDoSSimulationAPP K}
    (rules : second.trafficEngineerRuleMap = first.trafficEngineerRuleMap) (datapath : Nat)
    (name : String) : second.ruleSet datapath name = first.ruleSet datapath name := by
  simp only [ruleSet, rules]

theorem pending_eq_one (datapath : Nat) (protocol : BannedProtocol) (app : DDoSSimulationAPP K) :
    pending datapath protocol app = 1 ↔ app.ruleSet datapath protocol.name = true := by
  unfold pending
  split <;> simp [*]

/-- The answers of `protocol_forbid`. -/
def answer (status : String) (dpid : Json) : Json := .obj [("status", .str status), ("data", dpid)]

theorem protocolForbid_refused {body : Json} {name : String}
    (switch : body.subscript "dpid" = .ok .null)
    (banned : body.subscript "protocol" = .ok (.str name)) (app : DDoSSimulationAPP K) :
    (protocolForbid body).run app = .ok (answer "error" .null) app := by
  simp [protocolForbid, switch, banned, answer, Json.equals]

variable [EntropyArithmetic K]

/-- The whitelist defence leaves the rules alone. -/
theorem ipWhiteTable_rules (event : PacketIn) (app : DDoSSimulationAPP K) :
    ((ipWhiteTable event).leaves app).trafficEngineerRuleMap = app.trafficEngineerRuleMap := by
  unfold Effect.leaves
  rw [ipWhiteTable_run, createDefenseFlowRule_eq]
  by_cases high : (judge app).ddosingCount > 10 <;>
    by_cases attacking : (judge app).isDDoSAttacking = true <;>
      by_cases anomalous : (detectDdosByEntropy (judge app)).1 = true <;>
        simp [high, attacking, anomalous] <;> rfl

/-- The packet is handled to its end. -/
def Returns (message : PacketIn) (app : DDoSSimulationAPP K) : Prop :=
  ∃ after, (packetInHandler message).run app = .ok () after

/-- A packet that is handled has the bans carried out, and one that is not leaves the rules. -/
theorem packetIn_rules (message : PacketIn) (app : DDoSSimulationAPP K) :
    (Returns message app ∧ ∃ guarded, step app (.packetIn message) = enforceBans message guarded ∧
        guarded.trafficEngineerRuleMap = app.trafficEngineerRuleMap) ∨
      (¬ Returns message app ∧
        (step app (.packetIn message)).trafficEngineerRuleMap = app.trafficEngineerRuleMap) := by
  have sampling := (samplePacketIn_forwards message app).trafficEngineerRuleMap
  unfold Returns
  rw [step, Effect.leaves]
  cases outcome : (samplePacketIn message).run app with
  | error error sampled =>
      rw [Effect.leaves_of_error outcome] at sampling
      exact .inr ⟨by simp [packetInHandler, outcome], by simpa [packetInHandler, outcome]⟩
  | ok value sampled =>
      rw [Effect.leaves_of_ok outcome] at sampling
      by_cases on : sampled.ruleSet message.datapath "ip_white_table" = true
      · have kept := (ipWhiteTable_rules message sampled).trans sampling
        cases verdict : (ipWhiteTable message).run sampled with
        | error error guarded =>
            rw [Effect.leaves_of_error verdict] at kept
            exact .inr ⟨by simp [packetInHandler, outcome, on, verdict],
              by simpa [packetInHandler, outcome, on, verdict]⟩
        | ok value guarded =>
            rw [Effect.leaves_of_ok verdict] at kept
            exact .inl ⟨⟨_, by simp [packetInHandler, outcome, on, verdict]; rfl⟩, guarded,
              by simp [packetInHandler, outcome, on, verdict, enforceBans], kept⟩
      · exact .inl ⟨⟨_, by simp [packetInHandler, outcome, on]; rfl⟩, sampled,
          by simp [packetInHandler, outcome, on, enforceBans], sampling⟩

theorem packetIn_ruleSet (message : PacketIn) (app : DDoSSimulationAPP K) (datapath : Nat)
    (protocol : BannedProtocol) :
    (step app (.packetIn message)).ruleSet datapath protocol.name = true ↔
      app.ruleSet datapath protocol.name = true ∧
        ¬ (message.datapath = datapath ∧ Returns message app) := by
  rcases packetIn_rules message app with ⟨returns, guarded, left, rules⟩ | ⟨fails, rules⟩
  · rw [left, ruleSet_enforceBans, ruleSet_congr rules]
    simp [returns]
  · rw [ruleSet_congr rules]
    simp [fails]

/-- No event takes a switch its rules. -/
theorem step_registered {app : DDoSSimulationAPP K} {datapath : Nat} (event : Event)
    (registered : Registered app datapath) : Registered (step app event) datapath := by
  unfold Registered at *
  cases event with
  | packetIn message => exact ((packetIn_sameSwitches message app).ruleKeys _).trans registered
  | protocolForbid body =>
      rw [step, protocolForbid_rules]
      cases forbids? body <;> simpa
  | setIpWhiteTable dpid =>
      cases dpid with
      | none => exact registered
      | some text => simpa [step, setIpWhiteTable, Effect.leaves] using registered
  | trafficEntropy => exact registered
  | switchFeatures other =>
      rw [step, switchFeaturesHandler_eq]
      simp only [addFlowMissRule, addFlow, sendMsg, Dict.get?_set, DatapathKey.id.injEq]
      split
      · rfl
      · exact registered

theorem run_registered {app : DDoSSimulationAPP K} {datapath : Nat}
    (registered : Registered app datapath) (events : List Event) :
    Registered (run step app events) datapath :=
  run_invariant (Registered · datapath) (fun _ event => step_registered event) registered events

/-- A packet-in from the switch that is handled to its end. -/
def Handles (datapath : Nat) (app : DDoSSimulationAPP K) (event : Event) : Prop :=
  ∃ message, event = .packetIn message ∧ message.datapath = datapath ∧ Returns message app

/-- While no packet-in from a switch with rules is handled, its flag is what the last request
and handshake have made of it. -/
theorem step_ruleSet {app : DDoSSimulationAPP K} {datapath : Nat} {event : Event}
    (registered : Registered app datapath) (unhandled : ¬ Handles datapath app event)
    (protocol : BannedProtocol) :
    (step app event).ruleSet datapath protocol.name = true ↔
      requests protocol event = true ∨
        (event ≠ .switchFeatures datapath ∧ app.ruleSet datapath protocol.name = true) := by
  cases event with
  | packetIn message =>
      have apart : ¬ (message.datapath = datapath ∧ Returns message app) :=
        fun both => unhandled ⟨message, rfl, both⟩
      simp [packetIn_ruleSet, apart, requests]
  | protocolForbid body =>
      rw [← pending_eq_one, ← pending_eq_one, protocolForbid_pending]
      have rules : (app.trafficEngineerRuleMap.get? (.id datapath)).isSome = true := registered
      by_cases asked : requests protocol (.protocolForbid body) = true <;> simp [asked, rules]
  | switchFeatures other =>
      rw [← pending_eq_one, ← pending_eq_one, switchFeatures_pending]
      by_cases same : other = datapath <;> simp [same, requests]
  | setIpWhiteTable dpid =>
      cases dpid with
      | none => simp [step, setIpWhiteTable, Effect.leaves, requests]
      | some text => simp [step, setIpWhiteTable, Effect.leaves, requests, ruleSet]
  | trafficEntropy =>
      have same := ruleSet_congr (show (step app .trafficEntropy).trafficEngineerRuleMap =
        app.trafficEngineerRuleMap from rfl) datapath protocol.name
      simp [same, requests]

/-- After the last handshake of the switch, if there is one, the ban was requested again. -/
def StillAsked (protocol : BannedProtocol) (datapath : Nat) (events : List Event) : Prop :=
  ∀ before between, events = before ++ .switchFeatures datapath :: between →
    ∃ event ∈ between, requests protocol event = true

theorem stillAsked_concat (protocol : BannedProtocol) (datapath : Nat) (events : List Event)
    (event : Event) :
    StillAsked protocol datapath (events ++ [event]) ↔
      requests protocol event = true ∨
        (event ≠ .switchFeatures datapath ∧ StillAsked protocol datapath events) := by
  constructor
  · intro asked
    refine or_iff_not_imp_left.mpr fun other => ⟨?_, fun before between split => ?_⟩
    · rintro rfl
      obtain ⟨_, member, _⟩ := asked events [] rfl
      cases member
    · obtain ⟨again, member, requested⟩ := asked before (between ++ [event]) (by simp [split])
      rcases List.mem_append.mp member with earlier | last
      · exact ⟨again, earlier, requested⟩
      · exact absurd (List.mem_singleton.mp last ▸ requested) other
  · intro asked before between split
    rcases List.eq_nil_or_concat between with rfl | ⟨between, last, rfl⟩
    · obtain ⟨-, same⟩ := List.append_inj' split rfl
      obtain rfl : event = .switchFeatures datapath := by simpa using same
      rcases asked with requested | ⟨other, _⟩
      · cases requested
      · exact absurd rfl other
    · have reshaped : events ++ [event] =
          (before ++ .switchFeatures datapath :: between) ++ [last] := by simpa using split
      obtain ⟨rfl, same⟩ := List.append_inj' reshaped rfl
      obtain rfl : event = last := by simpa using same
      rcases asked with requested | ⟨_, earlier⟩
      · exact ⟨event, by simp, requested⟩
      · obtain ⟨again, member, requested⟩ := earlier before between rfl
        exact ⟨again, by simp [member], requested⟩

/-- A ban that is pending stays pending until a packet-in is handled, exactly if it is
requested again after every handshake. -/
theorem run_ruleSet {app : DDoSSimulationAPP K} {datapath : Nat} {protocol : BannedProtocol}
    (flagged : app.ruleSet datapath protocol.name = true) (events : List Event)
    (unhandled : ∀ before event rest, events = before ++ event :: rest →
      ¬ Handles datapath (run step app before) event) :
    (run step app events).ruleSet datapath protocol.name = true ↔
      StillAsked protocol datapath events := by
  induction events using List.reverseRecOn with
  | nil => exact iff_of_true flagged fun before between split => by simp at split
  | append_singleton earlier event inductionHypothesis =>
      have registered := run_registered (registered_of_ruleSet flagged) earlier
      have known := inductionHypothesis fun before other rest split =>
        unhandled before other (rest ++ [event]) (by simp [split])
      rw [run_append, run_cons, run_nil, stillAsked_concat, ← known]
      exact step_ruleSet registered (unhandled earlier event [] rfl) protocol

/-- After the events `earlier` comes the first packet-in from the switch that is handled. -/
structure NextHandled (datapath : Nat) (app : DDoSSimulationAPP K) (events earlier : List Event)
    (message : PacketIn) : Prop where
  splits : ∃ later, events = earlier ++ .packetIn message :: later
  handles : Handles datapath (run step app earlier) (.packetIn message)
  first : ∀ before event rest, earlier = before ++ event :: rest →
    ¬ Handles datapath (run step app before) event

/-- The packet-in sends the switch a drop flow for the protocol. -/
def SendsDrop (datapath : Nat) (protocol : BannedProtocol) (app : DDoSSimulationAPP K)
    (message : PacketIn) : Prop :=
  drops datapath protocol app < drops datapath protocol (step app (.packetIn message))

/-- A packet-in that is handled sends a drop flow if the ban is pending, or if the defence it
creates has one. -/
theorem sendsDrop_iff {datapath : Nat} {app : DDoSSimulationAPP K} {message : PacketIn}
    (handles : Handles datapath app (.packetIn message)) (protocol : BannedProtocol) :
    SendsDrop datapath protocol app message ↔
      app.ruleSet datapath protocol.name = true ∨
        (datapath, protocol.drop) ∈ created app (.packetIn message) := by
  obtain ⟨_, same, handled⟩ := handles
  obtain rfl := Event.packetIn.inj same
  have settled := packetIn_settles message app datapath protocol
  have reset : pending datapath protocol (step app (.packetIn message)) = 0 := by
    refine if_neg ?_
    rw [packetIn_ruleSet]
    exact fun both => both.2 handled
  have flag : pending datapath protocol app ≤ 1 := by
    unfold pending
    split <;> simp
  unfold SendsDrop
  rw [← pending_eq_one, ← List.count_pos_iff]
  omega

/-- A request that names a switch and a protocol, of whatever name, is accepted. -/
theorem protocolForbid_accepted {body dpid : Json} {name : String}
    (switch : body.subscript "dpid" = .ok dpid) (present : dpid ≠ .null)
    (banned : body.subscript "protocol" = .ok (.str name)) (app : DDoSSimulationAPP K) :
    (protocolForbid body).run app =
      .ok (answer "success" dpid) (step app (.protocolForbid body)) := by
  simp [protocolForbid, step, Effect.leaves, switch, banned, mt (Json.equals_null dpid).mp present,
    answer, forbidEverywhere]

/-- What comes of the request with which a switch task calls the interface. -/
def forbidAttempt (app : DDoSSimulationAPP K) (dpid protocol : Json) : Except PyError Json :=
  match (protocolForbid (.obj [("dpid", dpid), ("protocol", protocol)])).run app with
  | .ok reply _ => .ok reply
  | .error error _ => .error error

/-- The answer to a request is honest, given the events that come after it: a success is
followed by a drop flow at every switch that has rules, a name that no handler reads is
answered by an error, and no record of a task has status `success` for such a name. -/
structure Honest (body dpid : Json) (name : String) (app : DDoSSimulationAPP K)
    (events : List Event) : Prop where
  carried : ∀ data after, (protocolForbid body).run app = .ok (answer "success" data) after →
    ∀ datapath, Registered app datapath →
      ∀ earlier message, NextHandled datapath after events earlier message →
        ∃ protocol : BannedProtocol, name = protocol.name ∧
          SendsDrop datapath protocol (run step after earlier) message
  refused : ¬ Enforced name →
    ∃ data after, (protocolForbid body).run app = .ok (answer "error" data) after
  recorded : ∀ text taskData taskId now stores updatedAt updates table,
    SwitchTaskService.Bans taskData dpid (.str name) →
      Table.foundBy table "task_id" (.str taskId) = [] →
      ∀ row ∈ ((createSwitchTask text (controller (forbidAttempt app)) taskData taskId now stores
          updatedAt updates).leaves table).foundBy "task_id" (.str taskId),
        Fields.get? row.fields "status" = some (.str "success") → Enforced name

/-- Once its request is accepted, a ban of a protocol that the packet handler reads is
pending wherever there are rules. -/
theorem ruleSet_of_request {body dpid : Json} {protocol : BannedProtocol}
    (switch : body.subscript "dpid" = .ok dpid) (present : dpid ≠ .null)
    (banned : body.subscript "protocol" = .ok (.str protocol.name)) {app : DDoSSimulationAPP K}
    {datapath : Nat} (registered : Registered app datapath) :
    (step app (.protocolForbid body)).ruleSet datapath protocol.name = true := by
  have asked : requests protocol (.protocolForbid body) = true := by
    simp [requests, forbids?, switch, banned, mt (Json.equals_null dpid).mp present]
  rw [← pending_eq_one, protocolForbid_pending, if_pos ⟨asked, registered⟩]

/-- The next packet-in sends the drop flow if the ban is requested again after every
handshake, or if the defence it creates has one. -/
theorem NextHandled.sendsDrop_iff {datapath : Nat} {protocol : BannedProtocol}
    {app : DDoSSimulationAPP K} {events earlier : List Event} {message : PacketIn}
    (next : NextHandled datapath app events earlier message)
    (flagged : app.ruleSet datapath protocol.name = true) :
    SendsDrop datapath protocol (run step app earlier) message ↔
      StillAsked protocol datapath earlier ∨
        (datapath, protocol.drop) ∈ created (run step app earlier) (.packetIn message) := by
  rw [DDoSSimulationAPP.sendsDrop_iff next.handles, run_ruleSet flagged earlier next.first]

/-- A request that names a switch is answered honestly exactly if it names a protocol that the
packet handler reads, as the handler writes it, and no switch loses the ban by a handshake
before its next packet-in is handled. -/
theorem ban_honest_iff {body dpid : Json} {name : String}
    (switch : body.subscript "dpid" = .ok dpid)
    (banned : body.subscript "protocol" = .ok (.str name)) (app : DDoSSimulationAPP K)
    (events : List Event) :
    Honest body dpid name app events ↔
      dpid = .null ∨ ∃ protocol : BannedProtocol, name = protocol.name ∧
        ∀ datapath, Registered app datapath → ∀ earlier message,
          NextHandled datapath (step app (.protocolForbid body)) events earlier message →
            StillAsked protocol datapath earlier ∨ (datapath, protocol.drop) ∈
              created (run step (step app (.protocolForbid body)) earlier) (.packetIn message) := by
  constructor
  · intro honest
    refine or_iff_not_imp_left.mpr fun present => ?_
    have answered := protocolForbid_accepted switch present banned app
    have enforced : Enforced name := by
      by_contra unread
      obtain ⟨data, after, refused⟩ := honest.refused unread
      rw [answered] at refused
      simp [answer] at refused
    obtain ⟨protocol, rfl⟩ := enforced
    refine ⟨protocol, rfl, fun datapath registered earlier message next => ?_⟩
    obtain ⟨other, same, sends⟩ :=
      honest.carried dpid _ answered datapath registered earlier message next
    obtain rfl := BannedProtocol.name_inj.mp same
    exact (next.sendsDrop_iff (ruleSet_of_request switch present banned registered)).mp sends
  · intro condition
    by_cases present : dpid = .null
    · subst present
      have answered := protocolForbid_refused switch banned app
      refine ⟨fun data after accepted => ?_, fun _ => ⟨.null, _, answered⟩, ?_⟩
      · rw [answered] at accepted
        simp [answer] at accepted
      · intro _ _ _ _ _ _ _ _ bans
        exact absurd rfl bans.dpid_present
    · obtain ⟨protocol, rfl, comes⟩ := condition.resolve_left present
      have answered := protocolForbid_accepted switch present banned app
      refine ⟨fun data after accepted datapath registered earlier message next => ?_,
        fun unread => absurd ⟨protocol, rfl⟩ unread, ?_⟩
      · rw [answered] at accepted
        obtain ⟨-, rfl⟩ := EStateM.Result.ok.inj accepted
        exact ⟨protocol, rfl, (next.sendsDrop_iff
          (ruleSet_of_request switch present banned registered)).mpr
            (comes datapath registered earlier message next)⟩
      · intro _ _ _ _ _ _ _ _ _ _ _ _ _
        exact ⟨protocol, rfl⟩

/-- A ban of ICMP at a switch that then sends a packet. -/
theorem icmp_ban_honest :
    Honest icmpRequest (.number 1) "ICMP" (run step (init : DDoSSimulationAPP Rat)
      [.switchFeatures 1]) [.packetIn (arpFrom 1)] := by
  have switch : icmpRequest.subscript "dpid" = .ok (.number 1) := rfl
  have banned : icmpRequest.subscript "protocol" = .ok (.str "ICMP") := rfl
  refine (ban_honest_iff switch banned _ _).mpr (.inr ⟨.icmp, rfl, ?_⟩)
  intro datapath _ earlier message next
  obtain ⟨later, split⟩ := next.splits
  refine .inl fun before between handshake => ?_
  subst handshake
  cases before <;> simp at split

/-- The request of the next theorem spells the protocol in lower case. -/
def lowerCaseRequest : Json := .obj [("dpid", .number 1), ("protocol", .str "icmp")]

/-- It is accepted, although no packet-in will send a drop flow for it. -/
theorem lower_case_accepted :
    ¬ Honest lowerCaseRequest (.number 1) "icmp" (run step (init : DDoSSimulationAPP Rat)
      [.switchFeatures 1]) [.packetIn (arpFrom 1)] := by
  intro honest
  have unread : ¬ Enforced "icmp" := by
    rintro ⟨protocol, same⟩
    cases protocol <;> exact absurd same (by decide)
  obtain ⟨data, after, refused⟩ := honest.refused unread
  have switch : lowerCaseRequest.subscript "dpid" = .ok (.number 1) := rfl
  have banned : lowerCaseRequest.subscript "protocol" = .ok (.str "icmp") := rfl
  rw [protocolForbid_accepted switch nofun banned] at refused
  simp [answer] at refused

end NetworkAdapter.DDoSSimulationAPP
