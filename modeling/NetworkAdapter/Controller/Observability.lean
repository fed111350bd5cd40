import NetworkAdapter.Controller.Rules

/-!
# What the controller sees of a sampling switch

The handshake compares the number of a datapath id with a list of texts, so the
sampling flow is sent to no switch. Every rule that is sent in its place leaves the
controller out above priority zero: a match-all drop there ends the packet-ins of a
switch, from which detection and recovery live.
-/

namespace NetworkAdapter.DDoSSimulationAPP

open Execution

variable {K : Type}

/-- The rules the handlers can come to install; the sampling flow is not among them. -/
inductive SentRule : Nat → OFPMatch → List OFPAction → Prop where
  | learned (inPort : Nat) (dst src : String) (port : Nat) :
      SentRule 0 (learnedMatch inPort dst src) (outputTo port)
  | miss : SentRule 0 {} toController
  | dropAll : SentRule 2 {} []
  | ban (ipProto : Nat) : SentRule 3 (protocolMatch ipProto) []
  | allowed (ip : String) : SentRule 4 (whiteMatch ip) (outputTo ofppNormal)

/-- Above priority zero no installed rule sends to the controller. -/
theorem SentRule.blind {priority : Nat} {fields : OFPMatch} {actions : List OFPAction}
    (installed : SentRule priority fields actions) (raised : 0 < priority) :
    ∀ action ∈ actions, action.port ≠ ofppController := by
  cases installed with
  | learned inPort dst src port => cases raised
  | miss => cases raised
  | dropAll => simp
  | ban ipProto => simp
  | allowed ip => simp [outputTo, ofppNormal, ofppController]

/-- Everything sent so far adds such a rule. -/
def SentRules (app : DDoSSimulationAPP K) : Prop :=
  ∀ entry ∈ app.sent, entry.2.Adds SentRule

theorem SentRules.append {before after : DDoSSimulationAPP K} (known : SentRules before)
    {messages : List (Nat × Message)} (sent : after.sent = before.sent ++ messages)
    (rules : ∀ entry ∈ messages, entry.2.Adds SentRule) : SentRules after := by
  intro entry member
  rw [sent] at member
  exact (List.mem_append.mp member).elim (known entry) (rules entry)

theorem Forwards.sentRules {event : PacketIn} {before after : DDoSSimulationAPP K}
    (forwards : Forwards event before after) (known : SentRules before) : SentRules after := by
  obtain ⟨messages, sent, forwarded⟩ := forwards.sent
  refine known.append sent fun entry member => ?_
  obtain ⟨dst, src, outPort, inside⟩ := forwarded entry member
  obtain rfl | rfl := forwardMessages_cases inside
  · exact flowAddition_adds (.learned _ _ _ _)
  · exact .packet _

theorem enforceBans_sentRules (event : PacketIn) {app : DDoSSimulationAPP K}
    (known : SentRules app) : SentRules (enforceBans event app) := by
  obtain ⟨rules, messages, unfolded, bans⟩ := enforceBans_bans event app
  rw [unfolded]
  refine known.append rfl fun entry member => ?_
  obtain ⟨ipProto, rfl⟩ := bans entry member
  exact flowAddition_adds (.ban ipProto)

/-- An entry of a flow table is one that was sent. -/
theorem SentRules.conforms {app : DDoSSimulationAPP K} (known : SentRules app) (datapath : Nat) :
    FlowTable.Conforms SentRule (app.flows datapath) := by
  intro priority fields actions found
  have rules : ∀ entry ∈ app.sent, entry.1 = datapath → entry.2.Adds SentRule :=
    fun entry member _ => known entry member
  rcases get?_applyAll rules .empty (priority, fields) with untouched | ⟨held, found', rule⟩
  · exact absurd (untouched.symm.trans found) (by simp)
  · obtain rfl := Option.some.inj (found'.symm.trans found)
    exact rule

/-- A switch with a default drop hands no frame to the controller. -/
theorem dropAll_blinds {app : DDoSSimulationAPP K} (known : SentRules app) {datapath : Nat}
    (dropAll : (app.flows datapath).get? (2, {}) = some []) {frame : Frame}
    {slot : Nat × OFPMatch} {actions : List OFPAction}
    (handles : (app.flows datapath).Handles OFPMatch.admits frame slot actions) :
    ∀ action ∈ actions, action.port ≠ ofppController := by
  have above : 2 ≤ slot.1 := handles.highest 2 {} [] dropAll rfl
  exact (known.conforms datapath slot.1 slot.2 actions handles.installed).blind (by omega)

/-- The switches known after an event. -/
def knownAfter (info : Dict Nat DatapathInfo) : Event → Dict Nat DatapathInfo
  | .switchFeatures datapath => info.set datapath ⟨false⟩
  | _ => info

/-- The id of the switch, written as a decimal, is in `sampling_switch_id_list`. -/
def Listed (datapath : Nat) : Prop := datapath.repr ∈ samplingSwitchIdList

instance decidableListed (datapath : Nat) : Decidable (Listed datapath) :=
  inferInstanceAs (Decidable (_ ∈ _))

/-- Each registered switch of the list hands every frame to the controller by the
sampling flow, and `traffic_sampling` tells the switches this flow was sent to. -/
structure SamplingKept (app : DDoSSimulationAPP K) : Prop where
  observed : ∀ datapath, Listed datapath → (app.datapathInfoMap.get? datapath).isSome = true →
    ∀ frame, (app.flows datapath).Handles OFPMatch.admits frame (99, {}) toController
  flagged : ∀ datapath, app.datapathInfoMap.get? datapath = some ⟨true⟩ ↔
    (datapath, flowAddition 99 {} toController) ∈ app.sent

variable [EntropyArithmetic K]

theorem createDefenseFlowRule_sentRules (event : PacketIn) {app : DDoSSimulationAPP K}
    (sent : SentRules app) : SentRules (createDefenseFlowRule event app) := by
  rw [createDefenseFlowRule_eq]
  refine sent.append rfl fun entry member => ?_
  obtain ⟨ip, _, rfl⟩ | rfl | rfl := defenceMessages_cases member
  · exact flowAddition_adds (.allowed ip)
  · exact flowAddition_adds .dropAll
  · exact flowAddition_adds (.ban ipprotoIcmp)

theorem packetIn_sentRules {app : DDoSSimulationAPP K} (sent : SentRules app)
    (message : PacketIn) : SentRules (step app (.packetIn message)) := by
  have sampled := (samplePacketIn_forwards message app).sentRules sent
  have after := packetIn_after_sampling (fun before after : DDoSSimulationAPP K =>
    SentRules before → SentRules after) message (fun _ => id)
    (fun _ _ _ first second => second ∘ first) (fun _ => id) (fun _ => id)
    (fun _ => createDefenseFlowRule_sentRules message) (fun _ => enforceBans_sentRules message) app
  exact after sampled

theorem step_sentRules {app : DDoSSimulationAPP K} (sent : SentRules app) (event : Event) :
    SentRules (step app event) := by
  by_cases packet : ∃ message, event = .packetIn message
  · obtain ⟨message, rfl⟩ := packet
    exact packetIn_sentRules sent message
  · have served := step_served app fun message same => packet ⟨message, same⟩
    generalize step app event = after at served
    cases served with
    | protocolForbid body rules => exact sent
    | setIpWhiteTable dpid rules => exact sent
    | trafficEntropy => exact sent
    | switchFeatures datapath =>
        refine sent.append rfl fun entry member => ?_
        rw [List.mem_singleton.mp member]
        exact flowAddition_adds .miss

theorem run_sentRules (events : List Event) :
    SentRules (run step (init : DDoSSimulationAPP K) events) :=
  run_invariant SentRules (fun _ event sent => step_sentRules sent event)
    (by simp [SentRules, init]) events

/-- Only a handshake changes what is known of the switches. -/
theorem step_datapathInfoMap (app : DDoSSimulationAPP K) (event : Event) :
    (step app event).datapathInfoMap = knownAfter app.datapathInfoMap event := by
  by_cases packet : ∃ message, event = .packetIn message
  · obtain ⟨message, rfl⟩ := packet
    exact (packetIn_sameSwitches message app).datapathInfoMap
  · have served := step_served app fun message same => packet ⟨message, same⟩
    generalize step app event = after at served
    cases served <;> rfl

/-- The registered switches are those that shook hands. -/
theorem registered_iff (app : DDoSSimulationAPP K) (events : List Event) (datapath : Nat) :
    ((run step app events).datapathInfoMap.get? datapath).isSome = true ↔
      (app.datapathInfoMap.get? datapath).isSome = true ∨ .switchFeatures datapath ∈ events := by
  induction events generalizing app with
  | nil => simp
  | cons event rest inductionHypothesis =>
      rw [run_cons, inductionHypothesis, step_datapathInfoMap, List.mem_cons]
      cases event with
      | switchFeatures other =>
          by_cases same : other = datapath
          · subst same
            simp [knownAfter]
          · simp [knownAfter, same, Ne.symm same]
      | _ => simp [knownAfter]

/-- No switch is ever marked as sampled. -/
theorem run_unsampled (events : List Event) (datapath : Nat) :
    (run step (init : DDoSSimulationAPP K) events).datapathInfoMap.get? datapath ≠ some ⟨true⟩ := by
  refine run_invariant (fun app : DDoSSimulationAPP K =>
    app.datapathInfoMap.get? datapath ≠ some ⟨true⟩) ?_ (by simp [init]) events
  intro app event unsampled
  rw [step_datapathInfoMap]
  cases event with
  | switchFeatures other =>
      simp only [knownAfter, Dict.get?_set]
      split
      · simp
      · exact unsampled
  | _ => exact unsampled

/-- The sampling flow is never sent. -/
theorem sampling_not_sent (events : List Event) (datapath : Nat) :
    (datapath, flowAddition 99 {} toController) ∉
      (run step (init : DDoSSimulationAPP K) events).sent := by
  intro sent
  have adds := run_sentRules events _ sent
  cases adds with
  | flow isAdd rule => cases rule

/-- In every state sampling is kept exactly if no switch of the list has shaken hands so
far; and wherever the default drop is installed, no frame reaches the controller. -/
theorem sampling_kept_iff (events : List Event) :
    (SamplingKept (run step (init : DDoSSimulationAPP K) events) ↔
      ∀ datapath, Listed datapath → .switchFeatures datapath ∉ events) ∧
    ∀ datapath frame slot actions,
      ((run step (init : DDoSSimulationAPP K) events).flows datapath).get? (2, {}) = some [] →
        ((run step (init : DDoSSimulationAPP K) events).flows datapath).Handles OFPMatch.admits
          frame slot actions →
        ∀ action ∈ actions, action.port ≠ ofppController := by
  have sent := run_sentRules (K := K) events
  refine ⟨⟨fun kept datapath listed shaken => ?_, fun unshaken => ⟨?_, ?_⟩⟩,
    fun datapath frame slot actions dropAll handles => dropAll_blinds sent dropAll handles⟩
  · have registered :=
      (registered_iff (init : DDoSSimulationAPP K) events datapath).mpr (.inr shaken)
    have handles := kept.observed datapath listed registered ⟨0, "", "", 0, none, none⟩
    cases sent.conforms datapath 99 {} toController handles.installed
  · intro datapath listed registered
    obtain known | shaken :=
      (registered_iff (init : DDoSSimulationAPP K) events datapath).mp registered
    · cases known
    · exact absurd shaken (unshaken datapath listed)
  · exact fun datapath => iff_of_false (run_unsampled events datapath)
      (sampling_not_sent events datapath)

/-- Switch 1 is in the list and is sent no sampling flow. -/
theorem listed_switch_unsampled :
    ¬ SamplingKept (run step (init : DDoSSimulationAPP Rat) [.switchFeatures 1]) := by
  intro kept
  have handles := kept.observed 1 (by decide) rfl ⟨1, "", "", ethTypeIp, none, none⟩
  exact absurd handles.installed (by decide +kernel)

end NetworkAdapter.DDoSSimulationAPP
