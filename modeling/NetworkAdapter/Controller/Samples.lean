import NetworkAdapter.Controller.Histograms
import NetworkAdapter.Std.Tally

/-!
# What the samples of a run add up to

Any packet may come in here, also one that does not parse. A packet is sampled if it is
due, parses, and has a sample; its sample then waits for the next window. The histograms
of sources and ports tally the samples since the last reset. The protocol counts tally
those of the whole run: the reset clears `current_protocol_rate` instead.
-/

namespace NetworkAdapter

open Execution

/-- Nothing that sampling reads of the packet raises. -/
def PacketIn.accepted (message : PacketIn) : Bool :=
  match message.protocols with
  | .ok protocols =>
      (DDoSSimulationAPP.ethernetHeader message).isOk &&
        (DDoSSimulationAPP.sampleOf protocols).isOk
  | .error _ => false

namespace DDoSSimulationAPP

variable {K : Type}

/-- The packets sampled before the last reset of the histograms, and those since. -/
structure SampleHistory where
  earlier : List PacketIn
  sinceReset : List PacketIn

namespace SampleHistory

/-- All packets sampled. -/
def all (history : SampleHistory) : List PacketIn := history.earlier ++ history.sinceReset

/-- The history after an event. -/
def note (history : SampleHistory) (app : DDoSSimulationAPP K) : Event → SampleHistory
  | .packetIn message =>
      if app.due && message.accepted then
        if resets message app then ⟨history.all ++ [message], []⟩
        else ⟨history.earlier, history.sinceReset ++ [message]⟩
      else history
  | _ => history

end SampleHistory

/-- The samples of packets. -/
def samplesOf (messages : List PacketIn) : List SampleData :=
  messages.filterMap PacketIn.sample?

theorem samplesOf_append (earlier later : List PacketIn) :
    samplesOf (earlier ++ later) = samplesOf earlier ++ samplesOf later := List.filterMap_append

/-- The application with the waiting samples counted, which a window is computed from. -/
def counted (app : DDoSSimulationAPP K) : DDoSSimulationAPP K :=
  app.sampleQueue.foldl countSample { app with sampleQueue := [] }

/-- The counters tally two lists of samples: those since a reset, and all. -/
structure Tallies (app : DDoSSimulationAPP K) (sinceReset all : List SampleData) : Prop where
  sourceIps : app.sourceIps = Dict.tally (sinceReset.map SampleData.srcIp)
  destinationPorts : app.destinationPorts = Dict.tally (sinceReset.map SampleData.dstPort)
  protocolCount : app.protocolCount = Dict.tally (all.map SampleData.protocol)

/-- Counting samples adds them to both. -/
theorem Tallies.foldl_countSample {app : DDoSSimulationAPP K} {sinceReset all : List SampleData}
    (tallies : Tallies app sinceReset all) (samples : List SampleData) :
    Tallies (samples.foldl countSample app) (sinceReset ++ samples) (all ++ samples) := by
  induction samples generalizing app sinceReset all with
  | nil => simpa using tallies
  | cons sample rest inductionHypothesis =>
      have one : Tallies (countSample app sample) (sinceReset ++ [sample]) (all ++ [sample]) := by
        obtain ⟨sourceIps, destinationPorts, protocolCount⟩ := tallies
        constructor
        · rw [List.map_append, Dict.tally_append, ← sourceIps]
          rfl
        · rw [List.map_append, Dict.tally_append, ← destinationPorts]
          rfl
        · rw [List.map_append, Dict.tally_append, ← protocolCount]
          rfl
      simpa using inductionHypothesis one

/-- Counting the waiting samples does. -/
theorem Tallies.counted {app : DDoSSimulationAPP K} {sinceReset all : List SampleData}
    (tallies : Tallies app sinceReset all) :
    Tallies app.counted (sinceReset ++ app.sampleQueue) (all ++ app.sampleQueue) := by
  have emptied : Tallies { app with sampleQueue := [] } sinceReset all :=
    ⟨tallies.sourceIps, tallies.destinationPorts, tallies.protocolCount⟩
  exact emptied.foldl_countSample app.sampleQueue

/-- A change of nothing that sampling reads or counts. -/
structure SameCounts (before after : DDoSSimulationAPP K) : Prop
    extends SameSampling before after where
  destinationPorts : after.destinationPorts = before.destinationPorts
  protocolCount : after.protocolCount = before.protocolCount

theorem SameCounts.refl (app : DDoSSimulationAPP K) : SameCounts app app :=
  ⟨.refl app, rfl, rfl⟩

theorem SameCounts.trans {before middle after : DDoSSimulationAPP K}
    (first : SameCounts before middle) (second : SameCounts middle after) :
    SameCounts before after :=
  ⟨first.toSameSampling.trans second.toSameSampling,
    second.destinationPorts.trans first.destinationPorts,
    second.protocolCount.trans first.protocolCount⟩

theorem switched_sameCounts (event : PacketIn) (header : String × String × Nat)
    (app : DDoSSimulationAPP K) : SameCounts app (switched event header app) := by
  obtain ⟨macToPort, messages, unfolded⟩ := switched_eq event header app
  rw [unfolded]
  exact ⟨⟨rfl, rfl, rfl, rfl, rfl, rfl⟩, rfl, rfl⟩

theorem Tallies.of_same {before after : DDoSSimulationAPP K} {sinceReset all : List SampleData}
    (tallies : Tallies before sinceReset all) (same : SameCounts before after) :
    Tallies after sinceReset all :=
  ⟨same.sourceIps.trans tallies.sourceIps,
    same.destinationPorts.trans tallies.destinationPorts,
    same.protocolCount.trans tallies.protocolCount⟩

/-- Of the packets sampled since the last reset some are counted, and the samples of the others
wait in the queue, which therefore has room. -/
structure Collected (history : SampleHistory) (app : DDoSSimulationAPP K) : Prop where
  few : app.packetCount ≤ 50
  divides : ∃ before waiting, history.sinceReset = before ++ waiting ∧
    waiting.length = app.packetCount ∧ app.sampleQueue = samplesOf waiting ∧
      Tallies app (samplesOf before) (samplesOf (history.earlier ++ before))

/-- What is known stays known where only the count of packet-ins moves on. -/
theorem Collected.of_same {history : SampleHistory} {before after : DDoSSimulationAPP K}
    (collected : Collected history before)
    (same : SameCounts { before with sampleCount := after.sampleCount } after) :
    Collected history after := by
  obtain ⟨few, counted, waiting, split, length, queue, tallies⟩ := collected
  refine ⟨same.packetCount.trans_le few, counted, waiting, split,
    length.trans same.packetCount.symm, same.sampleQueue.trans queue, .of_same ?_ same⟩
  exact ⟨tallies.sourceIps, tallies.destinationPorts, tallies.protocolCount⟩

/-- A sampled packet has its sample queued behind the waiting ones. -/
theorem Collected.queueSample_eq {history : SampleHistory} {app : DDoSSimulationAPP K}
    (collected : Collected history app) {message : PacketIn} {protocols : List Header}
    {sample : Option SampleData} (header : String × String × Nat)
    (decoded : message.protocols = .ok protocols) (sampled : sampleOf protocols = .ok sample) :
    ∃ before waiting, history.sinceReset ++ [message] = before ++ waiting ∧
      waiting.length = app.packetCount + 1 ∧
      (queueSample protocols sample (switched message header app)).sampleQueue =
        samplesOf waiting ∧
      Tallies (queueSample protocols sample (switched message header app)) (samplesOf before)
        (samplesOf (history.earlier ++ before)) := by
  obtain ⟨few, before, waiting, split, length, queue, tallies⟩ := collected
  have same := switched_sameCounts message header app
  have named : message.sample? = sample := by simp [PacketIn.sample?, decoded, sampled]
  have room : (switched message header app).sampleQueue.length < 100 := by
    have bound : (samplesOf waiting).length ≤ waiting.length := List.length_filterMap_le _ _
    rw [same.sampleQueue, queue]
    omega
  have switchedTallies := tallies.of_same same
  refine ⟨before, waiting ++ [message], by rw [split, List.append_assoc], by simp [length], ?_,
    ⟨switchedTallies.sourceIps, switchedTallies.destinationPorts,
      switchedTallies.protocolCount⟩⟩
  rw [sampleQueue_queueSample room, same.sampleQueue, queue, samplesOf, samplesOf,
    List.filterMap_append]
  cases sample <;> simp [named]

/-- The state a handler hands to `process_sample_queue` has this packet's sample in the queue. -/
theorem Collected.handed {history : SampleHistory} {app queued : DDoSSimulationAPP K}
    (collected : Collected history app) {message : PacketIn}
    (processed : processed? message app = some queued) :
    ∃ before waiting, history.sinceReset ++ [message] = before ++ waiting ∧
      queued.sampleQueue = samplesOf waiting ∧
      Tallies queued (samplesOf before) (samplesOf (history.earlier ++ before)) := by
  obtain ⟨header, protocols, sample, _, decoded, sampled, _, _, rfl⟩ := processed?_eq_some processed
  obtain ⟨before, waiting, split, _, queue, tallies⟩ :=
    collected.queueSample_eq header decoded sampled
  exact ⟨before, waiting, split, queue,
    tallies.sourceIps, tallies.destinationPorts, tallies.protocolCount⟩

/-- A window is computed from all samples since the last reset, this packet's included. -/
theorem Collected.counted {history : SampleHistory} {app queued : DDoSSimulationAPP K}
    (collected : Collected history app) {message : PacketIn}
    (processed : processed? message app = some queued) :
    Tallies queued.counted (samplesOf (history.sinceReset ++ [message]))
      (samplesOf (history.all ++ [message])) := by
  obtain ⟨before, waiting, split, queue, tallies⟩ := collected.handed processed
  have all := tallies.counted
  rw [queue, ← samplesOf_append, ← samplesOf_append, List.append_assoc, ← split,
    ← List.append_assoc] at all
  exact all

/-- What a packet that computes no window leaves of the sampling state. -/
theorem Collected.unprocessed {history : SampleHistory} {app : DDoSSimulationAPP K}
    (collected : Collected history app) {message : PacketIn} {protocols : List Header}
    {sample : Option SampleData} (header : String × String × Nat)
    (decoded : message.protocols = .ok protocols) (sampled : sampleOf protocols = .ok sample)
    (few : ¬ 50 < app.packetCount + 1) :
    Collected ⟨history.earlier, history.sinceReset ++ [message]⟩
      { queueSample protocols sample (switched message header app) with
        packetCount := app.packetCount + 1 } := by
  obtain ⟨before, waiting, split, length, queue, tallies⟩ :=
    collected.queueSample_eq header decoded sampled
  exact ⟨Nat.not_lt.mp few, before, waiting, split, length, queue,
    ⟨tallies.sourceIps, tallies.destinationPorts, tallies.protocolCount⟩⟩

/-- A sampled packet enters the history. -/
theorem SampleHistory.note_accepted {app : DDoSSimulationAPP K} (history : SampleHistory)
    {message : PacketIn} {header : String × String × Nat} {protocols : List Header}
    {sample : Option SampleData} (parses : ethernetHeader message = .ok header)
    (decoded : message.protocols = .ok protocols) (sampled : sampleOf protocols = .ok sample)
    (due : (app.sampleCount + 1) % sampleRate = 0) :
    history.note app (.packetIn message) =
      if resets message app then ⟨history.all ++ [message], []⟩
      else ⟨history.earlier, history.sinceReset ++ [message]⟩ := by
  have accepted : message.accepted = true := by
    simp [PacketIn.accepted, decoded, parses, sampled, Except.isOk, Except.toBool]
  simp [note, (due_iff app).mpr due, accepted]

theorem SampleHistory.note_between {app : DDoSSimulationAPP K} (history : SampleHistory)
    (message : PacketIn) (between : (app.sampleCount + 1) % sampleRate ≠ 0) :
    history.note app (.packetIn message) = history := by
  have off : app.due = false := by
    rw [Bool.eq_false_iff, Ne, due_iff]
    exact between
  simp [note, off]

theorem SampleHistory.note_refused {app : DDoSSimulationAPP K} (history : SampleHistory)
    {message : PacketIn} (refused : message.accepted = false) :
    history.note app (.packetIn message) = history := by
  simp [note, refused]

variable [EntropyArithmetic K]

/-- A window leaves the protocol counts of its samples, and the histograms unless it is the
fourth since the last reset. -/
theorem processSampleQueue_tallies {app : DDoSSimulationAPP K} {sinceReset all : List SampleData}
    (tallies : Tallies app.counted sinceReset all) :
    Tallies (processSampleQueue app) (if app.sampleStaticCount + 1 > 3 then [] else sinceReset)
      all := by
  obtain ⟨sources, ports, protocols, eq⟩ :=
    foldl_countSample app.sampleQueue { app with sampleQueue := [] }
  have counted : app.counted = _ := eq
  obtain ⟨sourceIps, destinationPorts, protocolCount⟩ := counted ▸ tallies
  simp only [processSampleQueue, eq, publish, whitelistSources]
  split
  · split <;> exact ⟨rfl, rfl, protocolCount⟩
  · exact ⟨sourceIps, destinationPorts, protocolCount⟩

/-- Sampling one more packet, whatever becomes of it. -/
theorem Collected.samplePacketIn {history : SampleHistory} {app : DDoSSimulationAPP K}
    (collected : Collected history app) (message : PacketIn) :
    Collected (history.note app (.packetIn message))
      ((DDoSSimulationAPP.samplePacketIn message).leaves app) := by
  have sampled := samplePacketIn_sampled message app
  unfold Effect.leaves
  generalize (DDoSSimulationAPP.samplePacketIn message).run app = result at sampled
  cases sampled with
  | unparsed raises =>
      have refused : message.accepted = false := by
        cases decoded : message.protocols <;>
          simp [PacketIn.accepted, decoded, raises, Except.isOk, Except.toBool]
      rw [history.note_refused refused]
      exact collected
  | @passed header _ between =>
      have same := switched_sameCounts message header app
      rw [history.note_between message between]
      exact collected.of_same ⟨⟨rfl, same.packetCount, same.sampleStaticCount, same.sampleQueue,
        same.sourceIps, same.protocolStatistic⟩, same.destinationPorts, same.protocolCount⟩
  | @refused header protocols error _ decoded _ raises =>
      have refused : message.accepted = false := by
        simp [PacketIn.accepted, decoded, raises, Except.isOk, Except.toBool]
      have same := switched_sameCounts message header app
      obtain ⟨few, before, waiting, split, length, queue, tallies⟩ := collected
      have kept := tallies.of_same same
      rw [history.note_refused refused]
      exact ⟨same.packetCount.trans_le few, before, waiting, split,
        length.trans same.packetCount.symm, same.sampleQueue.trans queue,
        ⟨kept.sourceIps, kept.destinationPorts, kept.protocolCount⟩⟩
  | counted parses decoded due sampled few =>
      have continues : resets message app = false := by
        simp [resets, processed?, parses, decoded, sampled, few]
      rw [history.note_accepted parses decoded sampled due, continues]
      exact collected.unprocessed _ decoded sampled few
  | @windowed header protocols sample parses decoded due sampled enough =>
      have processed : processed? message app = some
          { queueSample protocols sample (switched message header app) with packetCount := 0 } := by
        simp [processed?, parses, decoded, sampled, (due_iff app).mpr due, enough]
      have tallies := processSampleQueue_tallies (collected.counted processed)
      obtain ⟨emptied, packets, _, _, _⟩ := processSampleQueue_sampling
        { queueSample protocols sample (switched message header app) with packetCount := 0 }
      rw [history.note_accepted parses decoded sampled due]
      refine ⟨packets.trans_le (Nat.zero_le 50), ?_⟩
      simp only [resets, processed, decide_eq_true_eq]
      split
      · next ending =>
          rw [if_pos ending] at tallies
          refine ⟨[], [], rfl, packets.symm, emptied, ?_⟩
          simpa [samplesOf] using tallies
      · next going =>
          rw [if_neg going] at tallies
          refine ⟨_, [], (List.append_nil _).symm, packets.symm, emptied, ?_⟩
          simpa [SampleHistory.all] using tallies

/-- The rest of the handler does not sample. -/
theorem packetIn_sameCounts (event : PacketIn) (app : DDoSSimulationAPP K) :
    SameCounts ((samplePacketIn event).leaves app) (step app (.packetIn event)) := by
  refine packetIn_after_sampling SameCounts event .refl (fun _ _ _ => SameCounts.trans)
    (fun _ => ⟨⟨rfl, rfl, rfl, rfl, rfl, rfl⟩, rfl, rfl⟩)
    (fun _ => ⟨⟨rfl, rfl, rfl, rfl, rfl, rfl⟩, rfl, rfl⟩) ?_ ?_ app
  · intro before
    rw [createDefenseFlowRule_eq]
    exact ⟨⟨rfl, rfl, rfl, rfl, rfl, rfl⟩, rfl, rfl⟩
  · intro before
    obtain ⟨rules, messages, unfolded, _⟩ := enforceBans_bans event before
    rw [unfolded]
    exact ⟨⟨rfl, rfl, rfl, rfl, rfl, rfl⟩, rfl, rfl⟩

/-- No other event samples. -/
theorem step_sameCounts (app : DDoSSimulationAPP K) (event : Event)
    (other : ∀ message, event ≠ .packetIn message) : SameCounts app (step app event) := by
  have served := step_served app other
  generalize step app event = after at served
  cases served with
  | protocolForbid body rules => exact ⟨⟨rfl, rfl, rfl, rfl, rfl, rfl⟩, rfl, rfl⟩
  | setIpWhiteTable dpid rules => exact ⟨⟨rfl, rfl, rfl, rfl, rfl, rfl⟩, rfl, rfl⟩
  | trafficEntropy => exact ⟨⟨rfl, rfl, rfl, rfl, rfl, rfl⟩, rfl, rfl⟩
  | switchFeatures datapath => exact ⟨⟨rfl, rfl, rfl, rfl, rfl, rfl⟩, rfl, rfl⟩

/-- The application and the history, one event later. -/
def sampling (state : DDoSSimulationAPP K × SampleHistory) (event : Event) :
    DDoSSimulationAPP K × SampleHistory :=
  (step state.1 event, state.2.note state.1 event)

/-- What is known of the history stays known after every event. -/
theorem Collected.step {history : SampleHistory} {app : DDoSSimulationAPP K}
    (collected : Collected history app) (event : Event) :
    Collected (history.note app event) (DDoSSimulationAPP.step app event) := by
  by_cases packet : ∃ message, event = .packetIn message
  · obtain ⟨message, rfl⟩ := packet
    have rest := packetIn_sameCounts message app
    exact (collected.samplePacketIn message).of_same ⟨⟨rfl, rest.packetCount,
      rest.sampleStaticCount, rest.sampleQueue, rest.sourceIps, rest.protocolStatistic⟩,
      rest.destinationPorts, rest.protocolCount⟩
  · have other : ∀ message, event ≠ .packetIn message := fun message same =>
      packet ⟨message, same⟩
    have quiet := step_sameCounts app event other
    have noted : history.note app event = history := by
      cases event with
      | packetIn message => exact absurd rfl (other message)
      | _ => rfl
    rw [noted]
    exact collected.of_same ⟨⟨rfl, quiet.packetCount, quiet.sampleStaticCount, quiet.sampleQueue,
      quiet.sourceIps, quiet.protocolStatistic⟩, quiet.destinationPorts, quiet.protocolCount⟩

variable (K) in
/-- What a run has sampled. -/
def history (events : List Event) : SampleHistory :=
  (run sampling ((init : DDoSSimulationAPP K), ⟨[], []⟩) events).2

/-- The history is kept beside the application. -/
theorem run_sampling (events : List Event) :
    (run sampling ((init : DDoSSimulationAPP K), ⟨[], []⟩) events).1 = run step init events :=
  run_image Prod.fst (fun _ _ => rfl) _ events

/-- After every run the history says what the counters hold. -/
theorem run_collected (events : List Event) :
    Collected (history K events) (run step (init : DDoSSimulationAPP K) events) := by
  rw [← run_sampling]
  refine run_invariant (fun state : DDoSSimulationAPP K × SampleHistory =>
    Collected state.2 state.1) (fun state event collected => collected.step event) ?_ events
  exact ⟨Nat.zero_le 50, [], [], rfl, rfl, rfl, rfl, rfl, rfl⟩

/-- What to look at in runs on fixed inputs. -/
def probe (state : DDoSSimulationAPP K × SampleHistory) : Nat :=
  state.1.sampleCount + state.1.packetCount + state.1.sampleStaticCount +
    state.2.sinceReset.length

end DDoSSimulationAPP
end NetworkAdapter
