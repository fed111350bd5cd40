import NetworkAdapter.Controller.Learning

/-!
# What the histograms count

Every fifth packet-in is sampled, every fifty-first sample computes a window, and
every fourth window resets the histograms. The queue of samples is emptied with
each window, so it holds no more samples than were counted since, which is half of
what it has room for: no sample is dropped, and a window is computed from exactly
the IPv4 packets sampled since the last reset.
-/

namespace NetworkAdapter

open Execution

/-- The truth of a header, as its length gives it: four times the data offset for TCP. -/
def Header.truthy : Header → Bool
  | .tcp _ _ offset => offset * 4 ≠ 0
  | _ => true

/-- The packet parses to an Ethernet frame. The parser lists a header only if it is true. -/
structure PacketIn.Parses (message : PacketIn) : Prop where
  ethernet : ∃ header, DDoSSimulationAPP.ethernetHeader message = .ok header
  truthy : ∀ protocols, message.protocols = .ok protocols →
    ∀ header ∈ protocols, header.truthy = true

/-- The source address of an IPv4 packet. -/
def PacketIn.source? (message : PacketIn) : Option String :=
  match message.protocols with
  | .ok protocols => (protocols.findSome? Header.ipv4?).map Prod.fst
  | .error _ => none

/-- The sample of a packet. -/
def PacketIn.sample? (message : PacketIn) : Option SampleData :=
  match message.protocols with
  | .ok protocols =>
      match DDoSSimulationAPP.sampleOf protocols with
      | .ok sample => sample
      | .error _ => none
  | .error _ => none

/-- The sum of the four counters. -/
def ProtocolStatistic.total (statistic : ProtocolStatistic) : Nat :=
  statistic.tcp + statistic.udp + statistic.icmp + statistic.other

namespace DDoSSimulationAPP

variable {K : Type}

/-- A listed TCP header has a data offset. -/
theorem offset_of_truthy {protocols : List Header}
    (truthy : ∀ header ∈ protocols, header.truthy = true) {srcPort dstPort offset : Nat}
    (tcp : protocols.findSome? Header.tcp? = some (srcPort, dstPort, offset)) :
    offset * 4 ≠ 0 := by
  obtain ⟨header, member, listed⟩ := List.exists_of_findSome?_eq_some tcp
  have truth := truthy header member
  cases header <;> simp [Header.tcp?] at listed
  simpa [Header.truthy, listed] using truth

/-- So it has a port to read. -/
theorem samplePort_of_truthy {protocols : List Header}
    (truthy : ∀ header ∈ protocols, header.truthy = true) :
    ∃ port, samplePort protocols = .ok port := by
  unfold samplePort
  cases tcp : protocols.findSome? Header.tcp? with
  | none => cases protocols.findSome? Header.udp? <;> exact ⟨_, rfl⟩
  | some fields =>
      obtain ⟨srcPort, dstPort, offset⟩ := fields
      have positive := offset_of_truthy truthy tcp
      cases protocols.findSome? Header.udp? <;> exact ⟨srcPort, by simp [positive]⟩

/-- A packet that parses is sampled exactly if it is an IPv4 packet, with its source. -/
theorem sampleOf_of_parses {message : PacketIn} (parses : message.Parses) :
    ∃ protocols, message.protocols = .ok protocols ∧
      sampleOf protocols = .ok message.sample? ∧
        message.sample?.map SampleData.srcIp = message.source? := by
  obtain ⟨header, found⟩ := parses.ethernet
  obtain ⟨protocols, decoded⟩ := ethernetHeader_protocols found
  obtain ⟨port, listed⟩ := samplePort_of_truthy (parses.truthy protocols decoded)
  refine ⟨protocols, decoded, ?_⟩
  unfold PacketIn.sample? PacketIn.source? sampleOf
  rw [decoded]
  cases ipv4 : protocols.findSome? Header.ipv4? with
  | none => simp [ipv4]
  | some addresses => simp [ipv4, listed, bind, Except.bind]

theorem total_countProtocol (protocols : List Header) (statistic : ProtocolStatistic) :
    (countProtocol protocols statistic).total = statistic.total + 1 := by
  unfold countProtocol ProtocolStatistic.total
  split
  · dsimp only
    omega
  · split
    · dsimp only
      omega
    · split <;> (dsimp only; omega)

/-- Counting samples adds to each source what it has in the samples. -/
theorem sourceIps_foldl_countSample (samples : List SampleData) (app : DDoSSimulationAPP K)
    (ip : String) :
    ((samples.foldl countSample app).sourceIps.get? ip).getD 0 =
      (app.sourceIps.get? ip).getD 0 + samples.countP fun sample => sample.srcIp = ip := by
  induction samples generalizing app with
  | nil => rfl
  | cons sample rest inductionHypothesis =>
      rw [List.foldl_cons, inductionHypothesis, List.countP_cons]
      by_cases same : sample.srcIp = ip
      · simp [countSample, same]
        omega
      · simp [countSample, same]

/-- A change of neither the sampling counters, nor the queue, nor the histogram of sources. -/
structure SameSampling (before after : DDoSSimulationAPP K) : Prop where
  sampleCount : after.sampleCount = before.sampleCount
  packetCount : after.packetCount = before.packetCount
  sampleStaticCount : after.sampleStaticCount = before.sampleStaticCount
  sampleQueue : after.sampleQueue = before.sampleQueue
  sourceIps : after.sourceIps = before.sourceIps
  protocolStatistic : after.protocolStatistic = before.protocolStatistic

theorem SameSampling.refl (app : DDoSSimulationAPP K) : SameSampling app app :=
  ⟨rfl, rfl, rfl, rfl, rfl, rfl⟩

theorem SameSampling.trans {before middle after : DDoSSimulationAPP K}
    (first : SameSampling before middle) (second : SameSampling middle after) :
    SameSampling before after where
  sampleCount := second.sampleCount.trans first.sampleCount
  packetCount := second.packetCount.trans first.packetCount
  sampleStaticCount := second.sampleStaticCount.trans first.sampleStaticCount
  sampleQueue := second.sampleQueue.trans first.sampleQueue
  sourceIps := second.sourceIps.trans first.sourceIps
  protocolStatistic := second.protocolStatistic.trans first.protocolStatistic

theorem switched_sameSampling (event : PacketIn) (header : String × String × Nat)
    (app : DDoSSimulationAPP K) : SameSampling app (switched event header app) := by
  obtain ⟨macToPort, messages, unfolded⟩ := switched_eq event header app
  rw [unfolded]
  exact ⟨rfl, rfl, rfl, rfl, rfl, rfl⟩

/-- The handler passes the rate check. -/
def due (app : DDoSSimulationAPP K) : Bool := (app.sampleCount + 1) % sampleRate == 0

/-- The application as the handler of a packet hands it to `process_sample_queue`, if it does. -/
def processed? (event : PacketIn) (app : DDoSSimulationAPP K) : Option (DDoSSimulationAPP K) :=
  match ethernetHeader event, event.protocols with
  | .ok header, .ok protocols =>
      match sampleOf protocols with
      | .ok sample =>
          if app.due && decide (50 < app.packetCount + 1) then
            some { queueSample protocols sample (switched event header app) with packetCount := 0 }
          else none
      | .error _ => none
  | _, _ => none

/-- `source_ips` when `process_sample_queue` computes its entropy. -/
def entropySources (app : DDoSSimulationAPP K) : Dict String Nat :=
  (app.sampleQueue.foldl countSample { app with sampleQueue := [] }).sourceIps

/-- Handling the packet resets the histograms. -/
def resets (event : PacketIn) (app : DDoSSimulationAPP K) : Bool :=
  match processed? event app with
  | some queued => queued.sampleStaticCount + 1 > 3
  | none => false

/-- What has been sampled: in the whole run, and since the last reset of the histograms. -/
structure SampleLog where
  sampled : List PacketIn
  sinceReset : List PacketIn

/-- The log after an event. -/
def SampleLog.note (log : SampleLog) (app : DDoSSimulationAPP K) : Event → SampleLog
  | .packetIn message =>
      if app.due then
        { sampled := log.sampled ++ [message]
          sinceReset := if resets message app then [] else log.sinceReset ++ [message] }
      else log
  | _ => log

/-- What is known after `count` packet-ins, `log` being what was sampled of them. -/
structure Sampling (count : Nat) (log : SampleLog) (app : DDoSSimulationAPP K) : Prop where
  sampleCount : app.sampleCount = count % 5
  sampled : log.sampled.length = count / 5
  statistic : app.protocolStatistic.total = count / 5
  packetCount : app.packetCount ≤ 50
  parsed : ∀ message ∈ log.sinceReset, message.Parses
  /-- Since the last reset some samples were counted, and the others wait in the queue. -/
  sinceReset : ∃ counted waiting, log.sinceReset = counted ++ waiting ∧
    waiting.length = app.packetCount ∧ app.sampleQueue = waiting.filterMap PacketIn.sample? ∧
      ∀ ip, (app.sourceIps.get? ip).getD 0 =
        counted.countP fun message => message.source? = some ip

/-- The samples of packets name their sources. -/
theorem countP_sample {messages : List PacketIn} (parsed : ∀ message ∈ messages, message.Parses)
    (ip : String) :
    (messages.filterMap PacketIn.sample?).countP (fun sample => sample.srcIp = ip) =
      messages.countP fun message => message.source? = some ip := by
  rw [List.countP_filterMap]
  refine List.countP_congr fun message member => ?_
  obtain ⟨_, _, _, named⟩ := sampleOf_of_parses (parsed message member)
  rw [← named]
  cases message.sample? <;> simp

/-- A queue that is not full takes the sample. -/
theorem sampleQueue_queueSample {app : DDoSSimulationAPP K} (room : app.sampleQueue.length < 100)
    (protocols : List Header) (sample : Option SampleData) :
    (queueSample protocols sample app).sampleQueue = app.sampleQueue ++ sample.toList := by
  cases sample <;> simp [queueSample, putUnlessFull, room]

/-- The queue holds no more samples than were counted since it was last emptied. -/
theorem Sampling.queue_le {count : Nat} {log : SampleLog} {app : DDoSSimulationAPP K}
    (sampling : Sampling count log app) : app.sampleQueue.length ≤ app.packetCount := by
  obtain ⟨_, waiting, _, length, queue, _⟩ := sampling.sinceReset
  rw [queue, ← length]
  exact List.length_filterMap_le _ _

/-- What becomes of the queue when a packet is sampled. -/
theorem Sampling.queueSample_eq {count : Nat} {log : SampleLog} {app : DDoSSimulationAPP K}
    (sampling : Sampling count log app) {message : PacketIn} (parses : message.Parses)
    {protocols : List Header} {sample : Option SampleData} (header : String × String × Nat)
    (decoded : message.protocols = .ok protocols) (sampled : sampleOf protocols = .ok sample) :
    ∃ counted waiting, log.sinceReset ++ [message] = counted ++ waiting ∧
      waiting.length = app.packetCount + 1 ∧
      (queueSample protocols sample (switched message header app)).sampleQueue =
        waiting.filterMap PacketIn.sample? ∧
      ∀ ip, (app.sourceIps.get? ip).getD 0 =
        counted.countP fun message => message.source? = some ip := by
  obtain ⟨counted, waiting, split, length, queue, sources⟩ := sampling.sinceReset
  have same := switched_sameSampling message header app
  have room : (switched message header app).sampleQueue.length < 100 := by
    have bound := sampling.queue_le
    have few := sampling.packetCount
    rw [same.sampleQueue]
    omega
  obtain ⟨known, decoded', sampled', _⟩ := sampleOf_of_parses parses
  obtain rfl : protocols = known := Except.ok.inj (decoded.symm.trans decoded')
  obtain rfl : sample = message.sample? := Except.ok.inj (sampled.symm.trans sampled')
  refine ⟨counted, waiting ++ [message], by rw [split, List.append_assoc], by simp [length], ?_,
    sources⟩
  rw [sampleQueue_queueSample room, same.sampleQueue, queue, List.filterMap_append]
  cases found : message.sample? <;> simp [found]

/-- What is known stays known where only the count of packet-ins moves on. -/
theorem Sampling.carry {count later : Nat} {log : SampleLog} {app after : DDoSSimulationAPP K}
    (sampling : Sampling count log app)
    (same : SameSampling { app with sampleCount := after.sampleCount } after)
    (position : after.sampleCount = later % 5) (quotient : later / 5 = count / 5) :
    Sampling later log after := by
  obtain ⟨counted, waiting, split, length, queue, sources⟩ := sampling.sinceReset
  refine ⟨position, by rw [quotient, sampling.sampled], ?_, ?_, sampling.parsed, counted, waiting,
    split, length.trans same.packetCount.symm, same.sampleQueue.trans queue, fun ip => ?_⟩
  · rw [same.protocolStatistic, quotient, sampling.statistic]
  · rw [same.packetCount]
    exact sampling.packetCount
  · rw [same.sourceIps, sources ip]

theorem due_iff (app : DDoSSimulationAPP K) :
    app.due = true ↔ (app.sampleCount + 1) % sampleRate = 0 := beq_iff_eq

/-- What is handed over has the packet's sample in its queue, if the packet is due and the
fifty-first since the last window. -/
theorem processed?_eq_some {event : PacketIn} {app queued : DDoSSimulationAPP K}
    (processed : processed? event app = some queued) :
    ∃ header protocols sample, ethernetHeader event = .ok header ∧
      event.protocols = .ok protocols ∧ sampleOf protocols = .ok sample ∧ app.due = true ∧
      50 < app.packetCount + 1 ∧
      queued = { queueSample protocols sample (switched event header app) with
        packetCount := 0 } := by
  unfold processed? at processed
  split at processed
  · next header protocols parses decoded =>
      split at processed
      · next sample sampled =>
          split at processed
          · next both =>
              rw [Bool.and_eq_true, decide_eq_true_iff] at both
              exact ⟨header, protocols, sample, parses, decoded, sampled, both.1, both.2,
                (Option.some.inj processed).symm⟩
          · cases processed
      · cases processed
  · cases processed

/-- A window is computed from the packets sampled since the last reset, this one included. -/
theorem Sampling.entropySources_eq {count : Nat} {log : SampleLog} {app : DDoSSimulationAPP K}
    (sampling : Sampling count log app) {message : PacketIn} (parses : message.Parses)
    {queued : DDoSSimulationAPP K} (processed : processed? message app = some queued)
    (ip : String) :
    ((entropySources queued).get? ip).getD 0 =
      (log.sinceReset ++ [message]).countP fun message => message.source? = some ip := by
  obtain ⟨header, protocols, sample, _, decoded, sampled, _, _, rfl⟩ := processed?_eq_some processed
  obtain ⟨counted, waiting, split, _, queue, sources⟩ :=
    sampling.queueSample_eq parses header decoded sampled
  have parsed : ∀ message ∈ waiting, message.Parses := by
    intro other member
    have inside : other ∈ log.sinceReset ++ [message] := split ▸ List.mem_append_right _ member
    rcases List.mem_append.mp inside with before | last
    · exact sampling.parsed other before
    · rw [List.mem_singleton.mp last]
      exact parses
  have kept : (queueSample protocols sample (switched message header app)).sourceIps =
      app.sourceIps := (switched_sameSampling message header app).sourceIps
  rw [entropySources, sourceIps_foldl_countSample]
  show ((queueSample protocols sample (switched message header app)).sourceIps.get? ip).getD 0 +
    (queueSample protocols sample (switched message header app)).sampleQueue.countP _ = _
  rw [kept, sources ip, queue, countP_sample parsed, split, List.countP_append]

/-- A packet that is passed over moves only the count of packet-ins. -/
theorem Sampling.passed {count : Nat} {log : SampleLog} {app : DDoSSimulationAPP K}
    (sampling : Sampling count log app) (message : PacketIn) (header : String × String × Nat)
    (between : (app.sampleCount + 1) % sampleRate ≠ 0) :
    Sampling (count + 1) (log.note app (.packetIn message))
      { switched message header app with sampleCount := app.sampleCount + 1 } := by
  have off : app.due = false := by
    rw [Bool.eq_false_iff, Ne, due_iff]
    exact between
  have same := switched_sameSampling message header app
  have noted : log.note app (.packetIn message) = log := by simp [SampleLog.note, off]
  have position := sampling.sampleCount
  have rate : (app.sampleCount + 1) % 5 ≠ 0 := between
  rw [noted]
  refine sampling.carry ⟨rfl, same.packetCount, same.sampleStaticCount, same.sampleQueue,
    same.sourceIps, same.protocolStatistic⟩ ?_ (by omega)
  show app.sampleCount + 1 = (count + 1) % 5
  omega

/-- The log of a sampled packet. -/
theorem SampleLog.note_due {app : DDoSSimulationAPP K} (log : SampleLog) (message : PacketIn)
    (due : (app.sampleCount + 1) % sampleRate = 0) :
    log.note app (.packetIn message) = ⟨log.sampled ++ [message],
      if resets message app then [] else log.sinceReset ++ [message]⟩ := by
  simp [SampleLog.note, (due_iff app).mpr due]

/-- A sampled packet is the fifth since the last, and is counted once: what is left to say is
how the packets sampled since the last reset divide into counted and waiting ones. -/
theorem Sampling.record {count : Nat} {log : SampleLog} {app after : DDoSSimulationAPP K}
    (sampling : Sampling count log app) {message : PacketIn} (parses : message.Parses)
    (due : (app.sampleCount + 1) % sampleRate = 0) (position : after.sampleCount = 0)
    (statistic : after.protocolStatistic.total = app.protocolStatistic.total + 1)
    (packetCount : after.packetCount ≤ 50) {reset : Bool}
    (sinceReset : ∃ counted waiting,
      (if reset then [] else log.sinceReset ++ [message]) = counted ++ waiting ∧
      waiting.length = after.packetCount ∧
      after.sampleQueue = waiting.filterMap PacketIn.sample? ∧
      ∀ ip, (after.sourceIps.get? ip).getD 0 =
        counted.countP fun message => message.source? = some ip) :
    Sampling (count + 1)
      ⟨log.sampled ++ [message], if reset then [] else log.sinceReset ++ [message]⟩ after := by
  have known := sampling.sampleCount
  have rate : (app.sampleCount + 1) % 5 = 0 := due
  have fifth : (count + 1) % 5 = 0 := by omega
  have quotient : (count + 1) / 5 = count / 5 + 1 := by omega
  refine ⟨position.trans fifth.symm, ?_, ?_, packetCount, ?_, sinceReset⟩
  · rw [List.length_append, sampling.sampled, List.length_singleton, quotient]
  · rw [statistic, sampling.statistic, quotient]
  · show ∀ other ∈ (if reset then [] else log.sinceReset ++ [message]), other.Parses
    split
    · simp
    · exact List.forall_mem_append.mpr ⟨sampling.parsed, by simpa using parses⟩

theorem total_queueSample (protocols : List Header) (sample : Option SampleData)
    (event : PacketIn) (header : String × String × Nat) (app : DDoSSimulationAPP K) :
    (queueSample protocols sample (switched event header app)).protocolStatistic.total =
      app.protocolStatistic.total + 1 := by
  have same := switched_sameSampling event header app
  rw [← same.protocolStatistic]
  exact total_countProtocol protocols _

/-- A sample that computes no window waits in the queue. -/
theorem Sampling.counted {count : Nat} {log : SampleLog} {app : DDoSSimulationAPP K}
    (sampling : Sampling count log app) {message : PacketIn} (parses : message.Parses)
    {header : String × String × Nat} {protocols : List Header} {sample : Option SampleData}
    (decoded : message.protocols = .ok protocols) (sampled : sampleOf protocols = .ok sample)
    (due : (app.sampleCount + 1) % sampleRate = 0) (few : ¬ 50 < app.packetCount + 1) :
    Sampling (count + 1) (log.note app (.packetIn message))
      { queueSample protocols sample (switched message header app) with
        packetCount := app.packetCount + 1 } := by
  have kept : resets message app = false := by
    simp only [resets, processed?, few, decide_false, Bool.and_false]
    split
    · next queued taken =>
        split at taken
        · split at taken <;> cases taken
        · cases taken
    · rfl
  have same := switched_sameSampling message header app
  obtain ⟨before, waiting, split, length, queue, sources⟩ :=
    sampling.queueSample_eq parses header decoded sampled
  rw [log.note_due message due]
  refine sampling.record parses due rfl ?_ (Nat.not_lt.mp few)
    ⟨before, waiting, ?_, length, queue, fun ip => ?_⟩
  · exact total_queueSample protocols sample message header app
  · simpa [kept] using split
  · show ((switched message header app).sourceIps.get? ip).getD 0 = _
    rw [same.sourceIps, sources ip]

variable [EntropyArithmetic K]

/-- A window empties the queue, and every fourth one the histogram of sources. -/
theorem processSampleQueue_sampling (app : DDoSSimulationAPP K) :
    (processSampleQueue app).sampleQueue = [] ∧
      (processSampleQueue app).packetCount = app.packetCount ∧
      (processSampleQueue app).sampleCount = app.sampleCount ∧
      (processSampleQueue app).protocolStatistic = app.protocolStatistic ∧
      (processSampleQueue app).sourceIps =
        if app.sampleStaticCount + 1 > 3 then .empty else entropySources app := by
  obtain ⟨sources, ports, protocols, counted⟩ :=
    foldl_countSample app.sampleQueue { app with sampleQueue := [] }
  simp only [processSampleQueue, entropySources, counted, publish, whitelistSources]
  split
  · split <;> exact ⟨rfl, rfl, rfl, rfl, rfl⟩
  · exact ⟨rfl, rfl, rfl, rfl, rfl⟩

/-- `processed?` is what the handler hands to `process_sample_queue`. -/
theorem samplePacketIn_processed {event : PacketIn} {app queued : DDoSSimulationAPP K}
    (processed : processed? event app = some queued) :
    (samplePacketIn event).run app = .ok () (processSampleQueue queued) := by
  have sampled := samplePacketIn_sampled event app
  obtain ⟨header, protocols, sample, parses, decoded, accepted, dueNow, enough, rfl⟩ :=
    processed?_eq_some processed
  generalize (samplePacketIn event).run app = result at sampled
  cases sampled with
  | unparsed raises => cases parses.symm.trans raises
  | passed _ between => exact absurd ((due_iff app).mp dueNow) between
  | refused _ decoded' _ raises =>
      obtain rfl := Except.ok.inj (decoded.symm.trans decoded')
      cases accepted.symm.trans raises
  | counted _ _ _ _ few => exact absurd enough few
  | windowed parses' decoded' _ accepted' _ =>
      obtain rfl := Except.ok.inj (parses.symm.trans parses')
      obtain rfl := Except.ok.inj (decoded.symm.trans decoded')
      obtain rfl := Except.ok.inj (accepted.symm.trans accepted')
      rfl

/-- Without it the handler computes no window. -/
theorem samplePacketIn_unprocessed {event : PacketIn} {app : DDoSSimulationAPP K}
    (unprocessed : processed? event app = none) :
    ((samplePacketIn event).leaves app).windows = app.windows := by
  have sampled := samplePacketIn_sampled event app
  have windows (header : String × String × Nat) :
      (switched event header app).windows = app.windows := by
    obtain ⟨macToPort, messages, unfolded⟩ := switched_eq event header app
    rw [unfolded]
  unfold Effect.leaves
  generalize (samplePacketIn event).run app = result at sampled
  cases sampled with
  | unparsed raises => rfl
  | passed parses between => exact windows _
  | refused parses decoded due raises => exact windows _
  | counted parses decoded due sampled few => exact windows _
  | windowed parses decoded due sampled enough =>
      simp [processed?, parses, decoded, sampled, (due_iff app).mpr due, enough] at unprocessed

/-- A window empties the queue: no sample waits. -/
theorem Sampling.windowed {count : Nat} {log : SampleLog} {app : DDoSSimulationAPP K}
    (sampling : Sampling count log app) {message : PacketIn} (parses : message.Parses)
    {header : String × String × Nat} {protocols : List Header} {sample : Option SampleData}
    (found : ethernetHeader message = .ok header) (decoded : message.protocols = .ok protocols)
    (sampled : sampleOf protocols = .ok sample)
    (due : (app.sampleCount + 1) % sampleRate = 0) (enough : 50 < app.packetCount + 1) :
    Sampling (count + 1) (log.note app (.packetIn message))
      (processSampleQueue { queueSample protocols sample (switched message header app) with
        packetCount := 0 }) := by
  have processed : processed? message app = some
      { queueSample protocols sample (switched message header app) with packetCount := 0 } := by
    simp [processed?, found, decoded, sampled, (due_iff app).mpr due, enough]
  obtain ⟨emptied, packets, samples, statistic, sources⟩ := processSampleQueue_sampling
    { queueSample protocols sample (switched message header app) with packetCount := 0 }
  rw [log.note_due message due]
  refine sampling.record parses due samples ?_ (packets.trans_le (Nat.zero_le 50))
    ⟨_, [], (List.append_nil _).symm, packets.symm, emptied, fun ip => ?_⟩
  · rw [statistic]
    exact total_queueSample protocols sample message header app
  · rw [sources]
    simp only [resets, processed, decide_eq_true_eq]
    split
    · rfl
    · exact sampling.entropySources_eq parses processed ip

/-- Sampling one more packet. -/
theorem Sampling.samplePacketIn {count : Nat} {log : SampleLog} {app : DDoSSimulationAPP K}
    (sampling : Sampling count log app) {message : PacketIn} (parses : message.Parses) :
    Sampling (count + 1) (log.note app (.packetIn message))
      ((DDoSSimulationAPP.samplePacketIn message).leaves app) := by
  have sampled := samplePacketIn_sampled message app
  obtain ⟨_, decodes, accepts, _⟩ := sampleOf_of_parses parses
  unfold Effect.leaves
  generalize (DDoSSimulationAPP.samplePacketIn message).run app = result at sampled
  cases sampled with
  | unparsed raises =>
      obtain ⟨header, found⟩ := parses.ethernet
      rw [found] at raises
      cases raises
  | refused _ decoded _ raises =>
      obtain rfl := Except.ok.inj (decodes.symm.trans decoded)
      rw [accepts] at raises
      cases raises
  | passed _ between => exact sampling.passed message _ between
  | counted _ decoded due sampled few => exact sampling.counted parses decoded sampled due few
  | windowed found decoded due sampled enough =>
      exact sampling.windowed parses found decoded sampled due enough

/-- The rest of the handler does not sample. -/
theorem packetIn_sameSampling (event : PacketIn) (app : DDoSSimulationAPP K) :
    SameSampling ((samplePacketIn event).leaves app) (step app (.packetIn event)) := by
  have same : ∀ {before after : DDoSSimulationAPP K},
      (∃ rules messages, after =
        { before with trafficEngineerRuleMap := rules, sent := before.sent ++ messages }) →
        SameSampling before after := by
    rintro before after ⟨rules, messages, rfl⟩
    exact ⟨rfl, rfl, rfl, rfl, rfl, rfl⟩
  refine packetIn_after_sampling SameSampling event .refl (fun _ _ _ => SameSampling.trans)
    (fun _ => ⟨rfl, rfl, rfl, rfl, rfl, rfl⟩) (fun _ => ⟨rfl, rfl, rfl, rfl, rfl, rfl⟩) ?_ ?_ app
  · intro before
    rw [createDefenseFlowRule_eq]
    exact ⟨rfl, rfl, rfl, rfl, rfl, rfl⟩
  · intro before
    obtain ⟨rules, messages, unfolded, _⟩ := enforceBans_bans event before
    exact same ⟨rules, messages, unfolded⟩

/-- No other event samples. -/
theorem step_sameSampling (app : DDoSSimulationAPP K) (event : Event)
    (other : ∀ message, event ≠ .packetIn message) : SameSampling app (step app event) := by
  have served := step_served app other
  generalize step app event = after at served
  cases served with
  | protocolForbid body rules => exact ⟨rfl, rfl, rfl, rfl, rfl, rfl⟩
  | setIpWhiteTable dpid rules => exact ⟨rfl, rfl, rfl, rfl, rfl, rfl⟩
  | trafficEntropy => exact ⟨rfl, rfl, rfl, rfl, rfl, rfl⟩
  | switchFeatures datapath => exact ⟨rfl, rfl, rfl, rfl, rfl, rfl⟩

/-- The application and the log, one event later. -/
def logged (state : DDoSSimulationAPP K × SampleLog) (event : Event) :
    DDoSSimulationAPP K × SampleLog :=
  (step state.1 event, state.2.note state.1 event)

/-- The application and the log after a run. -/
def observed (events : List Event) : DDoSSimulationAPP K × SampleLog :=
  run logged (init, ⟨[], []⟩) events

/-- What an event adds to the log, and what is known after it. -/
theorem Sampling.step {count : Nat} {log : SampleLog} {app : DDoSSimulationAPP K}
    (sampling : Sampling count log app) (event : Event)
    (parse : ∀ message ∈ packetIns [event], message.Parses) :
    Sampling (count + (packetIns [event]).length) (log.note app event)
      (DDoSSimulationAPP.step app event) := by
  by_cases packet : ∃ message, event = .packetIn message
  · obtain ⟨message, rfl⟩ := packet
    have sampled := sampling.samplePacketIn (parse message (List.mem_singleton_self message))
    have rest := packetIn_sameSampling message app
    exact sampled.carry ⟨rfl, rest.packetCount, rest.sampleStaticCount, rest.sampleQueue,
      rest.sourceIps, rest.protocolStatistic⟩ (rest.sampleCount.trans sampled.sampleCount) rfl
  · have other : ∀ message, event ≠ .packetIn message := fun message same =>
      packet ⟨message, same⟩
    have quiet := step_sameSampling app event other
    have noted : log.note app event = log ∧ packetIns [event] = [] := by
      cases event with
      | packetIn message => exact absurd rfl (other message)
      | _ => exact ⟨rfl, rfl⟩
    rw [noted.1, noted.2]
    exact sampling.carry ⟨rfl, quiet.packetCount, quiet.sampleStaticCount, quiet.sampleQueue,
      quiet.sourceIps, quiet.protocolStatistic⟩ (quiet.sampleCount.trans sampling.sampleCount) rfl

/-- The log of a run is kept beside the application, which it does not touch. -/
theorem observed_append (earlier : List Event) (event : Event) :
    (observed (earlier ++ [event]) : DDoSSimulationAPP K × SampleLog) =
      logged (observed earlier) event := by
  rw [observed, run_append]
  rfl

theorem observed_sampling (events : List Event)
    (parse : ∀ message ∈ packetIns events, message.Parses) :
    (observed events : DDoSSimulationAPP K × SampleLog).1 = run step init events ∧
      Sampling (packetIns events).length (observed events : DDoSSimulationAPP K × SampleLog).2
        (run step (init : DDoSSimulationAPP K) events) := by
  induction events using List.reverseRecOn with
  | nil =>
      exact ⟨rfl, rfl, rfl, rfl, Nat.zero_le 50, by simp [observed],
        [], [], rfl, rfl, rfl, fun _ => rfl⟩
  | append_singleton earlier event inductionHypothesis =>
      have both : packetIns (earlier ++ [event]) = packetIns earlier ++ packetIns [event] :=
        List.filterMap_append
      rw [both] at parse ⊢
      obtain ⟨before, now⟩ := List.forall_mem_append.mp parse
      obtain ⟨same, sampling⟩ := inductionHypothesis before
      have next := sampling.step event now
      rw [← same] at next
      rw [observed_append, run_append, run_cons, run_nil, List.length_append, ← same]
      exact ⟨rfl, next⟩

/-- What is claimed of the state a run reaches: one packet-in of `sampleRate` was sampled,
the counters say so, the queue is not half full, and a window of the next packet is
computed from the packets sampled since the last reset. -/
structure HistogramsExact (K : Type) [EntropyArithmetic K] (events : List Event) : Prop where
  sampled : (observed events : DDoSSimulationAPP K × SampleLog).2.sampled.length =
    (packetIns events).length / sampleRate
  statistic : (run step (init : DDoSSimulationAPP K) events).protocolStatistic.total =
    (packetIns events).length / sampleRate
  queue : (run step (init : DDoSSimulationAPP K) events).sampleQueue.length ≤
    (run step (init : DDoSSimulationAPP K) events).packetCount
  packetCount : (run step (init : DDoSSimulationAPP K) events).packetCount ≤ 51
  window : ∀ message queued, message.Parses →
    processed? message (run step (init : DDoSSimulationAPP K) events) = some queued →
      (samplePacketIn message).run (run step init events) = .ok () (processSampleQueue queued) ∧
      queued.sampleQueue.length ≤ 51 ∧
      ∀ ip, ((entropySources queued).get? ip).getD 0 =
        ((observed events : DDoSSimulationAPP K × SampleLog).2.sinceReset ++ [message]).countP
          fun message => message.source? = some ip
  noWindow : ∀ message,
    processed? message (run step (init : DDoSSimulationAPP K) events) = none →
      ((samplePacketIn message).leaves (run step (init : DDoSSimulationAPP K) events)).windows =
        (run step (init : DDoSSimulationAPP K) events).windows

/-- In every run whose packets parse the histograms are exact and no sample is dropped. -/
theorem histograms_exact (events : List Event)
    (parse : ∀ message ∈ packetIns events, message.Parses) : HistogramsExact K events := by
  obtain ⟨_, sampling⟩ := observed_sampling (K := K) events parse
  refine ⟨sampling.sampled, sampling.statistic, sampling.queue_le,
    Nat.le_succ_of_le sampling.packetCount, fun message queued parses processed => ?_,
    fun message unprocessed => samplePacketIn_unprocessed unprocessed⟩
  refine ⟨samplePacketIn_processed processed, ?_,
    sampling.entropySources_eq parses processed⟩
  obtain ⟨header, protocols, sample, _, decoded, sampled, _, _, rfl⟩ := processed?_eq_some processed
  obtain ⟨_, waiting, _, length, queue, _⟩ :=
    sampling.queueSample_eq parses header decoded sampled
  have few := sampling.packetCount
  show (queueSample protocols sample _).sampleQueue.length ≤ 51
  rw [queue]
  exact Nat.le_trans (List.length_filterMap_le _ _) (by omega)

/-- A run of 1020 datagrams: four windows and a reset. -/
theorem histograms_exact_datagrams :
    HistogramsExact Rat (List.replicate 1020 (.packetIn (datagram 1 "10.0.0.1" 4000))) := by
  refine histograms_exact _ fun message member => ?_
  obtain ⟨event, inside, found⟩ := List.mem_filterMap.mp member
  obtain rfl := List.eq_of_mem_replicate inside
  obtain rfl := Option.some.inj found
  refine ⟨⟨_, rfl⟩, fun protocols decoded => ?_⟩
  obtain rfl := Except.ok.inj decoded
  decide

end DDoSSimulationAPP
end NetworkAdapter
