import NetworkAdapter.Controller.Handling

/-!
# The streams of entropies

A window's source and destination entropies go to three pairs of queues: the first
eight windows stay in one, the detector takes from one, and a request empties one,
which refuses windows while twenty wait in it. The two queues of a pair are always
asked the same thing, so one `Monitor` of windows is behind all six of them.
-/

namespace NetworkAdapter

open Execution DDoSSimulationAPP

variable {K : Type}

/-- What is done to the queues, each step as a whole. -/
inductive StreamEvent where
  | sample (data : SampleData)
  | processSampleQueue
  | detectDdosByEntropy
  | trafficEntropy

/-- The application, and what happened: each window with the number of source entropies
that were waiting for a request when it was computed, and the responses. -/
structure Streams (K : Type) where
  app : DDoSSimulationAPP K
  computed : List (Window K × Nat)
  responses : List (List K × List K)

/-- The entropies of windows, by stream. -/
def entropies (windows : List (Window K)) : List K × List K :=
  (windows.map Window.sourceIpsEntropy, windows.map Window.destinationPortsEntropy)

/-- Two queues offered the entropies of one window stay those of the same windows. -/
theorem put_entropies (maxsize : Nat) {sources ports : List K} {windows : List (Window K)}
    (shown : (sources, ports) = entropies windows) (computed : Window K) :
    (putUnlessFull maxsize sources computed.sourceIpsEntropy,
      putUnlessFull maxsize ports computed.destinationPortsEntropy) =
        entropies (putUnlessFull maxsize windows computed) := by
  obtain ⟨rfl, rfl⟩ := Prod.mk.inj shown
  exact congrArg₂ Prod.mk (putUnlessFull_map _ _ _ _) (putUnlessFull_map _ _ _ _)

namespace Streams

variable [EntropyArithmetic K]

/-- No window computed yet. -/
def init : Streams K := ⟨DDoSSimulationAPP.init, [], []⟩

/-- One step of the detector's process, of the detector or of a request. -/
def step (streams : Streams K) : StreamEvent → Streams K
  | .sample data =>
      { streams with
        app := { streams.app with sampleQueue := putUnlessFull 100 streams.app.sampleQueue data } }
  | .processSampleQueue =>
      let app := processSampleQueue streams.app
      { streams with
        app := app
        computed := streams.computed ++ (app.windows.drop streams.app.windows.length).map
          fun window => (window, streams.app.sourceIpsEntropyQueueRemote.length) }
  | .detectDdosByEntropy => { streams with app := (detectDdosByEntropy streams.app).2 }
  | .trafficEntropy =>
      let (response, app) := trafficEntropy streams.app
      { streams with app := app, responses := streams.responses ++ [response] }

/-- What a monitor of the windows shows in the six queues and the responses. -/
structure Shows (monitor : Monitor (Window K) 20) (streams : Streams K) : Prop where
  computed : streams.computed = monitor.log
  windows : streams.app.windows = monitor.items
  kept : (streams.app.sourceIpsEntropyQueue, streams.app.destinationPortsEntropyQueue) =
    entropies (monitor.items.take 8)
  unread : (streams.app.currentSourceIpsEntropy, streams.app.currentDestinationPortsEntropy) =
    entropies monitor.unread
  pending : (streams.app.sourceIpsEntropyQueueRemote,
    streams.app.destinationPortsEntropyQueueRemote) = entropies monitor.pending
  responses : streams.responses = monitor.batches.map entropies

/-- What one window does to the queues. -/
structure Published (before : DDoSSimulationAPP K) (computed : Window K)
    (after : DDoSSimulationAPP K) : Prop where
  windows : after.windows = before.windows ++ [computed]
  sourceIpsEntropyQueue : after.sourceIpsEntropyQueue =
    putUnlessFull 8 before.sourceIpsEntropyQueue computed.sourceIpsEntropy
  destinationPortsEntropyQueue : after.destinationPortsEntropyQueue =
    putUnlessFull 8 before.destinationPortsEntropyQueue computed.destinationPortsEntropy
  sourceIpsEntropyQueueRemote : after.sourceIpsEntropyQueueRemote =
    putUnlessFull 20 before.sourceIpsEntropyQueueRemote computed.sourceIpsEntropy
  destinationPortsEntropyQueueRemote : after.destinationPortsEntropyQueueRemote =
    putUnlessFull 20 before.destinationPortsEntropyQueueRemote computed.destinationPortsEntropy
  currentSourceIpsEntropy :
    after.currentSourceIpsEntropy = before.currentSourceIpsEntropy ++ [computed.sourceIpsEntropy]
  currentDestinationPortsEntropy : after.currentDestinationPortsEntropy =
    before.currentDestinationPortsEntropy ++ [computed.destinationPortsEntropy]

theorem processSampleQueue_published (app : DDoSSimulationAPP K) :
    ∃ computed, Published app computed (processSampleQueue app) := by
  obtain ⟨sources, ports, protocols, counted⟩ :=
    foldl_countSample app.sampleQueue { app with sampleQueue := [] }
  refine ⟨⟨calculateEntropy sources, calculateEntropy ports, sources.keys⟩, ?_⟩
  simp only [processSampleQueue, counted, publish, window, whitelistSources]
  split
  · split <;> constructor <;> rfl
  · constructor <;> rfl

/-- Each step is one of the monitor's, or leaves it alone. -/
theorem step_shows {monitor : Monitor (Window K) 20} {streams : Streams K}
    (shown : Shows monitor streams) (event : StreamEvent) :
    ∃ monitor', Shows monitor' (step streams event) := by
  obtain ⟨computed, windows, kept, unread, pending, responses⟩ := shown
  cases event with
  | sample data => exact ⟨monitor, computed, windows, kept, unread, pending, responses⟩
  | detectDdosByEntropy =>
      obtain ⟨sources, ports⟩ := Prod.mk.inj unread
      refine ⟨monitor.take, computed, windows, kept, ?_, pending, responses⟩
      simp [step, detectDdosByEntropy, Monitor.take, entropies, sources, ports, List.map_tail]
  | trafficEntropy =>
      refine ⟨monitor.drain, computed, windows, kept, unread, rfl, ?_⟩
      simp [step, trafficEntropy, Monitor.drain, responses, pending]
  | processSampleQueue =>
      obtain ⟨window, does⟩ := processSampleQueue_published streams.app
      obtain ⟨sources, ports⟩ := Prod.mk.inj unread
      have waiting : streams.app.sourceIpsEntropyQueueRemote.length = monitor.pending.length := by
        rw [(Prod.mk.inj pending).1, List.length_map]
      refine ⟨monitor.add window, ?_, ?_, ?_, ?_, ?_, responses⟩
      · simp [step, does.windows, waiting, computed, Monitor.add]
      · simp [step, does.windows, windows, Monitor.add, Monitor.items]
      · simp only [step, does.sourceIpsEntropyQueue, does.destinationPortsEntropyQueue]
        rw [put_entropies 8 kept window, putUnlessFull_take]
        simp [Monitor.add, Monitor.items]
      · simp [step, does.currentSourceIpsEntropy, does.currentDestinationPortsEntropy,
          Monitor.add, entropies, sources, ports]
      · simp only [step, does.sourceIpsEntropyQueueRemote, does.destinationPortsEntropyQueueRemote]
        exact put_entropies 20 pending window

theorem run_shows (events : List StreamEvent) :
    ∃ monitor, Shows monitor (run step (init : Streams K) events) := by
  refine run_invariant (fun streams : Streams K => ∃ monitor, Shows monitor streams) ?_ ?_ events
  · rintro streams event ⟨monitor, shown⟩
    exact step_shows shown event
  · exact ⟨.empty, rfl, rfl, rfl, rfl, rfl, rfl⟩

/-- The two entropies a verdict of the detector compares with its threshold. -/
def judged (app : DDoSSimulationAPP K) : K × K :=
  (app.currentSourceIpsEntropy.head?.getD 0, app.currentDestinationPortsEntropy.head?.getD 0)

/-- The two entropies are those of one window. -/
def JudgesWindow (app : DDoSSimulationAPP K) : Prop :=
  ∃ window ∈ app.windows, judged app = (window.sourceIpsEntropy, window.destinationPortsEntropy)

instance decidableJudgesWindow [DecidableEq K] (app : DDoSSimulationAPP K) :
    Decidable (JudgesWindow app) :=
  inferInstanceAs (Decidable (∃ window ∈ app.windows, _ = _))

/-- No window is left to judge, and the verdict compares two zeros. -/
def JudgesNothing (app : DDoSSimulationAPP K) : Prop :=
  app.currentSourceIpsEntropy = [] ∧ app.currentDestinationPortsEntropy = [] ∧ judged app = (0, 0)

/-- Each pair of queues holds the entropies of the same windows in the same order, and
so does each response; responses and waiting windows are, in order, the windows that
found less than twenty waiting. -/
structure Aligned (streams : Streams K) : Prop where
  kept : (streams.app.sourceIpsEntropyQueue, streams.app.destinationPortsEntropyQueue) =
    entropies (streams.app.windows.take 8)
  current : ∃ unread, unread <:+ streams.app.windows ∧
    (streams.app.currentSourceIpsEntropy, streams.app.currentDestinationPortsEntropy) =
      entropies unread
  verdict : (detectDdosByEntropy streams.app).1 =
    (decide ((judged streams.app).1 < 1) || decide ((judged streams.app).2 < 1))
  judges : JudgesWindow streams.app ∨ JudgesNothing streams.app
  computed : streams.computed.map Prod.fst = streams.app.windows
  waited : ∀ entry ∈ streams.computed, entry.2 ≤ 20
  delivered : ∃ (batches : List (List (Window K))) (pending : List (Window K)),
    streams.responses = batches.map entropies ∧
    (streams.app.sourceIpsEntropyQueueRemote, streams.app.destinationPortsEntropyQueueRemote) =
      entropies pending ∧
    batches.flatten.Sublist streams.app.windows ∧
    batches.flatten ++ pending = (streams.computed.filter fun entry => entry.2 < 20).map Prod.fst

theorem Shows.judges {monitor : Monitor (Window K) 20} {streams : Streams K}
    (shown : Shows monitor streams) : JudgesWindow streams.app ∨ JudgesNothing streams.app := by
  obtain ⟨sources, ports⟩ := Prod.mk.inj shown.unread
  cases unread : monitor.unread with
  | nil =>
      rw [unread] at sources ports
      exact .inr ⟨sources, ports, by simp [judged, sources, ports]⟩
  | cons window later =>
      rw [unread] at sources ports
      have listed : window ∈ streams.app.windows := by
        rw [shown.windows]
        exact monitor.unread_suffix.subset (by simp [unread])
      exact .inl ⟨window, listed, by simp [judged, sources, ports]⟩

/-- The streams stay aligned in every order of samples, windows, verdicts and requests. -/
theorem streams_aligned (events : List StreamEvent) :
    Aligned (run step (init : Streams K) events) := by
  obtain ⟨monitor, shown⟩ := run_shows (K := K) events
  refine ⟨by rw [shown.windows]; exact shown.kept,
    ⟨monitor.unread, by rw [shown.windows]; exact monitor.unread_suffix, shown.unread⟩, rfl,
    shown.judges, by rw [shown.computed, shown.windows]; rfl,
    by rw [shown.computed]; exact monitor.waited_le, ?_⟩
  refine ⟨monitor.batches, monitor.pending, shown.responses, shown.pending, ?_, ?_⟩
  · rw [shown.windows]
    exact monitor.batches_sublist
  · rw [shown.computed]
    exact monitor.delivered

/-- One window is computed and judged; the next verdict judges no window. -/
theorem verdict_without_window :
    ¬ JudgesWindow (run step (init : Streams Rat)
      [.sample ⟨"10.0.0.1", "10.0.0.9", 1000, .udp⟩, .sample ⟨"10.0.0.2", "10.0.0.9", 2000, .udp⟩,
        .processSampleQueue, .detectDdosByEntropy]).app := by
  decide +kernel

end Streams
end NetworkAdapter
