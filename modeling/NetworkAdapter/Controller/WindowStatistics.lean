import NetworkAdapter.Controller.Samples
import NetworkAdapter.Std.ShannonEntropy

/-!
# Window statistics over exact numbers

With real arithmetic the statistics of a window are what their names say. No division
in them is by zero, because every stored count is positive, so the body of the `try`
statement of `process_sample_queue` runs to its end; its `except` clause is not an
exception class and would raise itself. The ratios are shares of a whole, and the
entropy of a histogram lies between that of one key and that of equally frequent keys.
-/

namespace NetworkAdapter

open Execution EntropyArithmetic

/-- Exact real arithmetic. -/
noncomputable instance realEntropyArithmetic : EntropyArithmetic ℝ where
  ratio count total := count / total
  log2 := Real.logb 2
  half := 1 / 2
  threeTenths := 3 / 10
  decidableLT := Classical.decRel _
  zero_lt_one := by norm_num
  lt_one_of_lt_half := fun _ low => lt_trans low (by norm_num)

section Raising

variable {K : Type} [EntropyArithmetic K] {κ : Type}

/-- `count / total`, which may raise. -/
def divide (count total : Nat) : Except PyError K :=
  if total = 0 then .error .zeroDivisionError else .ok (ratio count total)

/-- `math.log2(value)`, which may raise. -/
def mathLog2 (value : K) : Except PyError K :=
  if 0 < value then .ok (log2 value) else .error .valueError

/-- One round of the loop of `calculate_entropy`, with what it may raise. -/
def entropyRound (total : Nat) (entropy : K) (count : Nat) : Except PyError K :=
  if 0 < count then do
    let probability : K ← divide count total
    let logarithm ← mathLog2 probability
    return entropy - probability * logarithm
  else return entropy

/-- `calculate_entropy`, with what it may raise. -/
def entropyOrRaise (counts : Dict κ Nat) : Except PyError K :=
  counts.values.foldlM (entropyRound counts.values.sum) 0

/-- `calculate_protocol_ratio`, with what it may raise. -/
def protocolRatioOrRaise [DecidableEq κ] (protocolCount : Dict κ Nat) :
    Except PyError (Dict κ K) :=
  protocolCount.entries.foldlM (fun protocolRatio entry => do
    let ratio ← divide entry.2 protocolCount.values.sum
    return protocolRatio.set entry.1 ratio) .empty

namespace DDoSSimulationAPP

/-- `process_sample_queue` in the order of its statements, with what they may raise. What is
raised meets `except self.sample_queue.empty()`, where a truth value stands for a class. -/
def processSampleQueueOrRaise : Effect PyError (DDoSSimulationAPP K) Unit :=
  tryCatch (do
    modify counted
    let source ← Effect.ofExcept (entropyOrRaise (← get).sourceIps)
    let ports ← Effect.ofExcept (entropyOrRaise (← get).destinationPorts)
    modify fun app => { app with
      sourceIpsEntropyQueue := putUnlessFull 8 app.sourceIpsEntropyQueue source
      destinationPortsEntropyQueue := putUnlessFull 8 app.destinationPortsEntropyQueue ports
      sourceIpsEntropyQueueRemote := putUnlessFull 20 app.sourceIpsEntropyQueueRemote source
      destinationPortsEntropyQueueRemote :=
        putUnlessFull 20 app.destinationPortsEntropyQueueRemote ports }
    let rate ← Effect.ofExcept (protocolRatioOrRaise (← get).protocolCount)
    modify fun app => { app with
      protocolRateQueue := putUnlessFull 8 app.protocolRateQueue rate
      currentSourceIpsEntropy := app.currentSourceIpsEntropy ++ [source]
      currentDestinationPortsEntropy := app.currentDestinationPortsEntropy ++ [ports]
      currentProtocolRate := rate
      sampleStaticCount := app.sampleStaticCount + 1
      windows := app.windows ++ [⟨source, ports, app.sourceIps.keys⟩] }
    if (← get).sampleStaticCount > 3 then
      modify fun app =>
        { whitelistSources ⟨source, ports, app.sourceIps.keys⟩
            { app with sampleStaticCount := 0 } with
          sourceIps := .empty
          destinationPorts := .empty
          currentProtocolRate := .empty })
    fun _ => throw .typeError

/-- If the statistics do not raise, this is `process_sample_queue` as the runs have it. -/
theorem run_processSampleQueueOrRaise {app : DDoSSimulationAPP K}
    (source : (entropyOrRaise app.counted.sourceIps : Except PyError K) =
      .ok (calculateEntropy app.counted.sourceIps))
    (ports : (entropyOrRaise app.counted.destinationPorts : Except PyError K) =
      .ok (calculateEntropy app.counted.destinationPorts))
    (rate : (protocolRatioOrRaise app.counted.protocolCount : Except PyError (Dict Protocol K)) =
      .ok (calculateProtocolRatio app.counted.protocolCount)) :
    processSampleQueueOrRaise.run app = .ok () (processSampleQueue app) := by
  have counting : app.sampleQueue.foldl countSample { app with sampleQueue := [] } = app.counted :=
    rfl
  unfold processSampleQueueOrRaise processSampleQueue
  rw [counting]
  by_cases resets : 3 ≤ app.counted.sampleStaticCount
  · simp [source, ports, rate, publish, window, resets]
  · simp [source, ports, rate, publish, window, resets]

end DDoSSimulationAPP
end Raising

/-- Every stored count is positive. -/
def Dict.Positive {κ : Type} (counts : Dict κ Nat) : Prop := ∀ count ∈ counts.values, 0 < count

section Histogram

variable {κ : Type} {counts : Dict κ Nat}

/-- A tally stores a key when it first occurs. -/
theorem Dict.positive_tally [DecidableEq κ] (keys : List κ) : (Dict.tally keys).Positive := by
  intro count member
  obtain ⟨⟨key, held⟩, inside, rfl⟩ := List.mem_map.mp member
  have found : (Dict.tally keys).get? key = some held :=
    Fields.get?_of_mem (Dict.tally keys).distinct inside
  rw [Dict.get?_tally] at found
  split at found
  · cases found
  · next occurs =>
      obtain rfl := Option.some.inj found
      exact Nat.pos_of_ne_zero occurs

/-- What one count adds to the entropy. -/
noncomputable def shareEntropy (total count : Nat) : ℝ :=
  -((count / total : ℝ) * Real.logb 2 (count / total))

theorem entropyTerm_eq (total : Nat) (entropy : ℝ) (count : Nat) :
    entropyTerm total entropy count = entropy + shareEntropy total count := by
  unfold entropyTerm shareEntropy
  split
  · exact sub_eq_add_neg entropy _
  · next zero =>
      obtain rfl : count = 0 := Nat.eq_zero_of_not_pos zero
      simp

/-- The loop adds them up. -/
theorem calculateEntropy_eq (counts : Dict κ Nat) :
    (calculateEntropy counts : ℝ) =
      (counts.values.map (shareEntropy counts.values.sum)).sum := by
  have added (total : Nat) (values : List Nat) (start : ℝ) :
      values.foldl (entropyTerm total) start = start + (values.map (shareEntropy total)).sum := by
    induction values generalizing start with
    | nil => simp
    | cons count rest inductionHypothesis =>
        rw [List.foldl_cons, inductionHypothesis, entropyTerm_eq, List.map_cons, List.sum_cons,
          add_assoc]
  exact (added _ _ 0).trans (zero_add _)

/-- Where a round divides, the total is not zero and the share has a logarithm. -/
theorem entropyRound_eq {total count : Nat} (bound : count ≤ total) (entropy : ℝ) :
    entropyRound total entropy count = .ok (entropyTerm total entropy count) := by
  unfold entropyRound entropyTerm
  split
  · next some =>
      have total_pos : 0 < total := Nat.lt_of_lt_of_le some bound
      have share : (0 : ℝ) < ratio count total :=
        div_pos (Nat.cast_pos.mpr some) (Nat.cast_pos.mpr total_pos)
      simp [divide, mathLog2, total_pos.ne', share, bind, Except.bind, pure, Except.pure]
  · rfl

/-- `calculate_entropy` does not raise on any histogram. -/
theorem entropyOrRaise_eq (counts : Dict κ Nat) :
    (entropyOrRaise counts : Except PyError ℝ) = .ok (calculateEntropy counts) := by
  have rounds (total : Nat) (values : List Nat) (bound : ∀ count ∈ values, count ≤ total)
      (start : ℝ) : values.foldlM (entropyRound total) start =
        Except.ok (values.foldl (entropyTerm total) start) := by
    induction values generalizing start with
    | nil => rfl
    | cons count rest inductionHypothesis =>
        rw [List.foldlM_cons, entropyRound_eq (bound count List.mem_cons_self), List.foldl_cons]
        exact inductionHypothesis (fun other member => bound other (List.mem_cons_of_mem _ member))
          (entropyTerm total start count)
  have bound : ∀ count ∈ counts.values, count ≤ counts.values.sum :=
    List.single_le_sum fun _ _ => Nat.zero_le _
  exact rounds _ _ bound 0

/-- Positive counts of some keys add up to more than zero. -/
theorem Dict.Positive.sum_pos (positive : counts.Positive) {count : Nat}
    (member : count ∈ counts.values) : 0 < counts.values.sum :=
  Nat.lt_of_lt_of_le (positive count member)
    (List.single_le_sum (fun _ _ => Nat.zero_le _) count member)

/-- `calculate_protocol_ratio` does not raise on positive counts. -/
theorem protocolRatioOrRaise_eq [DecidableEq κ] (positive : counts.Positive) :
    (protocolRatioOrRaise counts : Except PyError (Dict κ ℝ)) =
      .ok (calculateProtocolRatio counts) := by
  have rounds (entries : List (κ × Nat))
      (some : ∀ entry ∈ entries, counts.values.sum ≠ 0) (built : Dict κ ℝ) :
      (entries.foldlM (fun protocolRatio entry => do
          let ratio : ℝ ← divide entry.2 counts.values.sum
          return protocolRatio.set entry.1 ratio) built : Except PyError (Dict κ ℝ)) =
        .ok ((entries.map fun entry => (entry.1, (ratio entry.2 counts.values.sum : ℝ))).foldl
          (fun built entry => built.set entry.1 entry.2) built) := by
    induction entries generalizing built with
    | nil => rfl
    | cons entry rest inductionHypothesis =>
        have divided : (divide entry.2 counts.values.sum : Except PyError ℝ) =
            .ok (ratio entry.2 counts.values.sum) := if_neg (some entry List.mem_cons_self)
        rw [List.foldlM_cons, divided]
        exact inductionHypothesis (fun other member => some other (List.mem_cons_of_mem _ member))
          (built.set entry.1 (ratio entry.2 counts.values.sum))
  have nonzero (entry : κ × Nat) (member : entry ∈ counts.entries) : counts.values.sum ≠ 0 :=
    (positive.sum_pos (List.mem_map_of_mem member)).ne'
  exact (rounds counts.entries nonzero .empty).trans
    (congrArg Except.ok (calculateProtocolRatio counts).foldl_set_entries)

/-- The shares of positive counts are positive and make up the whole. -/
structure Shares (ratios : Dict κ ℝ) : Prop where
  positive : ∀ ratio ∈ ratios.values, 0 < ratio
  total : ratios.values.sum = 1

theorem values_calculateProtocolRatio (counts : Dict κ Nat) :
    (calculateProtocolRatio counts : Dict κ ℝ).values =
      counts.values.map fun count : Nat => (count / counts.values.sum : ℝ) := by
  simp [calculateProtocolRatio, Dict.mapValues, Dict.values, ratio, Function.comp_def]

theorem calculateProtocolRatio_shares (positive : counts.Positive) (some : counts.values ≠ []) :
    Shares (calculateProtocolRatio counts : Dict κ ℝ) := by
  obtain ⟨count, member⟩ := List.exists_mem_of_ne_nil _ some
  have total : (0 : ℝ) < counts.values.sum := Nat.cast_pos.mpr (positive.sum_pos member)
  constructor
  · intro ratio held
    rw [values_calculateProtocolRatio] at held
    obtain ⟨count, member, rfl⟩ := List.mem_map.mp held
    exact div_pos (Nat.cast_pos.mpr (positive count member)) total
  · have divided (values : List Nat) (whole : ℝ) :
        (values.map fun count : Nat => (count / whole : ℝ)).sum = values.sum / whole := by
      induction values with
      | nil => simp
      | cons count rest inductionHypothesis =>
          rw [List.map_cons, List.sum_cons, inductionHypothesis, List.sum_cons, Nat.cast_add,
            add_div]
    rw [values_calculateProtocolRatio, divided]
    exact div_self total.ne'

/-- The positions of a histogram as the outcomes of a distribution. -/
noncomputable def Dict.Positive.distribution (positive : counts.Positive)
    (some : counts.values ≠ []) : Distribution (Fin counts.values.length) :=
  have : Nonempty (Fin counts.values.length) :=
    Fin.pos_iff_nonempty.mp (List.length_pos_iff.mpr some)
  .ofWeights (fun position => (counts.values[position] : ℝ)) fun position =>
    Nat.cast_pos.mpr (positive _ (List.getElem_mem position.isLt))

theorem Dict.Positive.mass_eq_iff (positive : counts.Positive) (some : counts.values ≠ [])
    (first second : Fin counts.values.length) :
    (positive.distribution some).mass first = (positive.distribution some).mass second ↔
      counts.values[first] = counts.values[second] := by
  have : Nonempty (Fin counts.values.length) := ⟨first⟩
  have weighs (position : Fin counts.values.length) : (0 : ℝ) < counts.values[position] :=
    Nat.cast_pos.mpr (positive _ (List.getElem_mem position.isLt))
  exact (Distribution.ofWeights_mass_eq_iff weighs first second).trans Nat.cast_inj

/-- The loop computes the entropy of that distribution. -/
theorem calculateEntropy_distribution (positive : counts.Positive) (some : counts.values ≠ []) :
    (calculateEntropy counts : ℝ) = (positive.distribution some).entropy 2 := by
  have whole : ∑ position : Fin counts.values.length, (counts.values[position] : ℝ) =
      counts.values.sum := by
    rw [Nat.cast_list_sum]
    exact Fin.sum_univ_fun_getElem counts.values fun count => (count : ℝ)
  rw [calculateEntropy_eq, ← Fin.sum_univ_fun_getElem, Distribution.entropy]
  refine Finset.sum_congr rfl fun position _ => ?_
  have share : (positive.distribution some).mass position =
      counts.values[position] / counts.values.sum := by
    rw [← whole]
    rfl
  rw [share]
  rfl

/-- What `calculate_entropy` owes a histogram. -/
structure EntropyLaws [DecidableEq κ] (counts : Dict κ Nat) : Prop where
  nonneg : (0 : ℝ) ≤ calculateEntropy counts
  bounded : (calculateEntropy counts : ℝ) ≤ Real.logb 2 counts.keys.length
  single : (calculateEntropy counts : ℝ) = 0 ↔ counts.keys.length = 1
  uniform : (calculateEntropy counts : ℝ) = Real.logb 2 counts.keys.length ↔
    ∀ first ∈ counts.values, ∀ second ∈ counts.values, first = second
  /-- Another order of insertion makes a dictionary that holds the same. -/
  ordered : ∀ other : Dict κ Nat, (∀ key, other.get? key = counts.get? key) →
    (calculateEntropy other : ℝ) = calculateEntropy counts
  scaled : ∀ factor, 0 < factor →
    (calculateEntropy (counts.mapValues (factor * ·)) : ℝ) = calculateEntropy counts

/-- Dictionaries that hold the same have the same entries, if in another order. -/
theorem Dict.entries_perm [DecidableEq κ] {other : Dict κ Nat}
    (same : ∀ key, other.get? key = counts.get? key) : other.entries.Perm counts.entries := by
  have holds (dict : Dict κ Nat) (entry : κ × Nat) :
      entry ∈ dict.entries ↔ dict.get? entry.1 = some entry.2 :=
    ⟨fun member => Fields.get?_of_mem dict.distinct member, fun found => Fields.mem_of_get? found⟩
  refine (List.perm_ext_iff_of_nodup other.distinct.of_map counts.distinct.of_map).mpr ?_
  intro entry
  rw [holds, holds, same]

theorem calculateEntropy_ordered [DecidableEq κ] {other : Dict κ Nat}
    (same : ∀ key, other.get? key = counts.get? key) :
    (calculateEntropy other : ℝ) = calculateEntropy counts := by
  have values : other.values.Perm counts.values := (Dict.entries_perm same).map Prod.snd
  rw [calculateEntropy_eq, calculateEntropy_eq, values.sum_eq]
  exact (values.map _).sum_eq

/-- A common factor cancels from every share. -/
theorem calculateEntropy_scaled (counts : Dict κ Nat) {factor : Nat} (positive : 0 < factor) :
    (calculateEntropy (counts.mapValues (factor * ·)) : ℝ) = calculateEntropy counts := by
  have values : (counts.mapValues (factor * ·)).values = counts.values.map (factor * ·) := by
    simp [Dict.mapValues, Dict.values, Function.comp_def]
  have cancels (total count : Nat) :
      shareEntropy (factor * total) (factor * count) = shareEntropy total count := by
    have nonzero : (factor : ℝ) ≠ 0 := (Nat.cast_pos.mpr positive).ne'
    unfold shareEntropy
    rw [Nat.cast_mul, Nat.cast_mul, mul_div_mul_left _ _ nonzero]
  rw [calculateEntropy_eq, calculateEntropy_eq, values, List.sum_map_mul_left, List.map_id',
    List.map_map]
  exact congrArg List.sum (List.map_congr_left fun count _ => cancels _ count)

theorem Dict.length_keys (counts : Dict κ Nat) : counts.keys.length = counts.values.length := by
  simp [keys, values]

theorem calculateEntropy_laws [DecidableEq κ] (positive : counts.Positive)
    (some : counts.values ≠ []) : EntropyLaws counts := by
  have entropy := calculateEntropy_distribution positive some
  have keys : counts.keys.length = Fintype.card (Fin counts.values.length) := by
    rw [counts.length_keys, Fintype.card_fin]
  have large : (1 : ℝ) < 2 := by norm_num
  constructor
  · rw [entropy]
    exact Distribution.entropy_nonneg large _
  · rw [entropy, keys]
    exact Distribution.entropy_le large _
  · rw [entropy, keys]
    exact Distribution.entropy_eq_zero_iff large _
  · rw [entropy, keys, Distribution.entropy_eq_iff large]
    simp only [positive.mass_eq_iff some]
    constructor
    · intro equal first firstHeld second secondHeld
      obtain ⟨position, within, rfl⟩ := List.mem_iff_getElem.mp firstHeld
      obtain ⟨position', within', rfl⟩ := List.mem_iff_getElem.mp secondHeld
      exact equal ⟨position, within⟩ ⟨position', within'⟩
    · intro equal first second
      exact equal _ (List.getElem_mem first.isLt) _ (List.getElem_mem second.isLt)
  · exact fun other same => calculateEntropy_ordered same
  · exact fun factor positive => calculateEntropy_scaled counts positive

end Histogram

namespace DDoSSimulationAPP

/-- In this state the statistics are defined: `process_sample_queue` raises nothing and does
what the runs say, and the protocol ratios are shares, now and in a window. -/
structure WellDefined (app : DDoSSimulationAPP ℝ) : Prop where
  returns : processSampleQueueOrRaise.run app = .ok () (processSampleQueue app)
  shares : app.protocolCount.values ≠ [] →
    Shares (calculateProtocolRatio app.protocolCount : Dict Protocol ℝ)
  windowShares : app.counted.protocolCount.values ≠ [] →
    Shares (calculateProtocolRatio app.counted.protocolCount : Dict Protocol ℝ)

/-- Counters that tally samples are enough. -/
theorem Tallies.wellDefined {app : DDoSSimulationAPP ℝ} {sinceReset all : List SampleData}
    (tallies : Tallies app sinceReset all) : WellDefined app := by
  have counted := tallies.counted
  have positive : app.protocolCount.Positive := tallies.protocolCount ▸ Dict.positive_tally _
  have countedPositive : app.counted.protocolCount.Positive :=
    counted.protocolCount ▸ Dict.positive_tally _
  exact ⟨run_processSampleQueueOrRaise (entropyOrRaise_eq _) (entropyOrRaise_eq _)
      (protocolRatioOrRaise_eq countedPositive),
    calculateProtocolRatio_shares positive, calculateProtocolRatio_shares countedPositive⟩

/-- So they are in every state reached, and in every state a handler computes a window from. -/
theorem run_wellDefined (events : List Event) :
    WellDefined (run step (init : DDoSSimulationAPP ℝ) events) ∧
      ∀ message queued, processed? message (run step (init : DDoSSimulationAPP ℝ) events) =
        some queued → WellDefined queued := by
  have collected := run_collected (K := ℝ) events
  constructor
  · obtain ⟨_, _, _, _, _, _, tallies⟩ := collected
    exact tallies.wellDefined
  · intro message queued processed
    obtain ⟨_, _, _, _, tallies⟩ := collected.handed processed
    exact tallies.wellDefined

/-- The statistics of windows: defined in every run, and with the meaning the thresholds of
the detector give them. -/
theorem window_statistics :
    (∀ events : List Event,
      WellDefined (run step (init : DDoSSimulationAPP ℝ) events) ∧
        ∀ message queued, processed? message (run step (init : DDoSSimulationAPP ℝ) events) =
          some queued → WellDefined queued) ∧
      ∀ (κ : Type) [DecidableEq κ] (counts : Dict κ Nat), counts.Positive →
        1 ≤ counts.keys.length → EntropyLaws counts := by
  refine ⟨run_wellDefined, fun κ _ counts positive some => ?_⟩
  refine calculateEntropy_laws positive fun none => ?_
  rw [counts.length_keys, none] at some
  exact absurd some (by decide)

end DDoSSimulationAPP
end NetworkAdapter
