/-!
# Runs of a deterministic event machine

A machine is a total step function. An event which is not enabled leaves the
state alone, so every list of events is a run and an interleaving is nothing but
an order of events. `Along` speaks of every state a run passes through and
`Each` of every step it takes.
-/

namespace NetworkAdapter.Execution

universe u v

variable {State : Type u} {Event : Type v} (step : State → Event → State)

/-- The state after a list of events. -/
def run (state : State) (events : List Event) : State := events.foldl step state

@[simp] theorem run_nil (state : State) : run step state [] = state := rfl

@[simp] theorem run_cons (state : State) (event : Event) (rest : List Event) :
    run step state (event :: rest) = run step (step state event) rest := rfl

@[simp] theorem run_append (state : State) (first second : List Event) :
    run step state (first ++ second) = run step (run step state first) second :=
  List.foldl_append

/-- A run that looks at every state before it goes on. What it sees does not matter, but a run
on fixed events is then computed state by state. -/
def stepwise (probe : State → Nat) : State → List Event → State
  | state, [] => state
  | state, event :: rest =>
      if probe state = probe state then stepwise probe (step state event) rest else state

theorem run_eq_stepwise (probe : State → Nat) (state : State) (events : List Event) :
    run step state events = stepwise step probe state events := by
  induction events generalizing state with
  | nil => rfl
  | cons event rest inductionHypothesis =>
      rw [run_cons, inductionHypothesis, stepwise, if_pos rfl]

/-- `property` holds in every state of the run, the first and the last included. -/
def Along (property : State → Prop) : State → List Event → Prop
  | state, [] => property state
  | state, event :: rest => property state ∧ Along property (step state event) rest

/-- `admissible` holds of every step of the run, read off the state before it. -/
def Each (admissible : State → Event → Prop) : State → List Event → Prop
  | _, [] => True
  | state, event :: rest => admissible state event ∧ Each admissible (step state event) rest

/-- The test of every step, from the first to the last. -/
def checkEach (test : State → Event → Bool) : State → List Event → Bool
  | _, [] => true
  | state, event :: rest => test state event && checkEach test (step state event) rest

theorem checkEach_iff (admissible : State → Event → Prop) [DecidableRel admissible] (state : State)
    (events : List Event) :
    checkEach step (fun state event => decide (admissible state event)) state events = true ↔
      Each step admissible state events := by
  induction events generalizing state with
  | nil => simp [checkEach, Each]
  | cons event rest inductionHypothesis => simp [checkEach, Each, inductionHypothesis]

/-- A decidable property of steps is decidable along a run. -/
instance Each.decide (admissible : State → Event → Prop) [DecidableRel admissible]
    (state : State) (events : List Event) : Decidable (Each step admissible state events) :=
  decidable_of_iff _ (checkEach_iff step admissible state events)

variable {step}

/-- Two machines in step have runs in step. -/
theorem run_image {Image : Type u} {step' : Image → Event → Image} (image : State → Image)
    (follows : ∀ state event, image (step state event) = step' (image state) event)
    (state : State) (events : List Event) :
    image (run step state events) = run step' (image state) events := by
  induction events generalizing state with
  | nil => rfl
  | cons event rest inductionHypothesis =>
      rw [run_cons, run_cons, inductionHypothesis, follows]

/-- A run along which a property holds starts with it. -/
theorem Along.first {property : State → Prop} {state : State} {events : List Event}
    (along : Along step property state events) : property state := by
  cases events with
  | nil => exact along
  | cons event rest => exact along.1

/-- A property of every state on the way is one of the last state. -/
theorem Along.last {property : State → Prop} {state : State} {events : List Event}
    (along : Along step property state events) : property (run step state events) := by
  induction events generalizing state with
  | nil => exact along
  | cons event rest inductionHypothesis => exact inductionHypothesis along.2

theorem Along.mono {property weaker : State → Prop}
    (implies : ∀ state, property state → weaker state) {state : State} {events : List Event}
    (along : Along step property state events) : Along step weaker state events := by
  induction events generalizing state with
  | nil => exact implies state along
  | cons event rest inductionHypothesis =>
      exact ⟨implies state along.1, inductionHypothesis along.2⟩

theorem Each.mono {admissible weaker : State → Event → Prop}
    (implies : ∀ state event, admissible state event → weaker state event)
    {state : State} {events : List Event}
    (each : Each step admissible state events) : Each step weaker state events := by
  induction events generalizing state with
  | nil => trivial
  | cons event rest inductionHypothesis =>
      exact ⟨implies state event each.1, inductionHypothesis each.2⟩

/-- Equivalent tests hold of the steps of the same runs. -/
theorem each_congr {first second : State → Event → Prop}
    (equivalent : ∀ state event, first state event ↔ second state event)
    (state : State) (events : List Event) :
    Each step first state events ↔ Each step second state events :=
  ⟨Each.mono fun current event => (equivalent current event).mp,
    Each.mono fun current event => (equivalent current event).mpr⟩

/-- An admissibility test which never looks at the state is one of the events. -/
theorem each_of_forall {admissible : Event → Prop} {state : State} {events : List Event}
    (holds : ∀ event ∈ events, admissible event) :
    Each step (fun _ event => admissible event) state events := by
  induction events generalizing state with
  | nil => trivial
  | cons event rest inductionHypothesis =>
      exact ⟨holds event List.mem_cons_self,
        inductionHypothesis fun other member => holds other (List.mem_cons_of_mem _ member)⟩

theorem each_and {first second : State → Event → Prop} {state : State} {events : List Event}
    (eachFirst : Each step first state events) (eachSecond : Each step second state events) :
    Each step (fun state event => first state event ∧ second state event) state events := by
  induction events generalizing state with
  | nil => trivial
  | cons event rest inductionHypothesis =>
      exact ⟨⟨eachFirst.1, eachSecond.1⟩, inductionHypothesis eachFirst.2 eachSecond.2⟩

/-- A property that a run acquires is acquired in one of its steps. -/
theorem exists_turn (property : State → Prop) {state : State} {events : List Event}
    (initial : ¬ property state) (final : property (run step state events)) :
    ∃ earlier event later, events = earlier ++ event :: later ∧
      ¬ property (run step state earlier) ∧ property (step (run step state earlier) event) := by
  induction events generalizing state with
  | nil => exact absurd final initial
  | cons event rest inductionHypothesis =>
      by_cases turned : property (step state event)
      · exact ⟨[], event, rest, rfl, initial, turned⟩
      · obtain ⟨earlier, turn, later, rfl, lacks, has⟩ := inductionHypothesis turned final
        exact ⟨event :: earlier, turn, later, rfl, lacks, has⟩

/-- What an invariant implies of every step holds of each step of a run. -/
theorem each_of_invariant {invariant : State → Prop} {admissible : State → Event → Prop}
    (preserved : ∀ state event, invariant state → invariant (step state event))
    (implies : ∀ state event, invariant state → admissible state event)
    {state : State} (initial : invariant state) (events : List Event) :
    Each step admissible state events := by
  induction events generalizing state with
  | nil => trivial
  | cons event rest inductionHypothesis =>
      exact ⟨implies state event initial, inductionHypothesis (preserved state event initial)⟩

/-- The conditional rule of invariants: what every admissible step preserves
holds along every run of admissible steps. -/
theorem along_of_each {invariant : State → Prop} {admissible : State → Event → Prop}
    (preserved : ∀ state event, invariant state → admissible state event →
      invariant (step state event))
    {state : State} (initial : invariant state) {events : List Event}
    (each : Each step admissible state events) : Along step invariant state events := by
  induction events generalizing state with
  | nil => exact initial
  | cons event rest inductionHypothesis =>
      exact ⟨initial, inductionHypothesis (preserved state event initial each.1) each.2⟩

/-- Tests that agree wherever the invariant holds hold of the steps of the same runs. -/
theorem each_congr_of_invariant {first second : State → Event → Prop} (invariant : State → Prop)
    (preserved : ∀ state event, invariant state → invariant (step state event))
    (equivalent : ∀ state event, invariant state → (first state event ↔ second state event))
    {state : State} (initial : invariant state) (events : List Event) :
    Each step first state events ↔ Each step second state events := by
  induction events generalizing state with
  | nil => exact Iff.rfl
  | cons event rest inductionHypothesis =>
      exact and_congr (equivalent state event initial)
        (inductionHypothesis (preserved state event initial))

/-- The rule of invariants: what every step preserves holds in every state of a run. -/
theorem along_invariant (invariant : State → Prop)
    (preserved : ∀ state event, invariant state → invariant (step state event))
    {state : State} (initial : invariant state) (events : List Event) :
    Along step invariant state events := by
  induction events generalizing state with
  | nil => exact initial
  | cons event rest inductionHypothesis =>
      exact ⟨initial, inductionHypothesis (preserved state event initial)⟩

/-- In particular in the last one. -/
theorem run_invariant (invariant : State → Prop)
    (preserved : ∀ state event, invariant state → invariant (step state event))
    {state : State} (initial : invariant state) (events : List Event) :
    invariant (run step state events) :=
  (along_invariant invariant preserved initial events).last

/-- An invariant that the events of the run preserve, if not every event. -/
theorem run_invariant_of_mem (invariant : State → Prop) {events : List Event}
    (preserved : ∀ state, ∀ event ∈ events, invariant state → invariant (step state event))
    {state : State} (initial : invariant state) : invariant (run step state events) := by
  induction events generalizing state with
  | nil => exact initial
  | cons event rest inductionHypothesis =>
      exact inductionHypothesis
        (fun state other member => preserved state other (List.mem_cons_of_mem _ member))
        (preserved state event List.mem_cons_self initial)

/-- The exact rule. When a step out of a good state reaches a good state
precisely if it is admissible, the runs that stay good are the runs of
admissible steps. The invariant is what is known of every state, good or not. -/
theorem along_iff_each {invariant good : State → Prop} {admissible : State → Event → Prop}
    (preserved : ∀ state event, invariant state → invariant (step state event))
    (exact_step : ∀ state event, invariant state → good state →
      (good (step state event) ↔ admissible state event))
    {state : State} (known : invariant state) (initial : good state) (events : List Event) :
    Along step good state events ↔ Each step admissible state events := by
  induction events generalizing state with
  | nil => exact ⟨fun _ => trivial, fun _ => initial⟩
  | cons event rest inductionHypothesis =>
      have step_iff := exact_step state event known initial
      have known' := preserved state event known
      constructor
      · rintro ⟨_, later⟩
        have next : good (step state event) := later.first
        exact ⟨step_iff.mp next, (inductionHypothesis known' next).mp later⟩
      · rintro ⟨here, later⟩
        have next : good (step state event) := step_iff.mpr here
        exact ⟨initial, (inductionHypothesis known' next).mpr later⟩

end NetworkAdapter.Execution
