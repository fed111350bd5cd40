import Mathlib.Data.List.Nodup
import Mathlib.Data.List.TakeWhile
import NetworkAdapter.Semantics.Effect

/-!
# Programs known before they run

A plan is the writes a computation makes, in order, and what it ends with, an error
perhaps. Where the reads of a program are not touched by its writes, the plan can be made
from the first state, and the run is the plan performed. What a plan leaves at a place is
its last write there.
-/

namespace NetworkAdapter

/-- The writes of a computation and its result. -/
structure Plan (Error Write Value : Type) where
  writes : List Write
  result : Except Error Value

namespace Plan

variable {Error Write Value Result State : Type}

instance : Monad (Plan Error Write) where
  pure value := ⟨[], .ok value⟩
  bind first next :=
    match first.result with
    | .ok value => ⟨first.writes ++ (next value).writes, (next value).result⟩
    | .error error => ⟨first.writes, .error error⟩

/-- A computation that writes nothing. -/
def ofExcept (computed : Except Error Value) : Plan Error Write Value := ⟨[], computed⟩

def write (entry : Write) : Plan Error Write Unit := ⟨[entry], .ok ()⟩

/-- Make the writes, each of which may raise, then end as planned. -/
def perform (assign : Write → Effect Error State Unit) (plan : Plan Error Write Value) :
    Effect Error State Value := do
  forM plan.writes assign
  Effect.ofExcept plan.result

@[simp] theorem pure_eq (value : Value) :
    (pure value : Plan Error Write Value) = ⟨[], .ok value⟩ := rfl

theorem bind_of_ok {first : Plan Error Write Value} {value : Value}
    (returned : first.result = .ok value) (next : Value → Plan Error Write Result) :
    first >>= next = ⟨first.writes ++ (next value).writes, (next value).result⟩ := by
  show (match first.result with
    | .ok value => (⟨first.writes ++ (next value).writes, (next value).result⟩ : Plan _ _ _)
    | .error error => ⟨first.writes, .error error⟩) = _
  rw [returned]

theorem bind_of_error {first : Plan Error Write Value} {error : Error}
    (raised : first.result = .error error) (next : Value → Plan Error Write Result) :
    first >>= next = ⟨first.writes, .error error⟩ := by
  show (match first.result with
    | .ok value => (⟨first.writes ++ (next value).writes, (next value).result⟩ : Plan _ _ _)
    | .error error => ⟨first.writes, .error error⟩) = _
  rw [raised]

instance : LawfulMonad (Plan Error Write) := by
  refine LawfulMonad.mk' (Plan Error Write) ?_ ?_ ?_
  · intro Value plan
    cases returned : plan.result with
    | ok value =>
        refine (bind_of_ok returned _).trans ?_
        simp [← returned]
    | error error =>
        refine (bind_of_error returned _).trans ?_
        simp [← returned]
  · intro Value Result value next
    exact (bind_of_ok rfl next).trans (by simp)
  · intro First Second Third plan next last
    cases returned : plan.result with
    | ok value =>
        rw [bind_of_ok returned, bind_of_ok returned]
        cases returned' : (next value).result with
        | ok value' => simp [bind_of_ok, returned']
        | error error => simp [bind_of_error, returned']
    | error error => rw [bind_of_error returned, bind_of_error returned, bind_of_error rfl]

@[simp] theorem mem_writes_pure (entry : Write) (value : Value) :
    entry ∈ (pure value : Plan Error Write Value).writes ↔ False := by
  simp

@[simp] theorem mem_writes_ofExcept (entry : Write) (computed : Except Error Value) :
    entry ∈ (ofExcept computed : Plan Error Write Value).writes ↔ False := by
  simp [ofExcept]

@[simp] theorem mem_writes_write (entry other : Write) :
    entry ∈ (write other : Plan Error Write Unit).writes ↔ entry = other := by
  simp [write]

@[simp] theorem result_pure (value : Value) :
    (pure value : Plan Error Write Value).result = .ok value := rfl

@[simp] theorem result_ofExcept (computed : Except Error Value) :
    (ofExcept computed : Plan Error Write Value).result = computed := rfl

@[simp] theorem result_write (entry : Write) :
    (write entry : Plan Error Write Unit).result = .ok () := rfl

/-- The writes of a sequence: those of the first part and, if it does not fail, of the rest. -/
@[simp] theorem mem_writes_bind (entry : Write) (first : Plan Error Write Value)
    (next : Value → Plan Error Write Result) :
    entry ∈ (first >>= next).writes ↔
      entry ∈ first.writes ∨ ∃ value, first.result = .ok value ∧ entry ∈ (next value).writes := by
  cases returned : first.result with
  | ok value => simp [bind_of_ok returned]
  | error error => simp [bind_of_error returned]

@[simp] theorem result_bind_eq_ok (first : Plan Error Write Value)
    (next : Value → Plan Error Write Result) (result : Result) :
    (first >>= next).result = .ok result ↔
      ∃ value, first.result = .ok value ∧ (next value).result = .ok result := by
  cases returned : first.result with
  | ok value => simp [bind_of_ok returned]
  | error error => simp [bind_of_error returned]

/-- A loop ends well if each turn does. -/
theorem forM_result {Item : Type} (body : Item → Plan Error Write Unit) (items : List Item) :
    (forM items body).result = .ok () ↔ ∀ item ∈ items, (body item).result = .ok () := by
  induction items with
  | nil => simp
  | cons item rest inductionHypothesis =>
      rw [List.forM_cons, result_bind_eq_ok, List.forall_mem_cons, ← inductionHypothesis]
      exact ⟨fun ⟨_, both⟩ => both, fun both => ⟨(), both⟩⟩

/-- A write of a loop is one of a turn that every turn before it lets come. -/
theorem mem_forM_writes {Item : Type} {body : Item → Plan Error Write Unit} {items : List Item}
    {entry : Write} (member : entry ∈ (forM items body).writes) :
    ∃ earlier item later, items = earlier ++ item :: later ∧
      (∀ other ∈ earlier, (body other).result = .ok ()) ∧ entry ∈ (body item).writes := by
  induction items with
  | nil => simp at member
  | cons first rest inductionHypothesis =>
      rw [List.forM_cons, mem_writes_bind] at member
      rcases member with here | ⟨_, returned, later⟩
      · exact ⟨[], first, rest, rfl, nofun, here⟩
      · obtain ⟨earlier, item, others, rfl, ended, there⟩ := inductionHypothesis later
        exact ⟨first :: earlier, item, others, rfl,
          List.forall_mem_cons.mpr ⟨returned, ended⟩, there⟩

/-- All writes of all turns, if the loop ends well. -/
theorem mem_forM_writes_of_ok {Item : Type} {body : Item → Plan Error Write Unit}
    {items : List Item} (ends : (forM items body).result = .ok ()) {item : Item}
    (member : item ∈ items) {entry : Write} (written : entry ∈ (body item).writes) :
    entry ∈ (forM items body).writes := by
  induction items with
  | nil => cases member
  | cons first rest inductionHypothesis =>
      rw [List.forM_cons, result_bind_eq_ok] at ends
      obtain ⟨value, returned, later⟩ := ends
      rw [List.forM_cons, mem_writes_bind]
      rcases List.mem_cons.mp member with rfl | there
      · exact .inl written
      · exact .inr ⟨value, returned, inductionHypothesis later there⟩

/-- Planning first and performing then is performing step by step. -/
theorem perform_bind (assign : Write → Effect Error State Unit) (first : Plan Error Write Value)
    (next : Value → Plan Error Write Result) :
    (first >>= next).perform assign =
      first.perform assign >>= fun value => (next value).perform assign := by
  cases returned : first.result with
  | ok value =>
      rw [bind_of_ok returned]
      simp [perform, returned, Effect.ofExcept, List.forM_append]
  | error error =>
      rw [bind_of_error returned]
      funext state
      show EStateM.run _ state = EStateM.run _ state
      simp only [perform, returned, Effect.ofExcept, EStateM.run_bind]
      cases (forM first.writes assign).run state <;> rfl

theorem perform_ofExcept (assign : Write → Effect Error State Unit)
    (computed : Except Error Value) :
    (ofExcept computed : Plan Error Write Value).perform assign = Effect.ofExcept computed := rfl

/-- The state after writes that all succeed. -/
def applyAll (apply : Write → State → State) (writes : List Write) (state : State) : State :=
  writes.foldl (fun current entry => apply entry current) state

/-- What the last of the writes to a place puts there. -/
def lastAt {Place Content : Type} [DecidableEq Place] (place : Write → Place)
    (content : Write → Content) : List Write → Place → Option Content
  | [], _ => none
  | entry :: rest, wanted =>
      (lastAt place content rest wanted).or
        (if place entry = wanted then some (content entry) else none)

/-- The writes made before the first one that raises. -/
def made (valid : Write → Bool) (plan : Plan Error Write Value) : List Write :=
  plan.writes.takeWhile valid

/-- The plan meets a write that raises, or ends with an error. -/
def Fails (valid : Write → Bool) (plan : Plan Error Write Value) : Prop :=
  (∃ entry ∈ plan.writes, valid entry = false) ∨ ∃ error, plan.result = .error error

/-- A write either raises and does nothing or puts its content in its place, and which of the
two is known from what no write changes. -/
structure Assigns {Place Content : Type} [DecidableEq Place]
    (assign : Write → Effect Error State Unit) (known : State → Prop) (valid : Write → Bool)
    (apply : Write → State → State) (place : Write → Place) (content : Write → Content)
    (read : State → Place → Option Content) : Prop where
  kept : ∀ {state entry}, known state → valid entry = true → known (apply entry state)
  done : ∀ {state entry}, known state → valid entry = true →
    (assign entry).run state = .ok () (apply entry state)
  raised : ∀ {state entry}, known state → valid entry = false →
    ∃ error, (assign entry).run state = .error error state
  read_apply : ∀ {state entry}, known state → valid entry = true → ∀ wanted,
    read (apply entry state) wanted =
      if place entry = wanted then some (content entry) else read state wanted
  same : ∀ {state entry}, known state → valid entry = true →
    read state (place entry) = some (content entry) → apply entry state = state
  overwrite : ∀ {state first second}, known state → valid first = true → valid second = true →
    place first = place second → apply second (apply first state) = apply second state
  commute : ∀ {state first second}, known state → valid first = true → valid second = true →
    place first ≠ place second → (read state (place first)).isSome →
      apply second (apply first state) = apply first (apply second state)

section Performed

variable {Place Content : Type} [DecidableEq Place] {assign : Write → Effect Error State Unit}
  {known : State → Prop} {valid : Write → Bool} {apply : Write → State → State}
  {place : Write → Place} {content : Write → Content} {read : State → Place → Option Content}

/-- Writes one after the other stop at the first that raises. -/
theorem Assigns.run_forM (assigns : Assigns assign known valid apply place content read)
    (writes : List Write) {state : State} (holds : known state) :
    ((∀ entry ∈ writes, valid entry = true) ∧
        (forM writes assign).run state = .ok () (applyAll apply writes state)) ∨
      ((∃ entry ∈ writes, valid entry = false) ∧ ∃ error, (forM writes assign).run state =
        .error error (applyAll apply (writes.takeWhile valid) state)) := by
  induction writes generalizing state with
  | nil => exact .inl ⟨nofun, rfl⟩
  | cons entry rest inductionHypothesis =>
      cases passes : valid entry with
      | false =>
          obtain ⟨error, raises⟩ := assigns.raised holds passes
          refine .inr ⟨⟨entry, List.mem_cons_self, passes⟩, error, ?_⟩
          simp [List.forM_cons, raises, passes, applyAll]
      | true =>
          have done := assigns.done holds passes
          rcases inductionHypothesis (assigns.kept holds passes) with
            ⟨all, returned⟩ | ⟨⟨other, member, fails⟩, error, raised⟩
          · refine .inl ⟨List.forall_mem_cons.mpr ⟨passes, all⟩, ?_⟩
            rw [List.forM_cons, EStateM.run_bind, done]
            exact returned
          · refine .inr ⟨⟨other, List.mem_cons_of_mem _ member, fails⟩, error, ?_⟩
            rw [List.forM_cons, EStateM.run_bind, done, List.takeWhile_cons_of_pos passes]
            exact raised

/-- What a plan that does not fail has made is all it writes, and it ends well. -/
theorem made_of_not_fails {plan : Plan Error Write Value} (complete : ¬ plan.Fails valid) :
    plan.made valid = plan.writes ∧ (∀ entry ∈ plan.writes, valid entry = true) ∧
      ∃ value, plan.result = .ok value := by
  have all : ∀ entry ∈ plan.writes, valid entry = true := by
    intro entry member
    cases passes : valid entry with
    | true => rfl
    | false => exact absurd (.inl ⟨entry, member, passes⟩) complete
  refine ⟨List.takeWhile_eq_self_iff.mpr all, all, ?_⟩
  cases ends : plan.result with
  | ok value => exact ⟨value, rfl⟩
  | error error => exact absurd (.inr ⟨error, ends⟩) complete

theorem valid_of_mem_made {plan : Plan Error Write Value} {entry : Write}
    (member : entry ∈ plan.made valid) : valid entry = true :=
  List.mem_takeWhile_imp member

/-- A plan leaves the writes it has made. -/
theorem Assigns.perform_cases (assigns : Assigns assign known valid apply place content read)
    (plan : Plan Error Write Value) {state : State} (holds : known state) :
    (¬ plan.Fails valid ∧ ∃ value, (plan.perform assign).run state =
        .ok value (applyAll apply (plan.made valid) state)) ∨
      (plan.Fails valid ∧ ∃ error, (plan.perform assign).run state =
        .error error (applyAll apply (plan.made valid) state)) := by
  have ran := assigns.run_forM plan.writes holds
  unfold perform
  rw [EStateM.run_bind]
  rcases ran with ⟨all, returned⟩ | ⟨invalid, error, raised⟩
  · have whole : plan.made valid = plan.writes := List.takeWhile_eq_self_iff.mpr all
    rw [returned, whole]
    cases ends : plan.result with
    | ok value =>
        refine .inl ⟨?_, value, rfl⟩
        rintro (⟨entry, member, fails⟩ | ⟨error, raises⟩)
        · simp [all entry member] at fails
        · cases ends.symm.trans raises
    | error error => exact .inr ⟨.inr ⟨error, ends⟩, error, rfl⟩
  · rw [raised]
    exact .inr ⟨.inl invalid, error, rfl⟩

theorem Assigns.known_applyAll (assigns : Assigns assign known valid apply place content read)
    {writes : List Write} (all : ∀ entry ∈ writes, valid entry = true) {state : State}
    (holds : known state) : known (applyAll apply writes state) := by
  induction writes generalizing state with
  | nil => exact holds
  | cons entry rest inductionHypothesis =>
      obtain ⟨passes, later⟩ := List.forall_mem_cons.mp all
      exact inductionHypothesis later (assigns.kept holds passes)

/-- The last write at a place is one of the writes there. -/
theorem mem_of_lastAt {writes : List Write} {wanted : Place} {value : Content}
    (last : lastAt place content writes wanted = some value) :
    ∃ entry ∈ writes, place entry = wanted ∧ content entry = value := by
  induction writes with
  | nil => cases last
  | cons next rest inductionHypothesis =>
      rw [lastAt] at last
      cases later : lastAt place content rest wanted with
      | some found =>
          rw [later] at last
          obtain rfl := Option.some.inj last
          obtain ⟨entry, member, there⟩ := inductionHypothesis later
          exact ⟨entry, List.mem_cons_of_mem _ member, there⟩
      | none =>
          rw [later, Option.none_or] at last
          split at last
          · next here => exact ⟨next, List.mem_cons_self, here, Option.some.inj last⟩
          · cases last

theorem exists_lastAt {writes : List Write} {entry : Write} (member : entry ∈ writes)
    (place : Write → Place) (content : Write → Content) :
    ∃ other ∈ writes, place other = place entry ∧
      lastAt place content writes (place entry) = some (content other) := by
  induction writes with
  | nil => cases member
  | cons next rest inductionHypothesis =>
      by_cases later : entry ∈ rest
      · obtain ⟨other, stored, same, last⟩ := inductionHypothesis later
        exact ⟨other, List.mem_cons_of_mem _ stored, same, by rw [lastAt, last]; rfl⟩
      · obtain rfl : entry = next := (List.mem_cons.mp member).resolve_right later
        cases last : lastAt place content rest (place entry) with
        | none => exact ⟨entry, List.mem_cons_self, rfl, by rw [lastAt, last, if_pos rfl]; rfl⟩
        | some value =>
            obtain ⟨other, stored, same, rfl⟩ := mem_of_lastAt last
            exact ⟨other, List.mem_cons_of_mem _ stored, same, by rw [lastAt, last]; rfl⟩

theorem lastAt_append (place : Write → Place) (content : Write → Content)
    (first second : List Write) (wanted : Place) :
    lastAt place content (first ++ second) wanted =
      (lastAt place content second wanted).or (lastAt place content first wanted) := by
  induction first with
  | nil => exact (Option.or_none).symm
  | cons entry rest inductionHypothesis =>
      rw [List.cons_append, lastAt, inductionHypothesis, lastAt, Option.or_assoc]

theorem lastAt_eq_none {writes : List Write} {wanted : Place}
    (elsewhere : ∀ entry ∈ writes, place entry ≠ wanted) :
    lastAt place content writes wanted = none := by
  cases last : lastAt place content writes wanted with
  | none => rfl
  | some value =>
      obtain ⟨entry, member, there, _⟩ := mem_of_lastAt last
      exact absurd there (elsewhere entry member)

section Loop

variable {Item : Type} {body : Item → Plan Error Write Unit} {items : List Item}
  {owner : Place → Item}

/-- Where each turn writes to places of its own, the last write at a place is that of the turn
it belongs to, if that comes. -/
theorem lastAt_forM (distinct : items.Nodup)
    (owned : ∀ item, ∀ entry ∈ (body item).writes, owner (place entry) = item) {wanted : Place}
    {earlier later : List Item} (split : items = earlier ++ owner wanted :: later)
    (ended : ∀ other ∈ earlier, (body other).result = .ok ()) :
    lastAt place content (forM items body).writes wanted =
      lastAt place content (body (owner wanted)).writes wanted := by
  subst split
  have apart := List.nodup_middle.mp distinct
  rw [List.nodup_cons, List.mem_append, not_or] at apart
  have elsewhere {others : List Item} (absent : owner wanted ∉ others) :
      lastAt place content (forM others body).writes wanted = none := by
    refine lastAt_eq_none fun entry member here => absent ?_
    obtain ⟨_, item, _, rfl, _, written⟩ := mem_forM_writes member
    rw [← here, owned item entry written]
    simp
  have before := (forM_result body earlier).mpr ended
  rw [List.forM_append, bind_of_ok before, lastAt_append, elsewhere apart.1.1, Option.or_none,
    List.forM_cons]
  cases turn : (body (owner wanted)).result with
  | ok _ =>
      rw [bind_of_ok turn, lastAt_append, elsewhere apart.1.2]
      exact Option.none_or
  | error error => rw [bind_of_error turn]

/-- And if that does not come there is none. -/
theorem lastAt_forM_of_unreached
    (owned : ∀ item, ∀ entry ∈ (body item).writes, owner (place entry) = item) {wanted : Place}
    (unreached : ∀ earlier later, items = earlier ++ owner wanted :: later →
      ¬ ∀ other ∈ earlier, (body other).result = .ok ()) :
    lastAt place content (forM items body).writes wanted = none := by
  refine lastAt_eq_none fun entry member here => ?_
  obtain ⟨earlier, item, later, split, ended, written⟩ := mem_forM_writes member
  have own : owner wanted = item := by rw [← here, owned item entry written]
  exact unreached earlier later (by rw [split, own]) ended

end Loop

/-- What is read after the writes is the last of them there, or what was there before. -/
theorem Assigns.read_applyAll (assigns : Assigns assign known valid apply place content read)
    {writes : List Write} (all : ∀ entry ∈ writes, valid entry = true) {state : State}
    (holds : known state) (wanted : Place) :
    read (applyAll apply writes state) wanted =
      (lastAt place content writes wanted).or (read state wanted) := by
  induction writes generalizing state with
  | nil => rfl
  | cons entry rest inductionHypothesis =>
      obtain ⟨passes, later⟩ := List.forall_mem_cons.mp all
      have after := inductionHypothesis later (assigns.kept holds passes)
      rw [assigns.read_apply holds passes] at after
      rw [lastAt, Option.or_assoc]
      refine after.trans (congrArg _ ?_)
      split <;> rfl

/-- A write to a place that is there is forgotten by a later one. -/
theorem Assigns.applyAll_overwritten
    (assigns : Assigns assign known valid apply place content read) {writes : List Write}
    (all : ∀ entry ∈ writes, valid entry = true) {state : State} (holds : known state)
    {entry : Write} (passes : valid entry = true) (there : (read state (place entry)).isSome)
    (later : (lastAt place content writes (place entry)).isSome) :
    applyAll apply writes (apply entry state) = applyAll apply writes state := by
  induction writes generalizing state with
  | nil => cases later
  | cons next rest inductionHypothesis =>
      obtain ⟨passes', others⟩ := List.forall_mem_cons.mp all
      by_cases same : place entry = place next
      · exact congrArg (applyAll apply rest) (assigns.overwrite holds passes passes' same)
      · have swapped := assigns.commute holds passes passes' same there
        have after : (read (apply next state) (place entry)).isSome := by
          rw [assigns.read_apply holds passes', if_neg (Ne.symm same)]
          exact there
        rw [lastAt, if_neg (Ne.symm same), Option.or_none] at later
        exact (congrArg (applyAll apply rest) swapped).trans
          (inductionHypothesis others (assigns.kept holds passes') after later)

/-- Writes change nothing just if the last one at each place puts there what was there. -/
theorem Assigns.applyAll_eq_self_iff
    (assigns : Assigns assign known valid apply place content read) {writes : List Write}
    (all : ∀ entry ∈ writes, valid entry = true) {state : State} (holds : known state) :
    applyAll apply writes state = state ↔
      ∀ wanted value, lastAt place content writes wanted = some value →
        read state wanted = some value := by
  constructor
  · intro unchanged wanted value last
    have after := assigns.read_applyAll all holds wanted
    rw [unchanged, last] at after
    exact after
  · induction writes with
    | nil => exact fun _ => rfl
    | cons entry rest inductionHypothesis =>
        intro there
        obtain ⟨passes, others⟩ := List.forall_mem_cons.mp all
        have restThere : ∀ wanted value, lastAt place content rest wanted = some value →
            read state wanted = some value := fun wanted value last =>
          there wanted value (by rw [lastAt, last]; rfl)
        cases last : lastAt place content rest (place entry) with
        | none =>
            have kept : read state (place entry) = some (content entry) :=
              there _ _ (by rw [lastAt, last, if_pos rfl]; rfl)
            exact (congrArg (applyAll apply rest) (assigns.same holds passes kept)).trans
              (inductionHypothesis others restThere)
        | some value =>
            have present : (read state (place entry)).isSome := by
              rw [restThere _ value last]
              rfl
            exact (assigns.applyAll_overwritten others holds passes present
              (by rw [last]; rfl)).trans (inductionHypothesis others restThere)

/-- All writes are there in the end just if no two put different things in one place. -/
theorem Assigns.all_there_iff (assigns : Assigns assign known valid apply place content read)
    {writes : List Write} (all : ∀ entry ∈ writes, valid entry = true) {state : State}
    (holds : known state) :
    (∀ entry ∈ writes, read (applyAll apply writes state) (place entry) = some (content entry)) ↔
      ∀ first ∈ writes, ∀ second ∈ writes, place first = place second →
        content first = content second := by
  constructor
  · intro there first member second member' same
    have one := there first member
    have other := there second member'
    rw [same, other] at one
    exact (Option.some.inj one).symm
  · intro agree entry member
    obtain ⟨other, member', same, last⟩ := exists_lastAt member place content
    rw [assigns.read_applyAll all holds, last, agree other member' entry member same]
    rfl

end Performed
end Plan
end NetworkAdapter
