import NetworkAdapter.Semantics.Execution
import Mathlib.Data.List.Induction
import Mathlib.Data.List.Nodup
import Mathlib.Data.List.Perm.Basic

/-!
# Interleaved transactions over one shared content

A transaction reads the whole content any number of times and ends, having
written the whole content at most once. A pool runs transactions side by side
with nothing but the content between them: each step is one read or one write of
one of them. Executed alone a transaction is a function of the content, and the
question is when an interleaving is worth one after the other in some order.
-/

namespace NetworkAdapter

open Execution

universe u

/-- What is left to do of a transaction. -/
inductive Transaction (Content : Type u) : Type u where
  | done
  | read (next : Content → Transaction Content)
  | write (content : Content)

namespace Transaction

variable {Content : Type u}

/-- Nothing is left to do. -/
def isDone : Transaction Content → Bool
  | .done => true
  | _ => false

/-- The content after the transaction alone. -/
def execute : Transaction Content → Content → Content
  | .done, content => content
  | .read next, content => execute (next content) content
  | .write written, _ => written

/-- The transactions of a list one after the other, in the order `order` names them. -/
def serial (calls : List (Transaction Content)) (content : Content) (order : List Nat) : Content :=
  order.foldl (fun current call => ((calls[call]?).getD .done).execute current) content

theorem serial_append (calls : List (Transaction Content)) (content : Content) (order : List Nat)
    (call : Nat) :
    serial calls content (order ++ [call]) =
      ((calls[call]?).getD .done).execute (serial calls content order) := by
  simp [serial]

theorem eq_done_of_isDone {left : Transaction Content} (finished : left.isDone = true) :
    left = .done := by
  cases left with
  | done => rfl
  | read next => cases finished
  | write content => cases finished

/-- Transactions which never had anything to do leave the content alone. -/
theorem serial_done {calls : List (Transaction Content)} (content : Content) {order : List Nat}
    (finished : ∀ call ∈ order, ((calls[call]?).getD .done).isDone = true) :
    serial calls content order = content := by
  induction order using List.reverseRecOn with
  | nil => rfl
  | append_singleton order call inductionHypothesis =>
      rw [serial_append, eq_done_of_isDone (finished call (by simp)), execute]
      exact inductionHypothesis fun other member => finished other (List.mem_append_left _ member)

/-- `left` is what remains of `whole` after some reads, all of them of `content`. -/
inductive Reached (content : Content) (whole : Transaction Content) :
    Transaction Content → Prop where
  | start : Reached content whole whole
  | read {next : Content → Transaction Content} (before : Reached content whole (.read next)) :
      Reached content whole (next content)

/-- Reading never changes what the transaction does to the content it read. -/
theorem Reached.execute_eq {content : Content} {whole left : Transaction Content}
    (reached : Reached content whole left) : left.execute content = whole.execute content := by
  induction reached with
  | start => rfl
  | read before inductionHypothesis => exact inductionHypothesis

/-- Transactions under way: the content they share, what is left of each, and
the order in which those with nothing left got there. -/
structure Pool (Content : Type u) where
  content : Content
  left : List (Transaction Content)
  finished : List Nat

namespace Pool

/-- The pool before the first step. -/
def start (calls : List (Transaction Content)) (content : Content) : Pool Content where
  content := content
  left := calls
  finished := (List.range calls.length).filter fun call => ((calls[call]?).getD .done).isDone

/-- The pool once `call` has `after` left to do. -/
def advance (pool : Pool Content) (call : Nat) (after : Transaction Content) : Pool Content :=
  { pool with
    left := pool.left.set call after
    finished := if after.isDone then pool.finished ++ [call] else pool.finished }

/-- One storage access of one transaction; a finished one makes none. -/
def step (pool : Pool Content) (call : Nat) : Pool Content :=
  match pool.left[call]? with
  | some (.read next) => pool.advance call (next pool.content)
  | some (.write content) => { pool with content := content }.advance call .done
  | _ => pool

/-- The write this step makes, if any, leaves every other unfinished transaction
where it would stand had all its reads been reads of the written content. -/
def Undisturbed (calls : List (Transaction Content)) (pool : Pool Content) (call : Nat) : Prop :=
  ∀ written, pool.left[call]? = some (.write written) →
    ∀ (other : Nat) whole left, other ≠ call → calls[other]? = some whole →
      pool.left[other]? = some left → left.isDone = false → Reached written whole left

/-- What is known of the pool in a run of undisturbed steps. -/
structure Sound (calls : List (Transaction Content)) (initial : Content) (pool : Pool Content) :
    Prop where
  /-- The finished transactions, one after the other, account for the content. -/
  content : pool.content = serial calls initial pool.finished
  length : pool.left.length = calls.length
  /-- An unfinished transaction stands where reads of the present content lead. -/
  reached : ∀ (call : Nat) whole left, calls[call]? = some whole → pool.left[call]? = some left →
    left.isDone = false → Reached pool.content whole left
  once : pool.finished.Nodup
  finished : ∀ call, call ∈ pool.finished ↔ pool.left[call]? = some .done

theorem start_sound (calls : List (Transaction Content)) (content : Content) :
    Sound calls content (start calls content) where
  content := by
    refine (serial_done content fun call member => ?_).symm
    simpa using (List.mem_filter.mp member).2
  length := rfl
  reached := by
    intro call whole left known here _
    obtain rfl : whole = left := Option.some.inj (known.symm.trans here)
    exact .start
  once := List.nodup_range.filter _
  finished := by
    intro call
    simp only [start, List.mem_filter, List.mem_range]
    constructor
    · rintro ⟨bound, finished⟩
      rw [List.getElem?_eq_getElem bound] at finished ⊢
      exact congrArg some (eq_done_of_isDone finished)
    · intro found
      exact ⟨(List.getElem?_eq_some_iff.mp found).1, by rw [found]; rfl⟩

/-- A transaction that had something left is named once in the order of completion. -/
theorem Sound.once_advance {calls : List (Transaction Content)} {initial : Content}
    {pool : Pool Content} (sound : Sound calls initial pool) {call : Nat}
    (fresh : call ∉ pool.finished) (after : Transaction Content) :
    (pool.advance call after).finished.Nodup := by
  show (if after.isDone then pool.finished ++ [call] else pool.finished).Nodup
  split
  · rw [List.nodup_append]
    refine ⟨sound.once, List.nodup_singleton call, ?_⟩
    rintro other member last lastMember rfl
    exact fresh (by simpa [List.mem_singleton.mp lastMember] using member)
  · exact sound.once

/-- The order of completion goes on naming the transactions with nothing left. -/
theorem Sound.finished_advance {calls : List (Transaction Content)} {initial : Content}
    {pool : Pool Content} (sound : Sound calls initial pool) {call : Nat}
    (bound : call < pool.left.length) (fresh : call ∉ pool.finished)
    (after : Transaction Content) (other : Nat) :
    other ∈ (pool.advance call after).finished ↔
      (pool.advance call after).left[other]? = some .done := by
  show other ∈ (if after.isDone then pool.finished ++ [call] else pool.finished) ↔
    (pool.left.set call after)[other]? = some .done
  by_cases same : other = call
  · subst same
    rw [List.getElem?_set_self bound]
    split
    · next finished => simp [eq_done_of_isDone finished]
    · next running =>
        refine ⟨fun member => absurd member fresh, fun found => ?_⟩
        rw [Option.some.inj found] at running
        exact absurd rfl running
  · rw [List.getElem?_set_ne (Ne.symm same), ← sound.finished]
    split
    · simp [same]
    · rfl

/-- A transaction that moves on stays sound when what it has left is reached over the
new content, the others are where reads of the new content lead, and, should it be
finished now, the new content is what it makes of the old one. -/
theorem Sound.advance {calls : List (Transaction Content)} {initial : Content}
    {pool : Pool Content} (sound : Sound calls initial pool) {call : Nat}
    {whole before after : Transaction Content} {content : Content}
    (known : calls[call]? = some whole) (here : pool.left[call]? = some before)
    (unfinished : before.isDone = false)
    (reached : after.isDone = false → Reached content whole after)
    (others : ∀ (other : Nat) otherWhole left, other ≠ call → calls[other]? = some otherWhole →
      pool.left[other]? = some left → left.isDone = false → Reached content otherWhole left)
    (effect : content = if after.isDone then whole.execute pool.content else pool.content) :
    Sound calls initial ({ pool with content := content }.advance call after) := by
  have bound : call < pool.left.length := (List.getElem?_eq_some_iff.mp here).1
  have fresh : call ∉ pool.finished := by
    intro member
    rw [sound.finished, here] at member
    cases member
    cases unfinished
  constructor
  case content =>
    show content = serial calls initial (if after.isDone then _ else _)
    rw [effect]
    split
    · rw [serial_append, ← sound.content, known, Option.getD_some]
    · exact sound.content
  case length => simpa [Pool.advance] using sound.length
  case reached =>
    intro other otherWhole left otherKnown otherHere otherUnfinished
    by_cases same : other = call
    · subst same
      obtain rfl : whole = otherWhole := Option.some.inj (known.symm.trans otherKnown)
      obtain rfl : after = left := by
        simpa [Pool.advance, bound] using otherHere
      exact reached otherUnfinished
    · have elsewhere : pool.left[other]? = some left := by
        simpa [Pool.advance, List.getElem?_set_ne (Ne.symm same)] using otherHere
      exact others other otherWhole left same otherKnown elsewhere otherUnfinished
  case once => exact sound.once_advance fresh after
  case finished => exact sound.finished_advance bound fresh after

/-- An undisturbed step keeps the pool sound. -/
theorem step_sound {calls : List (Transaction Content)} {initial : Content} {pool : Pool Content}
    (sound : Sound calls initial pool) (call : Nat) (undisturbed : Undisturbed calls pool call) :
    Sound calls initial (pool.step call) := by
  unfold step
  split
  · next next here =>
      have bound : call < calls.length := by
        rw [← sound.length]
        exact (List.getElem?_eq_some_iff.mp here).1
      have known := List.getElem?_eq_getElem bound
      have reached := sound.reached call _ _ known here rfl
      refine sound.advance known here rfl (fun _ => reached.read)
        (fun other whole left _ => sound.reached other whole left) ?_
      split
      · next finished =>
          rw [← reached.execute_eq, execute, eq_done_of_isDone finished, execute]
      · rfl
  · next written here =>
      have bound : call < calls.length := by
        rw [← sound.length]
        exact (List.getElem?_eq_some_iff.mp here).1
      have known := List.getElem?_eq_getElem bound
      have reached := sound.reached call _ _ known here rfl
      refine sound.advance known here rfl (fun running => by cases running)
        (undisturbed written here) ?_
      exact reached.execute_eq
  · exact sound

/-- A run of undisturbed steps is worth its finished transactions one after the
other, in the order they finished. -/
theorem run_sound (calls : List (Transaction Content)) (content : Content) {schedule : List Nat}
    (undisturbed : Each step (Undisturbed calls) (start calls content) schedule) :
    Sound calls content (run step (start calls content) schedule) :=
  have preserved : ∀ (pool : Pool Content) (call : Nat), Sound calls content pool →
      Undisturbed calls pool call → Sound calls content (pool.step call) :=
    fun _ call sound apart => step_sound sound call apart
  (along_of_each preserved (start_sound calls content) undisturbed).last

/-- Once nothing is left to do, the order of completion names every transaction once. -/
theorem Sound.finished_perm {calls : List (Transaction Content)} {initial : Content}
    {pool : Pool Content} (sound : Sound calls initial pool)
    (complete : ∀ left ∈ pool.left, left.isDone = true) :
    pool.finished.Perm (List.range calls.length) := by
  refine (List.perm_ext_iff_of_nodup sound.once List.nodup_range).mpr fun call => ?_
  rw [sound.finished, List.mem_range, ← sound.length]
  constructor
  · exact fun found => (List.getElem?_eq_some_iff.mp found).1
  · intro bound
    rw [List.getElem?_eq_getElem bound, eq_done_of_isDone (complete _ (List.getElem_mem bound))]

end Pool
end Transaction
end NetworkAdapter
