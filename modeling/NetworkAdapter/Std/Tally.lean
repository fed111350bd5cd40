import Mathlib.Algebra.GroupWithZero.Nat
import Mathlib.Data.List.Count
import Mathlib.Data.List.Induction
import NetworkAdapter.Std.Dict

/-!
# Dictionaries that count

`d[key] = d.get(key, 0) + 1`, repeated over a sequence: what such a dictionary holds is
how often each key occurs, and its values add up to the length of the sequence.
-/

namespace NetworkAdapter

variable {κ : Type} [DecidableEq κ]

/-- The sum of the values changes by what is stored in place of the old value. -/
theorem Fields.sum_set (entries : List (κ × Nat)) (key : κ) (value : Nat) :
    ((Fields.set entries key value).map Prod.snd).sum + (Fields.get? entries key).getD 0 =
      (entries.map Prod.snd).sum + value := by
  induction entries with
  | nil => simp [Fields.set]
  | cons entry rest inductionHypothesis =>
      obtain ⟨other, old⟩ := entry
      by_cases same : other = key
      · subst other
        simp only [Fields.set, Fields.get?, if_true, List.map_cons, List.sum_cons,
          Option.getD_some]
        omega
      · simp only [Fields.set, Fields.get?, same, if_false, List.map_cons, List.sum_cons]
        omega

namespace Dict

/-- `d[key] = d.get(key, 0) + 1`. -/
def bump (dict : Dict κ Nat) (key : κ) : Dict κ Nat := dict.set key ((dict.get? key).getD 0 + 1)

/-- A key is bumped for each of its occurrences. -/
def tally (keys : List κ) : Dict κ Nat := keys.foldl bump .empty

theorem tally_append (earlier later : List κ) :
    tally (earlier ++ later) = later.foldl bump (tally earlier) := List.foldl_append

/-- The values of a bumped dictionary add up to one more. -/
theorem sum_values_bump (dict : Dict κ Nat) (key : κ) :
    (dict.bump key).values.sum = dict.values.sum + 1 := by
  have changed : (dict.bump key).values.sum + (dict.get? key).getD 0 =
      dict.values.sum + ((dict.get? key).getD 0 + 1) := Fields.sum_set dict.entries key _
  omega

/-- A tally holds the keys that occur, each with the number of its occurrences. -/
theorem get?_tally (keys : List κ) (key : κ) :
    (tally keys).get? key = if keys.count key = 0 then none else some (keys.count key) := by
  induction keys using List.reverseRecOn with
  | nil => rfl
  | append_singleton earlier last inductionHypothesis =>
      rw [tally_append, List.foldl_cons, List.foldl_nil, bump, get?_set, List.count_append,
        List.count_singleton]
      by_cases same : last = key
      · subst last
        rw [inductionHypothesis]
        by_cases fresh : earlier.count key = 0 <;> simp [fresh]
      · simp [same, inductionHypothesis]

theorem getD_tally (keys : List κ) (key : κ) :
    ((tally keys).get? key).getD 0 = keys.count key := by
  rw [get?_tally]
  split
  · next absent => simp [absent]
  · rfl

theorem sum_values_tally (keys : List κ) : (tally keys).values.sum = keys.length := by
  induction keys using List.reverseRecOn with
  | nil => rfl
  | append_singleton earlier last inductionHypothesis =>
      rw [tally_append, List.foldl_cons, List.foldl_nil, sum_values_bump, inductionHypothesis,
        List.length_append, List.length_singleton]

end Dict
end NetworkAdapter
