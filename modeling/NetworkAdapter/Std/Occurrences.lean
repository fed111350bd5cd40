import Mathlib.Data.List.Sort

/-!
# First occurrences

A log in which an item may be repeated has a first occurrence of each item, in
the order `List.eraseDups` keeps. These are the facts about that order which
deliveries with retries need.
-/

namespace NetworkAdapter.Occurrences

universe u

variable {Item : Type u}

/-- Appending an item repeats it or adds its first occurrence. -/
theorem eraseDups_concat [DecidableEq Item] (items : List Item) (item : Item) :
    (items ++ [item]).eraseDups =
      if item ∈ items then items.eraseDups else items.eraseDups ++ [item] := by
  rw [List.eraseDups_append]
  by_cases member : item ∈ items <;> simp [List.removeAll, member, List.eraseDups_cons]

theorem eraseDups_of_nodup [DecidableEq Item] {items : List Item} (distinct : items.Nodup) :
    items.eraseDups = items := by
  induction items with
  | nil => rfl
  | cons item rest inductionHypothesis =>
      obtain ⟨absent, distinctRest⟩ := List.nodup_cons.mp distinct
      have kept : (rest.filter fun other => !other == item) = rest := by
        rw [List.filter_eq_self]
        intro other member
        simpa using fun same : other = item => absent (same ▸ member)
      rw [List.eraseDups_cons, kept, inductionHypothesis distinctRest]

/-- First occurrences stay increasing when the appended item is not new or above all others. -/
theorem increasing_concat [LinearOrder Item] {items : List Item}
    (increasing : items.eraseDups.Pairwise (· < ·)) {item : Item}
    (above : item ∉ items → ∀ other ∈ items, other < item) :
    (items ++ [item]).eraseDups.Pairwise (· < ·) := by
  rw [eraseDups_concat]
  split
  · exact increasing
  · next absent =>
      refine List.pairwise_append.mpr ⟨increasing, List.pairwise_singleton _ _, ?_⟩
      intro other member last isLast
      rw [List.mem_singleton.mp isLast]
      exact above absent other (List.mem_eraseDups.mp member)

/-- Of two increasing lists one is a subsequence of the other if its members are. -/
theorem sublist_of_increasing [PartialOrder Item] {first second : List Item}
    (increasing : first.Pairwise (· < ·)) (increasing' : second.Pairwise (· < ·))
    (subset : first ⊆ second) : first.Sublist second :=
  List.sublist_of_subperm_of_pairwise
    (List.subperm_of_subset (increasing.imp ne_of_lt) subset) increasing increasing'

/-- What passes a test that at most one item of a list passes is that item. -/
theorem eq_of_countP_le_one {items : List Item} {passes : Item → Bool}
    (few : items.countP passes ≤ 1) {first second : Item} (member : first ∈ items)
    (member' : second ∈ items) (pass : passes first = true) (pass' : passes second = true) :
    first = second := by
  rw [List.countP_eq_length_filter] at few
  have among : first ∈ items.filter passes := List.mem_filter.mpr ⟨member, pass⟩
  have among' : second ∈ items.filter passes := List.mem_filter.mpr ⟨member', pass'⟩
  match items.filter passes, few, among, among' with
  | [only], _, among, among' =>
      exact (List.mem_singleton.mp among).trans (List.mem_singleton.mp among').symm

end NetworkAdapter.Occurrences
