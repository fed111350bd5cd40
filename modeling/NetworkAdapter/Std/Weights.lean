import Mathlib

/-!
# Weights of lists

What the items of a list weigh together, when one is taken out and when the list
is filtered. An item that weighs nothing may pass a filter or not.
-/

namespace NetworkAdapter.Weights

variable {Item : Type} (weight : Item → Nat)

/-- The items of a list weigh together what one of them and the others do. -/
theorem sum_eraseIdx {items : List Item} {index : Nat} {item : Item}
    (found : items[index]? = some item) :
    (items.map weight).sum = weight item + ((items.eraseIdx index).map weight).sum := by
  obtain ⟨inside, rfl⟩ := List.getElem?_eq_some_iff.mp found
  have perm := (List.getElem_cons_eraseIdx_perm inside).map weight
  rw [← perm.sum_eq, List.map_cons, List.sum_cons]

/-- What a filter drops weighs nothing. -/
theorem sum_filter (items : List Item) (passes : Item → Bool) :
    ((items.filter passes).map weight).sum =
      (items.map fun item => if passes item then weight item else 0).sum := by
  induction items with
  | nil => rfl
  | cons item rest inductionHypothesis =>
      cases passed : passes item <;> simp [passed, inductionHypothesis]

/-- Filters that differ on weightless items only. -/
theorem sum_filter_congr {items : List Item} {first second : Item → Bool}
    (agree : ∀ item ∈ items, weight item ≠ 0 → first item = second item) :
    ((items.filter first).map weight).sum = ((items.filter second).map weight).sum := by
  rw [sum_filter, sum_filter]
  refine congrArg List.sum (List.map_congr_left fun item member => ?_)
  by_cases weightless : weight item = 0
  · simp [weightless]
  · rw [agree item member weightless]

/-- A stricter filter leaves no more. -/
theorem sum_filter_le {items : List Item} {first second : Item → Bool}
    (implies : ∀ item ∈ items, first item = true → second item = true) :
    ((items.filter first).map weight).sum ≤ ((items.filter second).map weight).sum := by
  rw [sum_filter, sum_filter]
  refine List.sum_le_sum fun item member => ?_
  by_cases passes : first item = true
  · rw [if_pos passes, if_pos (implies item member passes)]
  · rw [if_neg passes]
    exact Nat.zero_le _

/-- Items of weight one, of which there is at most one, weigh one if there is one. -/
theorem sum_indicator {items : List Item} (distinct : items.Nodup) (chosen : Item → Prop)
    [DecidablePred chosen]
    (unique : ∀ first second, chosen first → chosen second → first = second) :
    (items.map fun item => if chosen item then 1 else 0).sum =
      if ∃ item ∈ items, chosen item then 1 else 0 := by
  induction items with
  | nil => simp
  | cons item rest inductionHypothesis =>
      obtain ⟨absent, distinct⟩ := List.nodup_cons.mp distinct
      rw [List.map_cons, List.sum_cons, inductionHypothesis distinct]
      by_cases here : chosen item
      · have alone : ¬ ∃ other ∈ rest, chosen other := by
          rintro ⟨other, member, also⟩
          exact absent (unique other item also here ▸ member)
        simp [here, alone]
      · simp [here]

/-- A log of items by place, where no place has seen an item more often than it was handed out. -/
theorem length_le_of_count {Place Item : Type} [DecidableEq Place] [BEq Item]
    [LawfulBEq Item] {places : Finset Place} {log : List (Place × Item)} {items : List Item}
    (within : ∀ entry ∈ log, entry.1 ∈ places)
    (few : ∀ place item, log.count (place, item) ≤ items.count item) :
    log.length ≤ places.card * items.length := by
  have byPlace : ∑ place ∈ places, (log.map Prod.fst).count place = log.length := by
    have total := Multiset.sum_count_eq_card (s := places)
      (m := (log.map Prod.fst : Multiset Place)) fun place member => by
        obtain ⟨entry, listed, rfl⟩ := List.mem_map.mp (Multiset.mem_coe.mp member)
        exact within entry listed
    simpa using total
  have atPlace (place : Place) : (log.map Prod.fst).count place ≤ items.length := by
    have seen : ((log.filter (·.1 = place)).map Prod.snd).Subperm items := by
      refine List.subperm_ext_iff.mpr fun item _ => ?_
      have same : ((log.filter (·.1 = place)).map Prod.snd).count item =
          log.count (place, item) := by
        simp only [List.count, List.countP_map, List.countP_filter]
        refine List.countP_congr fun entry _ => ?_
        obtain ⟨seenAt, seenItem⟩ := entry
        simp [and_comm]
      exact same ▸ few place item
    have counted : (log.map Prod.fst).count place = (log.filter (·.1 = place)).length := by
      rw [List.count, List.countP_map, List.countP_eq_length_filter]
      congr 1
    simpa [counted] using seen.length_le
  calc log.length = ∑ place ∈ places, (log.map Prod.fst).count place := byPlace.symm
    _ ≤ ∑ _place ∈ places, items.length := Finset.sum_le_sum fun place _ => atPlace place
    _ = places.card * items.length := by simp

end NetworkAdapter.Weights
