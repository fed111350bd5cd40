import Mathlib.Order.WellFounded

/-!
# Schedules that settle

A schedule picks the next move of a system, move after move. If every move of an unsettled state
lowers a well-founded rank, every schedule reaches a settled state, however it picks.
-/

namespace NetworkAdapter.Execution

universe u v

variable {State : Type u} {Rank : Type v} [LT Rank] [WellFoundedLT Rank]

/-- Moves that lower the rank of unsettled states lead to a settled one. -/
theorem exists_settled {settled : State → Prop} (rank : State → Rank) {states : Nat → State}
    (lowers : ∀ moment, ¬ settled (states moment) →
      rank (states (moment + 1)) < rank (states moment)) :
    ∃ moment, settled (states moment) := by
  by_contra never
  -- The states would have a lowest rank among them, which the next one is below.
  obtain ⟨lowest, ⟨moment, rfl⟩, minimal⟩ := (wellFounded_lt (α := Rank)).has_min
    (Set.range fun moment => rank (states moment)) ⟨_, 0, rfl⟩
  have unsettled : ¬ settled (states moment) := fun here => never ⟨moment, here⟩
  exact minimal _ ⟨moment + 1, rfl⟩ (lowers moment unsettled)

end NetworkAdapter.Execution
