import NetworkAdapter.OpenFlow.FlowTable

/-!
# What an added entry changes

An entry that is added to a table matters to the frames it matches, unless one of a higher
priority matches them too. To these it is the entry, or one of the entries, that handle
them.
-/

namespace NetworkAdapter.FlowTable

variable {Match Actions Frame : Type} [DecidableEq Match] {admits : Match → Frame → Prop}

/-- The entries that handle a frame are the same in both tables. -/
def SameHandling (admits : Match → Frame → Prop) (before after : FlowTable Match Actions)
    (frame : Frame) : Prop :=
  ∀ slot actions, Handles admits after frame slot actions ↔ Handles admits before frame slot actions

/-- A frame is handled, and by no entry but with these actions. -/
structure HandledAs (admits : Match → Frame → Prop) (table : FlowTable Match Actions)
    (frame : Frame) (actions : Actions) : Prop where
  handled : ∃ slot, Handles admits table frame slot actions
  only : ∀ slot other, Handles admits table frame slot other → other = actions

/-- An entry of a higher priority matches the frame. -/
def Outranked (admits : Match → Frame → Prop) (table : FlowTable Match Actions) (priority : Nat)
    (frame : Frame) : Prop :=
  ∃ slot actions, table.get? slot = some actions ∧ admits slot.2 frame ∧ priority < slot.1

/-- Tables with the same slots handle every frame alike. -/
theorem sameHandling_of_get? {before after : FlowTable Match Actions}
    (same : ∀ slot, after.get? slot = before.get? slot) (frame : Frame) :
    SameHandling admits before after frame := by
  intro slot actions
  constructor
  · rintro ⟨installed, admitted, highest⟩
    rw [same] at installed
    exact ⟨installed, admitted, fun priority fields other found =>
      highest priority fields other ((same _).trans found)⟩
  · rintro ⟨installed, admitted, highest⟩
    rw [← same] at installed
    exact ⟨installed, admitted, fun priority fields other found =>
      highest priority fields other ((same _).symm.trans found)⟩

theorem get?_add_eq_some {table : FlowTable Match Actions} {priority : Nat} {fields : Match}
    {actions other : Actions} {slot : Nat × Match} :
    (table.add priority fields actions).get? slot = some other ↔
      ((priority, fields) = slot ∧ actions = other) ∨
        ((priority, fields) ≠ slot ∧ table.get? slot = some other) := by
  rw [add, Dict.get?_set]
  split
  · next same => simp [same]
  · next apart => simp [apart]

theorem Conforms.add {rule : Nat → Match → Actions → Prop} {table : FlowTable Match Actions}
    (conforms : Conforms rule table) {priority : Nat} {fields : Match} {actions : Actions}
    (holds : rule priority fields actions) : Conforms rule (table.add priority fields actions) := by
  intro priority' fields' actions' found
  rcases get?_add_eq_some.mp found with ⟨same, rfl⟩ | ⟨_, found⟩
  · obtain ⟨rfl, rfl⟩ := Prod.mk.inj same
    exact holds
  · exact conforms _ _ _ found

variable {table : FlowTable Match Actions} {priority : Nat} {fields : Match} {actions : Actions}
  {frame : Frame}

/-- The frames that the new entry does not match are handled as before. -/
theorem sameHandling_add_of_unmatched (unmatched : ¬ admits fields frame) :
    SameHandling admits table (table.add priority fields actions) frame := by
  -- An entry that matches the frame is not the new one.
  have old {slot : Nat × Match} {other : Actions} (admitted : admits slot.2 frame) :
      (table.add priority fields actions).get? slot = some other ↔
        table.get? slot = some other := by
    rw [get?_add_eq_some]
    have apart : (priority, fields) ≠ slot := by
      rintro rfl
      exact unmatched admitted
    simp [apart]
  intro slot other
  constructor
  · rintro ⟨installed, admitted, highest⟩
    exact ⟨(old admitted).mp installed, admitted, fun priority' fields' other' found matched =>
      highest priority' fields' other' ((old matched).mpr found) matched⟩
  · rintro ⟨installed, admitted, highest⟩
    exact ⟨(old admitted).mpr installed, admitted, fun priority' fields' other' found matched =>
      highest priority' fields' other' ((old matched).mp found) matched⟩

/-- And so are those that an entry of a higher priority matches. -/
theorem sameHandling_add_of_outranked (outranked : Outranked admits table priority frame) :
    SameHandling admits table (table.add priority fields actions) frame := by
  obtain ⟨higher, above, there, matched, exceeds⟩ := outranked
  have kept {slot : Nat × Match} (high : priority < slot.1) {other : Actions} :
      (table.add priority fields actions).get? slot = some other ↔
        table.get? slot = some other := by
    rw [get?_add_eq_some]
    have apart : (priority, fields) ≠ slot := by
      rintro rfl
      exact Nat.lt_irrefl _ high
    simp [apart]
  intro slot other
  constructor
  · rintro ⟨installed, admitted, highest⟩
    have high : priority < slot.1 :=
      Nat.lt_of_lt_of_le exceeds (highest _ _ _ ((kept exceeds).mpr there) matched)
    refine ⟨(kept high).mp installed, admitted, fun priority' fields' other' found matched' => ?_⟩
    by_cases new : (priority, fields) = (priority', fields')
    · obtain ⟨rfl, rfl⟩ := Prod.mk.inj new
      exact Nat.le_of_lt high
    · exact highest _ _ _ (get?_add_eq_some.mpr (.inr ⟨new, found⟩)) matched'
  · rintro ⟨installed, admitted, highest⟩
    have high : priority < slot.1 := Nat.lt_of_lt_of_le exceeds (highest _ _ _ there matched)
    refine ⟨(kept high).mpr installed, admitted, fun priority' fields' other' found matched' => ?_⟩
    rcases get?_add_eq_some.mp found with ⟨new, _⟩ | ⟨_, found⟩
    · obtain ⟨rfl, rfl⟩ := Prod.mk.inj new
      exact Nat.le_of_lt high
    · exact highest _ _ _ found matched'

/-- The new entry handles every other frame that it matches. -/
theorem handles_add (matched : admits fields frame)
    (highest : ¬ Outranked admits table priority frame) :
    Handles admits (table.add priority fields actions) frame (priority, fields) actions := by
  refine ⟨get?_add_eq_some.mpr (.inl ⟨rfl, rfl⟩), matched, ?_⟩
  intro priority' fields' other found matched'
  rcases get?_add_eq_some.mp found with ⟨new, _⟩ | ⟨_, found⟩
  · exact Nat.le_of_eq (Prod.mk.inj new).1.symm
  · by_contra above
    exact highest ⟨(priority', fields'), other, found, matched', Nat.lt_of_not_le above⟩

/-- Alone, if the others of its priority do not match them. -/
theorem handledAs_add (matched : admits fields frame)
    (highest : ¬ Outranked admits table priority frame)
    (alike : ∀ fields' other, table.get? (priority, fields') = some other → admits fields' frame →
      other = actions) :
    HandledAs admits (table.add priority fields actions) frame actions := by
  have handles : Handles admits (table.add priority fields actions) frame (priority, fields)
      actions := handles_add matched highest
  refine ⟨⟨_, handles⟩, fun slot other handled => ?_⟩
  have most : slot.1 ≤ priority := handles.highest _ _ _ handled.installed handled.admitted
  have least : priority ≤ slot.1 := handled.highest _ _ _ handles.installed matched
  rcases get?_add_eq_some.mp handled.installed with ⟨_, same⟩ | ⟨_, found⟩
  · exact same.symm
  · obtain ⟨priority', fields'⟩ := slot
    obtain rfl : priority' = priority := Nat.le_antisymm most least
    exact alike fields' other found handled.admitted

end NetworkAdapter.FlowTable
