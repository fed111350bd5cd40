import NetworkAdapter.Std.Dict

/-!
# Priority tables of matches

A flow table holds at most one entry for each priority and match, which is what
the slots of a dictionary say. A frame is handled by an entry of the highest
priority that matches it; nothing says which one if there are several, so a
table is deterministic only if overlapping entries of one priority act alike.
Matches, frames and actions are arbitrary.
-/

namespace NetworkAdapter

/-- The actions installed for a priority and a match. -/
abbrev FlowTable (Match Actions : Type) := Dict (Nat × Match) Actions

namespace FlowTable

variable {Match Actions Frame : Type} [DecidableEq Match]

/-- Adding replaces the entry of the same priority and match. -/
def add (table : FlowTable Match Actions) (priority : Nat) (fields : Match) (actions : Actions) :
    FlowTable Match Actions :=
  table.set (priority, fields) actions

/-- Non-strict deletion removes every entry whose match is covered, whatever its priority. -/
def delete (covers : Match → Match → Bool) (table : FlowTable Match Actions) (fields : Match) :
    FlowTable Match Actions :=
  table.restrict fun slot => !covers fields slot.2

/-- Overlapping entries of one priority have the same actions. -/
def Deterministic (admits : Match → Frame → Prop) (table : FlowTable Match Actions) : Prop :=
  ∀ priority first second firstActions secondActions,
    table.get? (priority, first) = some firstActions →
      table.get? (priority, second) = some secondActions →
        (∃ frame, admits first frame ∧ admits second frame) → firstActions = secondActions

/-- The entry of a slot handles a frame: it matches, and none of a higher priority does. -/
structure Handles (admits : Match → Frame → Prop) (table : FlowTable Match Actions) (frame : Frame)
    (slot : Nat × Match) (actions : Actions) : Prop where
  installed : table.get? slot = some actions
  admitted : admits slot.2 frame
  highest : ∀ priority fields other, table.get? (priority, fields) = some other →
    admits fields frame → priority ≤ slot.1

/-- The action lists of the entries that handle a frame. -/
def handlers (admits : Match → Frame → Prop) [∀ fields frame, Decidable (admits fields frame)]
    (table : FlowTable Match Actions) (frame : Frame) : List Actions :=
  let matching := table.entries.filter fun entry => admits entry.1.2 frame
  (matching.filter fun entry => matching.all fun other => other.1.1 ≤ entry.1.1).map Prod.snd

/-- Every entry is an instance of a rule. -/
def Conforms (rule : Nat → Match → Actions → Prop) (table : FlowTable Match Actions) : Prop :=
  ∀ priority fields actions, table.get? (priority, fields) = some actions →
    rule priority fields actions

theorem mem_handlers_iff {admits : Match → Frame → Prop}
    [∀ fields frame, Decidable (admits fields frame)] {table : FlowTable Match Actions}
    {frame : Frame} {actions : Actions} :
    actions ∈ handlers admits table frame ↔ ∃ slot, Handles admits table frame slot actions := by
  have found (slot : Nat × Match) (other : Actions) :
      (slot, other) ∈ table.entries ↔ table.get? slot = some other :=
    ⟨Fields.get?_of_mem table.distinct, Fields.mem_of_get?⟩
  constructor
  · intro member
    obtain ⟨⟨slot, _⟩, listed, rfl⟩ := List.mem_map.mp member
    obtain ⟨matching, highest⟩ := List.mem_filter.mp listed
    obtain ⟨installed, admitted⟩ := List.mem_filter.mp matching
    refine ⟨slot, (found _ _).mp installed, by simpa using admitted, ?_⟩
    intro priority fields other stored matched
    have member : ((priority, fields), other) ∈
        table.entries.filter fun entry => admits entry.1.2 frame :=
      List.mem_filter.mpr ⟨(found _ _).mpr stored, by simpa using matched⟩
    simpa using List.all_eq_true.mp highest _ member
  · rintro ⟨slot, installed, admitted, highest⟩
    refine List.mem_map.mpr ⟨(slot, actions), List.mem_filter.mpr ⟨?_, ?_⟩, rfl⟩
    · exact List.mem_filter.mpr ⟨(found _ _).mpr installed, by simpa using admitted⟩
    · refine List.all_eq_true.mpr fun other member => ?_
      obtain ⟨stored, matched⟩ := List.mem_filter.mp member
      have below := highest other.1.1 other.1.2 other.2 ((found _ _).mp stored)
        (by simpa using matched)
      simpa using below

/-- A table is deterministic when its rules agree wherever two different matches
of one priority overlap. -/
theorem Conforms.deterministic {rule : Nat → Match → Actions → Prop}
    {admits : Match → Frame → Prop} {table : FlowTable Match Actions}
    (conforms : Conforms rule table)
    (agree : ∀ priority first second firstActions secondActions,
      rule priority first firstActions → rule priority second secondActions → first ≠ second →
        (∃ frame, admits first frame ∧ admits second frame) → firstActions = secondActions) :
    Deterministic admits table := by
  intro priority first second firstActions secondActions found found' overlap
  by_cases same : first = second
  · subst second
    exact Option.some.inj (found.symm.trans found')
  · exact agree priority first second firstActions secondActions (conforms _ _ _ found)
      (conforms _ _ _ found') same overlap

end FlowTable
end NetworkAdapter
