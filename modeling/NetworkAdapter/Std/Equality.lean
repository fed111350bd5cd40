import Mathlib.Data.List.Perm.Subperm
import NetworkAdapter.Std.Json

/-!
# Equality of values

`Json.equals` is the language's `==`, by which `1 == True` and the order of keys does not
matter. On the values a dictionary can hold, where no key occurs twice, it is an
equivalence.
-/

namespace NetworkAdapter.Json

mutual

/-- No object in the value has a key twice. -/
def Proper : Json → Prop
  | .arr items => ProperItems items
  | .obj fields => (fields.map Prod.fst).Nodup ∧ ProperFields fields
  | _ => True

def ProperItems : List Json → Prop
  | [] => True
  | item :: rest => Proper item ∧ ProperItems rest

def ProperFields : List (String × Json) → Prop
  | [] => True
  | (_, value) :: rest => Proper value ∧ ProperFields rest

end

theorem ProperFields.of_get? {fields : List (String × Json)} (proper : ProperFields fields)
    {key : String} {value : Json} (found : Fields.get? fields key = some value) :
    Proper value := by
  induction fields with
  | nil => cases found
  | cons entry rest inductionHypothesis =>
      obtain ⟨other, held⟩ := entry
      rw [Fields.get?] at found
      split at found
      · cases found
        exact proper.1
      · exact inductionHypothesis proper.2 found

/-- Every field of the left object is found, equal, in the right one. -/
theorem equalFields_iff (left right : List (String × Json)) :
    equalFields left right = true ↔
      ∀ entry ∈ left, ∃ other, Fields.get? right entry.1 = some other ∧
        entry.2.equals other = true := by
  induction left with
  | nil => simp [equalFields]
  | cons entry rest inductionHypothesis =>
      obtain ⟨key, value⟩ := entry
      rw [equalFields, Bool.and_eq_true, inductionHypothesis, List.forall_mem_cons]
      cases found : Fields.get? right key <;> simp

/-- An object of as many distinct keys, all of them found in another, has all its keys. -/
theorem keys_covered {first second : List (String × Json)}
    (distinct : (second.map Prod.fst).Nodup) (lengths : second.length = first.length)
    (equal : equalFields second first = true) {key : String}
    (present : (Fields.get? first key).isSome) : (Fields.get? second key).isSome := by
  rw [Fields.isSome_get?_iff] at present ⊢
  have inside : second.map Prod.fst ⊆ first.map Prod.fst := by
    intro other member
    obtain ⟨entry, held, rfl⟩ := List.mem_map.mp member
    obtain ⟨value, found, _⟩ := (equalFields_iff second first).mp equal entry held
    exact Fields.isSome_get?_iff.mp (by simp [found])
  have perm : (second.map Prod.fst).Perm (first.map Prod.fst) :=
    (distinct.subperm inside).perm_of_length_le (by simp [lengths])
  exact perm.mem_iff.mpr present

mutual

/-- Two values equal to a third are equal. -/
theorem equals_of_common (left middle right : Json) (proper : right.Proper)
    (first : left.equals middle = true) (second : right.equals middle = true) :
    left.equals right = true := by
  cases left with
  | null =>
      cases middle <;> cases right <;> simp_all [equals, numeric?]
  | bool value =>
      cases middle <;> cases right <;> simp_all [equals, numeric?]
  | number value =>
      cases middle <;> cases right <;> simp_all [equals, numeric?]
  | str value =>
      cases middle <;> cases right <;> simp_all [equals, numeric?]
  | arr items =>
      cases middle <;> cases right <;> try simp_all [equals, numeric?]
      exact equalItems_of_common items _ _ proper first second
  | obj fields =>
      cases middle <;> cases right <;> try simp_all [equals, numeric?]
      exact equalFields_of_common fields _ _ proper.2 first.2
        (fun key => keys_covered proper.1 second.1 second.2) second.2
termination_by structural left

theorem equalItems_of_common (left middle right : List Json) (proper : ProperItems right)
    (first : equalItems left middle = true) (second : equalItems right middle = true) :
    equalItems left right = true := by
  cases left with
  | nil => cases middle <;> cases right <;> simp_all [equalItems]
  | cons item rest =>
      cases middle with
      | nil => simp [equalItems] at first
      | cons common commons =>
          cases right with
          | nil => simp [equalItems] at second
          | cons other others =>
              simp only [equalItems, Bool.and_eq_true] at first second ⊢
              exact ⟨equals_of_common item common other proper.1 first.1 second.1,
                equalItems_of_common rest commons others proper.2 first.2 second.2⟩
termination_by structural left

theorem equalFields_of_common (left middle right : List (String × Json))
    (proper : ProperFields right) (first : equalFields left middle = true)
    (covered : ∀ key, (Fields.get? middle key).isSome → (Fields.get? right key).isSome)
    (second : equalFields right middle = true) : equalFields left right = true := by
  cases left with
  | nil => rfl
  | cons entry rest =>
      obtain ⟨key, value⟩ := entry
      obtain ⟨⟨common, found, equal⟩, later⟩ :=
        List.forall_mem_cons.mp ((equalFields_iff _ _).mp first)
      obtain ⟨other, held⟩ := Option.isSome_iff_exists.mp (covered key (by simp [found]))
      obtain ⟨common', found', equal'⟩ :=
        (equalFields_iff _ _).mp second _ (Fields.mem_of_get? held)
      obtain rfl := Option.some.inj (found.symm.trans found')
      rw [equalFields, held, Bool.and_eq_true]
      exact ⟨equals_of_common value common other (proper.of_get? held) equal equal',
        equalFields_of_common rest middle right proper ((equalFields_iff _ _).mpr later) covered
          second⟩
termination_by structural left

end

mutual

theorem equals_refl (value : Json) (proper : value.Proper) : value.equals value = true := by
  cases value with
  | arr items => exact equalItems_refl items proper
  | obj fields =>
      rw [equals, beq_self_eq_true, Bool.true_and]
      exact equalFields_refl fields fields proper.2 fun entry member =>
        Fields.get?_of_mem proper.1 member
  | _ => simp [equals, numeric?]

theorem equalItems_refl (items : List Json) (proper : ProperItems items) :
    equalItems items items = true := by
  cases items with
  | nil => rfl
  | cons item rest =>
      rw [equalItems, Bool.and_eq_true]
      exact ⟨equals_refl item proper.1, equalItems_refl rest proper.2⟩

theorem equalFields_refl (fields whole : List (String × Json)) (proper : ProperFields fields)
    (held : ∀ entry ∈ fields, Fields.get? whole entry.1 = some entry.2) :
    equalFields fields whole = true := by
  cases fields with
  | nil => rfl
  | cons entry rest =>
      obtain ⟨key, value⟩ := entry
      have found : Fields.get? whole key = some value := held _ List.mem_cons_self
      rw [equalFields, found, Bool.and_eq_true]
      exact ⟨equals_refl value proper.1, equalFields_refl rest whole proper.2 fun other member =>
        held other (List.mem_cons_of_mem _ member)⟩

end

theorem equals_symm {left right : Json} (proper : left.Proper) (proper' : right.Proper)
    (equal : left.equals right = true) : right.equals left = true :=
  equals_of_common right right left proper (equals_refl right proper') equal

theorem equals_trans {left middle right : Json} (proper : middle.Proper) (proper' : right.Proper)
    (first : left.equals middle = true) (second : middle.equals right = true) :
    left.equals right = true :=
  equals_of_common left middle right proper' first (equals_symm proper proper' second)

end NetworkAdapter.Json
