import Mathlib.Algebra.Order.Ring.Unbundled.Rat
import Mathlib.Data.String.Basic
import NetworkAdapter.Std.Equality
import NetworkAdapter.Std.FallibleSort

/-!
# The order of values

`Json.lessThan` is the language's `<`: numbers, among them `True` and `False`, by value, texts
by their characters, lists by the first items that differ, and else by length. Anything else
raises a `TypeError`, as does any mixture. Where it does not raise it is an order.
-/

namespace NetworkAdapter.Json

/-- A number on the left of `<`. -/
def lessNumber (number : Rat) (right : Json) : Except PyError Bool :=
  match right.numeric? with
  | some other => .ok (decide (number < other))
  | none => .error .typeError

mutual

/-- `left < right`. -/
def lessThan : Json → Json → Except PyError Bool
  | .null, _ => .error .typeError
  | .bool value, right => lessNumber (if value then 1 else 0) right
  | .number value, right => lessNumber value right
  | .str text, right =>
      match right with
      | .str other => .ok (decide (text < other))
      | _ => .error .typeError
  | .arr items, right =>
      match right with
      | .arr others => lessItems items others
      | _ => .error .typeError
  | .obj _, _ => .error .typeError

/-- The first items that differ decide, or the lengths. -/
def lessItems : List Json → List Json → Except PyError Bool
  | [], right => .ok !right.isEmpty
  | item :: rest, right =>
      match right with
      | [] => .ok false
      | other :: others => if item.equals other then lessItems rest others else lessThan item other

end

mutual

/-- Equal values compare alike. -/
theorem lessThan_congr (left right other : Json) (proper : left.Proper) (proper' : right.Proper)
    (proper'' : other.Proper) (equal : left.equals right = true) :
    left.lessThan other = right.lessThan other ∧ other.lessThan left = other.lessThan right := by
  cases left with
  | arr items =>
      cases right with
      | arr items' =>
          cases other with
          | arr others => exact lessItems_congr items items' others proper proper' proper'' equal
          | _ => simp [lessThan, lessNumber, numeric?]
      | _ => simp [equals] at equal
  | _ =>
      cases right <;> try simp [equals, numeric?] at equal
      all_goals cases other <;> simp [lessThan, lessNumber, numeric?, equal]

theorem lessItems_congr (left right other : List Json) (proper : ProperItems left)
    (proper' : ProperItems right) (proper'' : ProperItems other)
    (equal : equalItems left right = true) :
    lessItems left other = lessItems right other ∧
      lessItems other left = lessItems other right := by
  cases left with
  | nil =>
      cases right with
      | nil => exact ⟨rfl, rfl⟩
      | cons => simp [equalItems] at equal
  | cons item rest =>
      cases right with
      | nil => simp [equalItems] at equal
      | cons item' rest' =>
          cases other with
          | nil => exact ⟨rfl, rfl⟩
          | cons compared others =>
              rw [equalItems, Bool.and_eq_true] at equal
              have heads := lessThan_congr item item' compared proper.1 proper'.1 proper''.1 equal.1
              have tails := lessItems_congr rest rest' others proper.2 proper'.2 proper''.2 equal.2
              have equal' := equals_symm proper.1 proper'.1 equal.1
              have left_same : item.equals compared = item'.equals compared :=
                Bool.eq_iff_iff.mpr ⟨equals_trans proper.1 proper''.1 equal',
                  equals_trans proper'.1 proper''.1 equal.1⟩
              have right_same : compared.equals item = compared.equals item' :=
                Bool.eq_iff_iff.mpr ⟨fun same => equals_trans proper.1 proper'.1 same equal.1,
                  fun same => equals_trans proper'.1 proper.1 same equal'⟩
              simp only [lessItems, left_same, right_same, heads.1, heads.2, tails.1, tails.2,
                and_self]

end

/-- What two comparisons, one way and the other, come to. -/
inductive Compared (equal : Bool) : Except PyError Bool → Except PyError Bool → Prop where
  | before : Compared equal (.ok true) (.ok false)
  | behind : Compared equal (.ok false) (.ok true)
  | level (same : equal = true) : Compared equal (.ok false) (.ok false)
  | incomparable : Compared equal (.error .typeError) (.error .typeError)

/-- Comparing by a key of some linear order. -/
theorem Compared.of_key {Key : Type} [LinearOrder Key] {left right : Key}
    {first second equal : Bool} (less : first = true ↔ left < right)
    (greater : second = true ↔ right < left) (level : left = right → equal = true) :
    Compared equal (.ok first) (.ok second) := by
  rcases lt_trichotomy left right with below | same | above
  · rw [less.mpr below, Bool.eq_false_iff.mpr (mt greater.mp (lt_asymm below))]
    exact .before
  · rw [Bool.eq_false_iff.mpr (mt less.mp same.not_lt),
      Bool.eq_false_iff.mpr (mt greater.mp same.not_gt)]
    exact .level (level same)
  · rw [greater.mpr above, Bool.eq_false_iff.mpr (mt less.mp (lt_asymm above))]
    exact .behind

/-- Truth values and numbers are compared as numbers. -/
theorem compared_of_numeric {left right : Json} {number other : Rat}
    (first : left.numeric? = some number) (second : right.numeric? = some other) :
    Compared (left.equals right) (left.lessThan right) (right.lessThan left) := by
  have less {value compared : Json} {below above : Rat} (numeric : value.numeric? = some below)
      (numeric' : compared.numeric? = some above) :
      value.lessThan compared = .ok (decide (below < above)) := by
    cases value <;> simp [numeric?] at numeric <;>
      simp [lessThan, lessNumber, numeric', numeric]
  rw [less first second, less second first]
  refine .of_key decide_eq_true_iff decide_eq_true_iff fun same => ?_
  cases left <;> simp [numeric?] at first <;> simp [equals, second, first, same]

mutual

/-- Two values stand in one order or the other, or are equal, or cannot be compared. -/
theorem lessThan_compared (left right : Json) (proper : left.Proper) (proper' : right.Proper) :
    Compared (left.equals right) (left.lessThan right) (right.lessThan left) := by
  cases left with
  | arr items =>
      cases right with
      | arr others => exact lessItems_compared items others proper proper'
      | _ => exact .incomparable
  | str text =>
      cases right with
      | str other =>
          exact .of_key decide_eq_true_iff decide_eq_true_iff fun same => by simp [equals, same]
      | _ => exact .incomparable
  | bool value =>
      cases right with
      | bool other => exact compared_of_numeric rfl rfl
      | number other => exact compared_of_numeric rfl rfl
      | _ => exact .incomparable
  | number value =>
      cases right with
      | bool other => exact compared_of_numeric rfl rfl
      | number other => exact compared_of_numeric rfl rfl
      | _ => exact .incomparable
  | _ => cases right <;> exact .incomparable

theorem lessItems_compared (left right : List Json) (proper : ProperItems left)
    (proper' : ProperItems right) :
    Compared (equalItems left right) (lessItems left right) (lessItems right left) := by
  cases left with
  | nil =>
      cases right with
      | nil => exact .level rfl
      | cons other others => exact .before
  | cons item rest =>
      cases right with
      | nil => exact .behind
      | cons other others =>
          have heads := lessThan_compared item other proper.1 proper'.1
          have tails := lessItems_compared rest others proper.2 proper'.2
          have mirrored : other.equals item = item.equals other :=
            Bool.eq_iff_iff.mpr ⟨equals_symm proper'.1 proper.1, equals_symm proper.1 proper'.1⟩
          simp only [lessItems, equalItems, mirrored]
          cases same : item.equals other with
          | true => simpa using tails
          | false => simpa [same] using heads

end

open FallibleSort (Comparable NotAfter Orders)

/-- Of two values that are not equal at most one stands behind the other. -/
theorem NotAfter.unless_equal {left right : Json} (proper : left.Proper) (proper' : right.Proper)
    (apart : left.equals right = false) (notAfter : NotAfter lessThan left right) :
    ¬ NotAfter lessThan right left := by
  intro reversed
  unfold NotAfter at notAfter reversed
  have compared := lessThan_compared left right proper proper'
  rw [notAfter, reversed, apart] at compared
  cases compared with
  | level same => cases same

mutual

theorem lessThan_trans (first second third : Json) (proper : first.Proper)
    (proper' : second.Proper) (proper'' : third.Proper)
    (below : second.lessThan first = .ok false) (above : third.lessThan second = .ok false) :
    third.lessThan first = .ok false := by
  cases first with
  | arr items =>
      cases second with
      | arr items' =>
          cases third with
          | arr items'' =>
              exact lessItems_trans items items' items'' proper proper' proper'' below above
          | _ => simp [lessThan, lessNumber, numeric?] at above
      | _ => simp [lessThan, lessNumber, numeric?] at below
  | str text =>
      cases second with
      | str text' =>
          cases third with
          | str text'' =>
              simp only [lessThan, Except.ok.injEq, decide_eq_false_iff_not, not_lt] at *
              exact le_trans below above
          | _ => simp [lessThan, lessNumber, numeric?] at above
      | _ => simp [lessThan, lessNumber, numeric?] at below
  | bool value =>
      cases second <;> try simp [lessThan, lessNumber, numeric?] at below
      all_goals cases third <;> try simp [lessThan, lessNumber, numeric?] at above
      all_goals
        simp only [lessThan, lessNumber, numeric?, Except.ok.injEq, decide_eq_false_iff_not, not_lt]
        exact le_trans below above
  | number value =>
      cases second <;> try simp [lessThan, lessNumber, numeric?] at below
      all_goals cases third <;> try simp [lessThan, lessNumber, numeric?] at above
      all_goals
        simp only [lessThan, lessNumber, numeric?, Except.ok.injEq, decide_eq_false_iff_not, not_lt]
        exact le_trans below above
  | _ => cases second <;> simp [lessThan, lessNumber, numeric?] at below

theorem lessItems_trans (first second third : List Json) (proper : ProperItems first)
    (proper' : ProperItems second) (proper'' : ProperItems third)
    (below : lessItems second first = .ok false) (above : lessItems third second = .ok false) :
    lessItems third first = .ok false := by
  cases first with
  | nil =>
      cases third with
      | nil => rfl
      | cons => rfl
  | cons item rest =>
      cases second with
      | nil => simp [lessItems] at below
      | cons item' rest' =>
          cases third with
          | nil => simp [lessItems] at above
          | cons item'' rest'' =>
              have symm {left right : Json} := @equals_symm left right
              have trans {left middle right : Json} := @equals_trans left middle right
              simp only [lessItems] at below above ⊢
              by_cases low : item'.equals item = true
              · have turned := symm proper'.1 proper.1 low
                rw [if_pos low] at below
                by_cases high : item''.equals item' = true
                · rw [if_pos high] at above
                  rw [if_pos (trans proper'.1 proper.1 high low)]
                  exact lessItems_trans rest rest' rest'' proper.2 proper'.2 proper''.2 below above
                · rw [if_neg high] at above
                  rw [if_neg fun same => high (trans proper.1 proper'.1 same turned)]
                  exact (lessThan_congr item' item item'' proper'.1 proper.1 proper''.1
                    low).2.symm.trans above
              · rw [if_neg low] at below
                by_cases high : item''.equals item' = true
                · have turned := symm proper''.1 proper'.1 high
                  rw [if_neg fun same => low (trans proper''.1 proper.1 turned same)]
                  exact (lessThan_congr item'' item' item proper''.1 proper'.1 proper.1
                    high).1.trans below
                · rw [if_neg high] at above
                  -- Were the outer two equal, the middle one would stand on both sides of them.
                  have apart : ¬ item''.equals item = true := by
                    intro same
                    have both := (lessThan_congr item'' item item' proper''.1 proper.1 proper'.1
                      same).2.trans below
                    exact NotAfter.unless_equal proper''.1 proper'.1 (Bool.eq_false_iff.mpr high)
                      both above
                  rw [if_neg apart]
                  exact lessThan_trans item item' item'' proper.1 proper'.1 proper''.1 below above

end

/-- On values in which no object has a key twice, `<` is an order wherever it does not raise. -/
theorem lessThan_orders : Orders lessThan Proper where
  asymm := by
    intro left right proper proper' less
    have compared := lessThan_compared left right proper proper'
    rw [less] at compared
    generalize right.lessThan left = reversed at compared
    cases compared
    rfl
  symm := by
    rintro left right proper proper' ⟨before, decided⟩
    have compared := lessThan_compared left right proper proper'
    rw [decided] at compared
    unfold Comparable
    generalize right.lessThan left = reversed at compared
    cases compared <;> exact ⟨_, rfl⟩
  trans := fun proper proper' proper'' below above =>
    lessThan_trans _ _ _ proper proper' proper'' below above

end NetworkAdapter.Json
