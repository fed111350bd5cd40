import Mathlib.Data.List.Basic

/-!
# Sorting by a comparison that can raise

A stable sort that only asks `less item other`, and fails as soon as a comparison does. It
succeeds exactly if any two items can be compared, and what it returns is then a sorted
permutation.
-/

namespace NetworkAdapter.FallibleSort

universe u v

variable {Item : Type u} {Error : Type v} (less : Item → Item → Except Error Bool)

/-- Puts an item into a sorted list, behind all items that are not greater. -/
def insert (item : Item) : List Item → Except Error (List Item)
  | [] => .ok [item]
  | first :: rest =>
      match less item first with
      | .error error => .error error
      | .ok true => .ok (item :: first :: rest)
      | .ok false => (insert item rest).map (first :: ·)

/-- Puts the items into a sorted list, one after the other. -/
def insertAll (sorted : List Item) : List Item → Except Error (List Item)
  | [] => .ok sorted
  | item :: rest =>
      match insert less item sorted with
      | .error error => .error error
      | .ok inserted => insertAll inserted rest

/-- The sorted list. -/
def sort (items : List Item) : Except Error (List Item) := insertAll less [] items

/-- The items can be compared. -/
def Comparable (item other : Item) : Prop := ∃ before, less item other = .ok before

/-- The first item may stand before the second one. -/
def NotAfter (item other : Item) : Prop := less other item = .ok false

/-- On the items of a kind the comparison is a strict order, wherever it does not raise. -/
structure Orders (kind : Item → Prop) : Prop where
  asymm : ∀ {item other}, kind item → kind other → less item other = .ok true →
    less other item = .ok false
  symm : ∀ {item other}, kind item → kind other → Comparable less item other →
    Comparable less other item
  trans : ∀ {first second third}, kind first → kind second → kind third →
    NotAfter less first second → NotAfter less second third → NotAfter less first third

variable {less}

/-- Reordering a list leaves any two of its items comparable. -/
theorem Orders.comparable_perm {kind : Item → Prop} (orders : Orders less kind)
    {items reordered : List Item} (perm : items.Perm reordered)
    (fit : ∀ item ∈ items, kind item) (comparable : items.Pairwise (Comparable less)) :
    reordered.Pairwise (Comparable less) := by
  have guarded : items.Pairwise fun item other => kind item → kind other →
      Comparable less item other := comparable.imp fun both _ _ => both
  have turned := guarded.perm perm fun both fits fits' => orders.symm fits' fits (both fits' fits)
  refine turned.imp_of_mem fun member member' both => ?_
  exact both (fit _ (perm.mem_iff.mpr member)) (fit _ (perm.mem_iff.mpr member'))

/-- An insertion that succeeds puts the item first, or into the rest. -/
theorem insert_cons_ok {item first : Item} {rest inserted : List Item}
    (succeeds : insert less item (first :: rest) = .ok inserted) :
    (less item first = .ok true ∧ inserted = item :: first :: rest) ∨
      ∃ others, less item first = .ok false ∧ insert less item rest = .ok others ∧
        inserted = first :: others := by
  rw [insert] at succeeds
  split at succeeds
  · cases succeeds
  · next before => exact .inl ⟨before, (Except.ok.inj succeeds).symm⟩
  · next behind =>
      cases later : insert less item rest with
      | error error =>
          rw [later] at succeeds
          cases succeeds
      | ok others =>
          rw [later] at succeeds
          exact .inr ⟨others, behind, rfl, (Except.ok.inj succeeds).symm⟩

theorem insert_perm {item : Item} {sorted inserted : List Item}
    (succeeds : insert less item sorted = .ok inserted) : inserted.Perm (item :: sorted) := by
  induction sorted generalizing inserted with
  | nil =>
      obtain rfl := Except.ok.inj succeeds
      exact .refl _
  | cons first rest inductionHypothesis =>
      rcases insert_cons_ok succeeds with ⟨_, rfl⟩ | ⟨others, _, later, rfl⟩
      · exact .refl _
      · exact ((inductionHypothesis later).cons first).trans (List.Perm.swap _ _ _)

theorem insert_sorted {kind : Item → Prop} (orders : Orders less kind) {item : Item}
    {sorted inserted : List Item} (fits : kind item) (fit : ∀ other ∈ sorted, kind other)
    (ascending : sorted.Pairwise (NotAfter less))
    (succeeds : insert less item sorted = .ok inserted) : inserted.Pairwise (NotAfter less) := by
  induction sorted generalizing inserted with
  | nil =>
      obtain rfl := Except.ok.inj succeeds
      exact List.pairwise_singleton _ _
  | cons first rest inductionHypothesis =>
      have leads := List.pairwise_cons.mp ascending
      have kinds := List.forall_mem_cons.mp fit
      rcases insert_cons_ok succeeds with ⟨before, rfl⟩ | ⟨others, behind, later, rfl⟩
      · have ahead : NotAfter less item first := orders.asymm fits kinds.1 before
        refine List.pairwise_cons.mpr ⟨List.forall_mem_cons.mpr ⟨ahead, ?_⟩, ascending⟩
        exact fun other member =>
          orders.trans fits kinds.1 (kinds.2 other member) ahead (leads.1 other member)
      · refine List.pairwise_cons.mpr
          ⟨fun other member => ?_, inductionHypothesis kinds.2 leads.2 later⟩
        rcases List.mem_cons.mp ((insert_perm later).mem_iff.mp member) with rfl | inside
        · exact behind
        · exact leads.1 other inside

theorem insert_succeeds {item : Item} {sorted : List Item}
    (comparable : ∀ other ∈ sorted, Comparable less item other) :
    ∃ inserted, insert less item sorted = .ok inserted := by
  induction sorted with
  | nil => exact ⟨_, rfl⟩
  | cons first rest inductionHypothesis =>
      obtain ⟨⟨before, compared⟩, others⟩ := List.forall_mem_cons.mp comparable
      obtain ⟨inserted, later⟩ := inductionHypothesis others
      rw [insert, compared, later]
      cases before with
      | true => exact ⟨_, rfl⟩
      | false => exact ⟨_, rfl⟩

theorem insertAll_sorts {kind : Item → Prop} (orders : Orders less kind)
    {sorted items result : List Item} (fit : ∀ item ∈ sorted ++ items, kind item)
    (ascending : sorted.Pairwise (NotAfter less))
    (succeeds : insertAll less sorted items = .ok result) :
    result.Perm (sorted ++ items) ∧ result.Pairwise (NotAfter less) := by
  induction items generalizing sorted with
  | nil =>
      obtain rfl := Except.ok.inj succeeds
      exact ⟨by simp, ascending⟩
  | cons item rest inductionHypothesis =>
      rw [insertAll] at succeeds
      split at succeeds
      · cases succeeds
      · next inserted found =>
          have moved := (insert_perm found).append_right rest
          have reordered : (inserted ++ rest).Perm (sorted ++ item :: rest) :=
            moved.trans List.perm_middle.symm
          obtain ⟨perm, result_sorted⟩ := inductionHypothesis
            (fun other member => fit other (reordered.mem_iff.mp member))
            (insert_sorted orders (fit item (by simp))
              (fun other member => fit other (List.mem_append_left _ member)) ascending found)
            succeeds
          exact ⟨perm.trans reordered, result_sorted⟩

theorem insertAll_succeeds {kind : Item → Prop} (orders : Orders less kind)
    {sorted items : List Item} (fit : ∀ item ∈ sorted ++ items, kind item)
    (comparable : (sorted ++ items).Pairwise (Comparable less)) :
    ∃ result, insertAll less sorted items = .ok result := by
  induction items generalizing sorted with
  | nil => exact ⟨_, rfl⟩
  | cons item rest inductionHypothesis =>
      have before : ∀ other ∈ sorted, Comparable less item other := fun other member =>
        orders.symm (fit other (List.mem_append_left _ member)) (fit item (by simp))
          ((List.pairwise_append.mp comparable).2.2 other member item (by simp))
      obtain ⟨inserted, found⟩ := insert_succeeds before
      rw [insertAll, found]
      have reordered : (sorted ++ item :: rest).Perm (inserted ++ rest) :=
        List.perm_middle.trans ((insert_perm found).append_right rest).symm
      have fit' : ∀ other ∈ inserted ++ rest, kind other := fun other member =>
        fit other (reordered.mem_iff.mpr member)
      exact inductionHypothesis fit' (orders.comparable_perm reordered fit comparable)

/-- What the sort returns is a sorted permutation of its items. -/
theorem sort_sorts {kind : Item → Prop} (orders : Orders less kind) {items sorted : List Item}
    (fit : ∀ item ∈ items, kind item) (succeeds : sort less items = .ok sorted) :
    sorted.Perm items ∧ sorted.Pairwise (NotAfter less) := by
  have fit' : ∀ item ∈ [] ++ items, kind item := fit
  exact insertAll_sorts orders fit' .nil succeeds

/-- It returns exactly if any two of the items can be compared. -/
theorem sort_succeeds_iff {kind : Item → Prop} (orders : Orders less kind) {items : List Item}
    (fit : ∀ item ∈ items, kind item) :
    (∃ sorted, sort less items = .ok sorted) ↔ items.Pairwise (Comparable less) := by
  constructor
  · rintro ⟨sorted, succeeds⟩
    obtain ⟨perm, ascending⟩ := sort_sorts orders fit succeeds
    have fit' : ∀ item ∈ sorted, kind item := fun item member => fit item (perm.mem_iff.mp member)
    refine orders.comparable_perm perm fit' (ascending.imp_of_mem fun member member' notAfter => ?_)
    exact orders.symm (fit' _ member') (fit' _ member) ⟨false, notAfter⟩
  · intro comparable
    have fit' : ∀ item ∈ [] ++ items, kind item := fit
    exact insertAll_succeeds orders fit' comparable

end NetworkAdapter.FallibleSort
