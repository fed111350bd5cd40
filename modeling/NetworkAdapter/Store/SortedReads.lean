import NetworkAdapter.Std.Comparison
import NetworkAdapter.Store.TinyDb

/-!
# Reading a table in the order of time

`async_read_sort_by_timestamp` of `db/tiny_db.py` sorts by a field that not every writer of
a table stores. `readsInOrder_iff` says when it returns, and that it is in order then.
-/

namespace NetworkAdapter

open FallibleSort (Comparable NotAfter Orders sort sort_sorts sort_succeeds_iff)

namespace Row

/-- `x['timestamp']`. -/
def timestamp (row : Row) : Except PyError Json := (Json.obj row.fields).subscript "timestamp"

/-- The comparison of two documents by their timestamps. -/
def earlier (row other : Row) : Except PyError Bool :=
  match row.timestamp, other.timestamp with
  | .ok time, .ok time' => time.lessThan time'
  | .error error, _ => .error error
  | _, .error error => .error error

end Row

namespace Table

/-- The documents a read is about: those of the search, if it names a field. -/
def selected (table : Table) (fieldName : Option String) (fieldValue : Json) : Table :=
  match fieldName with
  | some name =>
      if name = "" then table else table.filter fun row => row.matchesField name fieldValue
  | none => table

/-- `results.sort(key=lambda x: x['timestamp'])`, which takes all the keys first. -/
def sortByTimestamp (results : Table) : Except PyError Table := do
  let _ ← results.mapM Row.timestamp
  sort Row.earlier results

/-- `async_read_sort_by_timestamp(table_name, limit, order_by_time, field_name, field_value)`. -/
def asyncReadSortByTimestamp (table : Table) (limit : Int) (orderByTime : Bool)
    (fieldName : Option String) (fieldValue : Json) : Except PyError Table := do
  let results ←
    if orderByTime then sortByTimestamp (table.selected fieldName fieldValue)
    else pure (table.selected fieldName fieldValue)
  pure (if 0 < limit then results.take limit.toNat else results)

/-- No document stands behind one with a later timestamp. -/
def Ascending (rows : Table) : Prop :=
  rows.Pairwise fun row other => ∃ time time', row.timestamp = .ok time ∧
    other.timestamp = .ok time' ∧ time'.lessThan time = .ok false

/-- The read returns the matching documents, or the first of them, in the order of time. -/
def ReadsInOrder (table : Table) (limit : Int) (fieldName : Option String) (fieldValue : Json) :
    Prop :=
  ∃ sorted : Table, sorted.Perm (table.selected fieldName fieldValue) ∧ Ascending sorted ∧
    table.asyncReadSortByTimestamp limit true fieldName fieldValue =
      .ok (if 0 < limit then sorted.take limit.toNat else sorted)

/-- Every document has a timestamp, and any two of these can be compared. -/
structure Sortable (rows : Table) : Prop where
  stamped : ∀ row ∈ rows, ∃ time, row.timestamp = .ok time
  comparable : rows.Pairwise fun row other => ∃ time time' before, row.timestamp = .ok time ∧
    other.timestamp = .ok time' ∧ time.lessThan time' = .ok before

/-- No object in a timestamp has a key twice. -/
def ProperTimestamps (rows : Table) : Prop :=
  ∀ row ∈ rows, ∀ time, row.timestamp = .ok time → time.Proper

/-- A document with a timestamp, in which no object has a key twice. -/
def Stamped (row : Row) : Prop := ∃ time, row.timestamp = .ok time ∧ time.Proper

theorem earlier_of_timestamps {row other : Row} {time time' : Json}
    (stamped : row.timestamp = .ok time) (stamped' : other.timestamp = .ok time') :
    row.earlier other = time.lessThan time' := by
  rw [Row.earlier, stamped, stamped']

/-- Documents with timestamps are ordered as these are. -/
theorem earlier_orders : Orders Row.earlier Stamped where
  asymm := by
    rintro row other ⟨time, stamped, proper⟩ ⟨time', stamped', proper'⟩ before
    rw [earlier_of_timestamps stamped stamped'] at before
    rw [earlier_of_timestamps stamped' stamped]
    exact Json.lessThan_orders.asymm proper proper' before
  symm := by
    rintro row other ⟨time, stamped, proper⟩ ⟨time', stamped', proper'⟩ comparable
    unfold Comparable at comparable ⊢
    rw [earlier_of_timestamps stamped stamped'] at comparable
    rw [earlier_of_timestamps stamped' stamped]
    exact Json.lessThan_orders.symm proper proper' comparable
  trans := by
    rintro first second third ⟨time, stamped, proper⟩ ⟨time', stamped', proper'⟩
      ⟨time'', stamped'', proper''⟩ below above
    unfold NotAfter at below above ⊢
    rw [earlier_of_timestamps stamped' stamped] at below
    rw [earlier_of_timestamps stamped'' stamped'] at above
    rw [earlier_of_timestamps stamped'' stamped]
    exact Json.lessThan_orders.trans proper proper' proper'' below above

/-- All the keys can be taken exactly if every document has one. -/
theorem mapM_timestamp_iff (rows : Table) :
    (∃ times, rows.mapM Row.timestamp = .ok times) ↔
      ∀ row ∈ rows, ∃ time, row.timestamp = .ok time := by
  induction rows with
  | nil => simp [pure, Except.pure]
  | cons row rest inductionHypothesis =>
      rw [List.forall_mem_cons, ← inductionHypothesis, List.mapM_cons]
      cases row.timestamp with
      | error error => simp [bind, Except.bind]
      | ok time => cases rest.mapM Row.timestamp <;> simp [bind, Except.bind, pure, Except.pure]

theorem stamped_of_keys {rows : Table} (proper : rows.ProperTimestamps)
    (keys : ∀ row ∈ rows, ∃ time, row.timestamp = .ok time) : ∀ row ∈ rows, Stamped row := by
  intro row member
  obtain ⟨time, stamped⟩ := keys row member
  exact ⟨time, stamped, proper row member time stamped⟩

theorem comparable_iff {row other : Row} :
    Comparable Row.earlier row other ↔ ∃ time time' before, row.timestamp = .ok time ∧
      other.timestamp = .ok time' ∧ time.lessThan time' = .ok before := by
  unfold Comparable Row.earlier
  cases row.timestamp <;> cases other.timestamp <;> simp

theorem sortByTimestamp_eq_ok {rows sorted : Table} :
    sortByTimestamp rows = .ok sorted ↔
      (∀ row ∈ rows, ∃ time, row.timestamp = .ok time) ∧ sort Row.earlier rows = .ok sorted := by
  rw [← mapM_timestamp_iff, sortByTimestamp]
  cases rows.mapM Row.timestamp <;> simp [bind, Except.bind]

/-- The sort returns exactly if the documents are sortable. -/
theorem sortByTimestamp_iff {rows : Table} (proper : rows.ProperTimestamps) :
    (∃ sorted, sortByTimestamp rows = .ok sorted) ↔ rows.Sortable := by
  simp only [sortByTimestamp_eq_ok, exists_and_left]
  constructor
  · rintro ⟨keys, succeeds⟩
    have comparable := (sort_succeeds_iff earlier_orders (stamped_of_keys proper keys)).mp succeeds
    exact ⟨keys, comparable.imp comparable_iff.mp⟩
  · rintro ⟨keys, comparable⟩
    exact ⟨keys, (sort_succeeds_iff earlier_orders (stamped_of_keys proper keys)).mpr
      (comparable.imp comparable_iff.mpr)⟩

/-- What it returns is a permutation of the documents, in the order of time. -/
theorem sortByTimestamp_sorts {rows sorted : Table} (proper : rows.ProperTimestamps)
    (succeeds : sortByTimestamp rows = .ok sorted) : sorted.Perm rows ∧ Ascending sorted := by
  obtain ⟨keys, succeeds⟩ := sortByTimestamp_eq_ok.mp succeeds
  have fit := stamped_of_keys proper keys
  obtain ⟨perm, ascending⟩ := sort_sorts earlier_orders fit succeeds
  refine ⟨perm, ascending.imp_of_mem fun {row other} member member' notAfter => ?_⟩
  obtain ⟨time, stamped, _⟩ := fit row (perm.mem_iff.mp member)
  obtain ⟨time', stamped', _⟩ := fit other (perm.mem_iff.mp member')
  unfold NotAfter at notAfter
  rw [earlier_of_timestamps stamped' stamped] at notAfter
  exact ⟨time, time', stamped, stamped', notAfter⟩

theorem mem_of_mem_selected {table : Table} {fieldName : Option String} {fieldValue : Json}
    {row : Row} (member : row ∈ table.selected fieldName fieldValue) : row ∈ table := by
  unfold Table.selected at member
  split at member
  · split at member
    · exact member
    · exact List.mem_of_mem_filter member
  · exact member

/-- A read in the order of time returns what it should exactly if the matching documents are
sortable. -/
theorem readsInOrder_iff {table : Table} (proper : table.ProperTimestamps) (limit : Int)
    (fieldName : Option String) (fieldValue : Json) :
    table.ReadsInOrder limit fieldName fieldValue ↔
      (table.selected fieldName fieldValue).Sortable := by
  have inside : (table.selected fieldName fieldValue).ProperTimestamps :=
    fun row member => proper row (mem_of_mem_selected member)
  rw [← sortByTimestamp_iff inside]
  unfold ReadsInOrder asyncReadSortByTimestamp
  rw [if_pos rfl]
  constructor
  · rintro ⟨sorted, _, _, returns⟩
    cases outcome : sortByTimestamp (table.selected fieldName fieldValue) with
    | ok results => exact ⟨results, rfl⟩
    | error error =>
        rw [outcome] at returns
        cases returns
  · rintro ⟨sorted, succeeds⟩
    obtain ⟨perm, ascending⟩ := sortByTimestamp_sorts inside succeeds
    exact ⟨sorted, perm, ascending, by rw [succeeds]; rfl⟩

end Table
end NetworkAdapter
