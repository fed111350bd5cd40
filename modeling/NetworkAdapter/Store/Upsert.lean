import NetworkAdapter.Store.TinyDb

/-!
# What an upsert does to the rows of its key

`async_upsert_by_key` searches by one value and writes data that has a value of its
own in the field searched by. If that is the value searched by, the call leaves the
rows of this value updated, or one such row; if it is another one, it leaves none.
-/

namespace NetworkAdapter

theorem Row.matchesField_iff {row : Row} {fieldName : String} {value : Json} :
    row.matchesField fieldName value = true ↔
      ∃ found, Fields.get? row.fields fieldName = some found ∧ found.equals value = true := by
  unfold matchesField
  cases Fields.get? row.fields fieldName <;> simp

theorem Row.matchesField_text {row : Row} {fieldName text : String} :
    row.matchesField fieldName (.str text) = true ↔
      Fields.get? row.fields fieldName = some (.str text) := by
  unfold matchesField
  cases Fields.get? row.fields fieldName <;> simp

section Edit

variable {Item : Type} {passes : Item → Bool} {edit : Item → Item}

/-- An edit of the items that pass a test, which then still pass, changes no outcome. -/
theorem passes_edit (stays : ∀ item, passes item = true → passes (edit item) = true) :
    (passes ∘ fun item => if passes item then edit item else item) = passes := by
  funext item
  cases pass : passes item with
  | false => simp [pass]
  | true => simp [pass, stays item pass]

/-- It edits what passes. -/
theorem filter_map_edit (stays : ∀ item, passes item = true → passes (edit item) = true)
    (items : List Item) :
    (items.map fun item => if passes item then edit item else item).filter passes =
      (items.filter passes).map edit := by
  rw [List.filter_map, passes_edit stays]
  exact List.map_congr_left fun item member => if_pos (List.mem_filter.mp member).2

/-- It leaves the other items alone. -/
theorem filter_not_map_edit (stays : ∀ item, passes item = true → passes (edit item) = true)
    (items : List Item) :
    (items.map fun item => if passes item then edit item else item).filter
        (fun item => !passes item) = items.filter fun item => !passes item := by
  have outcomes : ((fun item => !passes item) ∘ fun item => if passes item then edit item else item)
      = fun item => !passes item :=
    congrArg (fun test : Item → Bool => fun item => !test item) (passes_edit stays)
  rw [List.filter_map, outcomes]
  refine (List.map_congr_left fun item member => ?_).trans (List.map_id _)
  have failed : passes item = false := by simpa using (List.mem_filter.mp member).2
  simp [failed]

/-- If what is edited no longer passes, nothing does. -/
theorem filter_map_edit_eq_nil (leaves : ∀ item, passes item = true → passes (edit item) = false)
    (items : List Item) :
    (items.map fun item => if passes item then edit item else item).filter passes = [] := by
  rw [List.filter_map, List.map_eq_nil_iff, List.filter_eq_nil_iff]
  intro item _
  cases pass : passes item with
  | false => simp [pass]
  | true => simp [pass, leaves item pass]

end Edit

namespace Table

/-- The rows found by a field. -/
def foundBy (table : Table) (fieldName : String) (value : Json) : Table :=
  table.filter fun row => row.matchesField fieldName value

/-- The rows not found by it. -/
def missedBy (table : Table) (fieldName : String) (value : Json) : Table :=
  table.filter fun row => !row.matchesField fieldName value

/-- The row an upsert inserts. -/
def inserted (table : Table) (data : JsonObject) (now : Nat) : Row :=
  ⟨table.nextId, timestamped data now⟩

/-- What an upsert makes of a row it found. -/
def merged (data : JsonObject) (now : Nat) (row : Row) : Row :=
  { row with fields := Fields.merge row.fields (timestamped data now) }

theorem upsert_of_none {table : Table} {fieldName : String} {value : Json}
    (none : table.foundBy fieldName value = []) (data : JsonObject) (now : Nat) :
    table.asyncUpsertByKey data fieldName value now = table ++ [table.inserted data now] := by
  have unfound : ¬ (table.any fun row => row.matchesField fieldName value) = true := by
    simpa [foundBy, List.filter_eq_nil_iff] using none
  unfold asyncUpsertByKey
  rw [if_neg unfound]
  rfl

theorem upsert_of_some {table : Table} {fieldName : String} {value : Json}
    (some : table.foundBy fieldName value ≠ []) (data : JsonObject) (now : Nat) :
    table.asyncUpsertByKey data fieldName value now = table.map fun row =>
      if row.matchesField fieldName value then merged data now row else row := by
  have found : (table.any fun row => row.matchesField fieldName value) = true := by
    simpa [foundBy, List.filter_eq_nil_iff] using some
  unfold asyncUpsertByKey
  rw [if_pos found]
  rfl

section Carried

variable {fieldName : String} {data : JsonObject} {own value : Json}

/-- Both kinds of rows an upsert leaves have the data's own value in any field but the stamp. -/
theorem get?_inserted (stampless : "timestamp" ≠ fieldName)
    (carried : Fields.get? data fieldName = some own) (table : Table) (now : Nat) :
    Fields.get? (table.inserted data now).fields fieldName = some own := by
  simp [inserted, stampless, carried]

theorem get?_merged (stampless : "timestamp" ≠ fieldName)
    (carried : Fields.get? data fieldName = some own) (now : Nat) (row : Row) :
    Fields.get? (merged data now row).fields fieldName = some own := by
  simp [merged, stampless, carried]

theorem matches_inserted (stampless : "timestamp" ≠ fieldName)
    (carried : Fields.get? data fieldName = some own) (equal : own.equals value = true)
    (table : Table) (now : Nat) :
    (table.inserted data now).matchesField fieldName value = true :=
  Row.matchesField_iff.mpr ⟨own, get?_inserted stampless carried table now, equal⟩

theorem matches_merged (stampless : "timestamp" ≠ fieldName)
    (carried : Fields.get? data fieldName = some own) (equal : own.equals value = true)
    (now : Nat) (row : Row) (_ : row.matchesField fieldName value = true) :
    (merged data now row).matchesField fieldName value = true :=
  Row.matchesField_iff.mpr ⟨own, get?_merged stampless carried now row, equal⟩

/-- Data with the value searched by updates the rows that have it, or becomes the one
row that has it. -/
theorem foundBy_upsert_own (stampless : "timestamp" ≠ fieldName)
    (carried : Fields.get? data fieldName = some own) (equal : own.equals value = true)
    (table : Table) (now : Nat) :
    (table.asyncUpsertByKey data fieldName value now).foundBy fieldName value =
      if table.foundBy fieldName value = [] then [table.inserted data now]
      else (table.foundBy fieldName value).map (merged data now) := by
  split
  · next none =>
      rw [upsert_of_none none, foundBy, List.filter_append]
      exact (congrArg (· ++ _) none).trans
        (by simp [matches_inserted stampless carried equal table now])
  · next some =>
      rw [upsert_of_some some]
      exact filter_map_edit (matches_merged stampless carried equal now) table

/-- It leaves all other rows alone. -/
theorem missedBy_upsert_own (stampless : "timestamp" ≠ fieldName)
    (carried : Fields.get? data fieldName = some own) (equal : own.equals value = true)
    (table : Table) (now : Nat) :
    (table.asyncUpsertByKey data fieldName value now).missedBy fieldName value =
      table.missedBy fieldName value := by
  by_cases none : table.foundBy fieldName value = []
  · rw [upsert_of_none none, missedBy, List.filter_append]
    simp [missedBy, matches_inserted stampless carried equal table now]
  · rw [upsert_of_some none]
    exact filter_not_map_edit (matches_merged stampless carried equal now) table

/-- So a search for another text finds what it found. -/
theorem foundBy_upsert_other {other text : String}
    (stampless : "timestamp" ≠ fieldName)
    (carried : Fields.get? data fieldName = some (.str other)) (apart : other ≠ text)
    (table : Table) (now : Nat) :
    (table.asyncUpsertByKey data fieldName (.str other) now).foundBy fieldName (.str text) =
      table.foundBy fieldName (.str text) := by
  have among (rows : Table) : rows.foundBy fieldName (.str text) =
      (rows.missedBy fieldName (.str other)).foundBy fieldName (.str text) := by
    unfold foundBy missedBy
    rw [List.filter_filter]
    refine List.filter_congr fun row _ => ?_
    cases found : row.matchesField fieldName (.str text) with
    | false => simp
    | true =>
        have unfound : row.matchesField fieldName (.str other) = false := by
          rw [← Bool.not_eq_true, Row.matchesField_text, Row.matchesField_text.mp found]
          simpa using Ne.symm apart
        simp [unfound]
  rw [among, missedBy_upsert_own stampless carried (Json.str_equals_self other), ← among]

/-- Data with another value leaves no row that has the one searched by. -/
theorem foundBy_upsert_foreign (stampless : "timestamp" ≠ fieldName)
    (carried : Fields.get? data fieldName = some own) {text : String} (foreign : own ≠ .str text)
    (table : Table) (now : Nat) :
    (table.asyncUpsertByKey data fieldName (.str text) now).foundBy fieldName (.str text) = [] := by
  have unmatched {row : Row} (has : Fields.get? row.fields fieldName = some own) :
      row.matchesField fieldName (.str text) = false := by
    rw [← Bool.not_eq_true, Row.matchesField_text, has]
    exact fun same => foreign (Option.some.inj same)
  by_cases none : table.foundBy fieldName (.str text) = []
  · rw [upsert_of_none none, foundBy, List.filter_append]
    exact (congrArg (· ++ _) none).trans
      (by simp [unmatched (get?_inserted stampless carried table now)])
  · have leaves (row : Row) (_ : row.matchesField fieldName (.str text) = true) :
        (merged data now row).matchesField fieldName (.str text) = false :=
      unmatched (get?_merged stampless carried now row)
    rw [upsert_of_some none]
    exact filter_map_edit_eq_nil leaves table

end Carried
end Table
end NetworkAdapter
