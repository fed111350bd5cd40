import NetworkAdapter.Std.Json

/-!
# Tables of the document store

`Table` is one TinyDB table: rows carry the document id the store gave them and
the fields of the document. `asyncWrite` and `asyncUpsertByKey` are the two
writers of `db/tiny_db.py` as functions of the table; whether a call reaches the
file at all is the caller's concern.
-/

namespace NetworkAdapter

/-- One document of a table. -/
structure Row where
  docId : Nat
  fields : JsonObject

/-- The documents of a table, in file order. -/
abbrev Table := List Row

/-- The test `query[fieldName] == value`; a document without the field fails it. -/
def Row.matchesField (row : Row) (fieldName : String) (value : Json) : Bool :=
  match Fields.get? row.fields fieldName with
  | some found => found.equals value
  | none => false

namespace Table

/-- The store's next document id is one more than the largest in the table. -/
def nextId (table : Table) : Nat := (table.map Row.docId).foldl max 0 + 1

/-- `table.insert(document)`. -/
def insert (table : Table) (document : JsonObject) : Table :=
  table ++ [⟨table.nextId, document⟩]

/-- `table.update(data, doc_ids=...)` merges the data into the selected rows. -/
def update (table : Table) (data : JsonObject) (selected : Row → Bool) : Table :=
  table.map fun row =>
    if selected row then { row with fields := Fields.merge row.fields data } else row

/-- `data['timestamp'] = now`, the write every upsert makes to its argument first. -/
def timestamped (data : JsonObject) (now : Nat) : JsonObject :=
  Fields.set data "timestamp" (.number now)

/-- `async_write(table_name, data)`. -/
def asyncWrite (table : Table) (data : JsonObject) : Table := table.insert data

/-- `async_upsert_by_key(table_name, data, fieldName, value)` at clock reading `now`. -/
def asyncUpsertByKey (table : Table) (data : JsonObject) (fieldName : String) (value : Json)
    (now : Nat) : Table :=
  let data := timestamped data now
  if table.any fun row => row.matchesField fieldName value then
    table.update data fun row => row.matchesField fieldName value
  else
    table.insert data

/-- `async_read_by_key_value(table_name, fieldName, value)`: the documents that match, or `None`. -/
def asyncReadByKeyValue (table : Table) (fieldName : String) (value : Json) :
    Option (List Json) :=
  let results := (table.filter fun row => row.matchesField fieldName value).map fun row =>
    Json.obj row.fields
  if 0 < results.length then some results else none

/-- A new document gets an id that no document has. -/
theorem docId_lt_nextId {table : Table} {row : Row} (member : row ∈ table) :
    row.docId < table.nextId := by
  have bounded : ∀ (ids : List Nat) (start : Nat),
      start ≤ ids.foldl max start ∧ ∀ docId ∈ ids, docId ≤ ids.foldl max start := by
    intro ids
    induction ids with
    | nil => simp
    | cons first rest inductionHypothesis =>
        intro start
        obtain ⟨above, members⟩ := inductionHypothesis (max start first)
        refine ⟨Nat.le_trans (Nat.le_max_left _ _) above, fun docId inside => ?_⟩
        rcases List.mem_cons.mp inside with rfl | later
        · exact Nat.le_trans (Nat.le_max_right _ _) above
        · exact members docId later
  exact Nat.lt_succ_of_le ((bounded _ 0).2 _ (List.mem_map_of_mem member))

theorem mem_insert_of_mem {table : Table} {row : Row} (member : row ∈ table)
    (data : JsonObject) : row ∈ table.insert data :=
  List.mem_append_left _ member

/-- What a row becomes in an upsert: itself, or itself with the data merged in if it matched. -/
theorem upsert_keeps {table : Table} {row : Row} (member : row ∈ table) (data : JsonObject)
    (fieldName : String) (value : Json) (now : Nat) :
    ∃ after ∈ table.asyncUpsertByKey data fieldName value now, after.docId = row.docId ∧
      (after.fields = row.fields ∨
        row.matchesField fieldName value = true ∧
          after.fields = Fields.merge row.fields (timestamped data now)) := by
  unfold asyncUpsertByKey
  split
  · by_cases matched : row.matchesField fieldName value = true
    · refine ⟨{ row with fields := Fields.merge row.fields (timestamped data now) },
        List.mem_map.mpr ⟨row, member, by simp [matched]⟩, rfl, .inr ⟨matched, rfl⟩⟩
    · exact ⟨row, List.mem_map.mpr ⟨row, member, by simp [matched]⟩, rfl, .inl rfl⟩
  · exact ⟨row, mem_insert_of_mem member _, rfl, .inl rfl⟩

/-- An upsert leaves a row which is the stamped data, or has it merged in. -/
theorem upsert_stores (table : Table) (data : JsonObject) (fieldName : String) (value : Json)
    (now : Nat) :
    ∃ after ∈ table.asyncUpsertByKey data fieldName value now,
      after.fields = timestamped data now ∨
        ∃ before, after.fields = Fields.merge before (timestamped data now) := by
  unfold asyncUpsertByKey
  split
  · rename_i found
    obtain ⟨row, member, matched⟩ := List.any_eq_true.mp found
    exact ⟨{ row with fields := Fields.merge row.fields (timestamped data now) },
      List.mem_map.mpr ⟨row, member, by simp [matched]⟩, .inr ⟨row.fields, rfl⟩⟩
  · exact ⟨⟨table.nextId, timestamped data now⟩,
      List.mem_append_right _ (List.mem_singleton_self _), .inl rfl⟩

/-- The stamp touches no other field. -/
@[simp] theorem get?_timestamped (data : JsonObject) (now : Nat) (key : String) :
    Fields.get? (timestamped data now) key =
      if "timestamp" = key then some (.number now) else Fields.get? data key :=
  Fields.get?_set data "timestamp" (.number now) key

end Table
end NetworkAdapter
