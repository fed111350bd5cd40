import NetworkAdapter.Semantics.Transaction
import NetworkAdapter.Store.TinyDb
import Mathlib.Data.List.Nodup

/-!
# Concurrent callers of the document store

Every call of `db/tiny_db.py` opens `db.json` anew and holds no lock, so calls
from different threads meet in the file alone. A call is the transaction of its
storage accesses: a search is one read, and an insertion, an update or a
truncation is a read of the whole file followed by a write of it. `perform` is
the same call with the file to itself.
-/

namespace NetworkAdapter

open Execution Transaction

/-- The documents of a table. The file keys them by their ids, so no id occurs twice. -/
structure Documents where
  rows : Table
  distinct : (rows.map Row.docId).Nodup

/-- `db.json`: the tables under their names. -/
abbrev File := Dict String Documents

namespace Table

/-- An update moves no document. -/
@[simp] theorem map_docId_update (table : Table) (data : JsonObject) (selected : Row → Bool) :
    (table.update data selected).map Row.docId = table.map Row.docId := by
  unfold update
  rw [List.map_map]
  refine List.map_congr_left fun row _ => ?_
  simp only [Function.comp_apply]
  split <;> rfl

/-- The ids `table.search(query[fieldName] == value)` finds. -/
def matching (table : Table) (fieldName : String) (value : Json) : List Nat :=
  (table.filter fun row => row.matchesField fieldName value).map Row.docId

end Table

namespace Documents

/-- A table which is not in the file. -/
def empty : Documents := ⟨[], List.nodup_nil⟩

/-- `table.insert(document)`. -/
def insert (documents : Documents) (document : JsonObject) : Documents where
  rows := documents.rows.insert document
  distinct := by
    unfold Table.insert
    rw [List.map_append, List.nodup_append]
    refine ⟨documents.distinct, by simp, ?_⟩
    rintro docId member last lastMember rfl
    obtain ⟨row, inside, same⟩ := List.mem_map.mp member
    have below := Table.docId_lt_nextId inside
    simp only [List.map_cons, List.map_nil, List.mem_singleton] at lastMember
    omega

/-- `table.update(data, doc_ids=...)`. -/
def update (documents : Documents) (data : JsonObject) (selected : Row → Bool) : Documents where
  rows := documents.rows.update data selected
  distinct := by
    rw [Table.map_docId_update]
    exact documents.distinct

theorem ext {first second : Documents} (same : first.rows = second.rows) : first = second := by
  cases first
  cases second
  cases same
  rfl

end Documents

/-- `db.table(name)` of the file. -/
def File.table (file : File) (name : String) : Documents := (file.get? name).getD .empty

/-- A call of `TinyDBUtil` that writes. -/
inductive Call where
  | asyncWrite (tableName : String) (data : Option JsonObject)
  | asyncUpsertByKey (tableName : String) (data : JsonObject) (fieldName : String) (value : Json)
      (now : Nat)
  | asyncClearTable (tableName : String)

namespace Call

/-- `table.insert(data)`. -/
def inserting (tableName : String) (data : JsonObject) : Transaction File :=
  .read fun file => .write (file.set tableName ((file.table tableName).insert data))

/-- `table.update(data, doc_ids=doc_ids)`. An id which is gone raises before anything is written. -/
def updating (tableName : String) (data : JsonObject) (docIds : List Nat) : Transaction File :=
  .read fun file =>
    let documents := file.table tableName
    if docIds.all fun docId => documents.rows.any fun row => row.docId == docId then
      .write (file.set tableName (documents.update data fun row => docIds.contains row.docId))
    else .done

/-- The storage accesses of a call. -/
def transaction : Call → Transaction File
  | .asyncWrite _ none => .done
  | .asyncWrite tableName (some data) => inserting tableName data
  | .asyncUpsertByKey tableName data fieldName value now =>
      let data := Table.timestamped data now
      .read fun file =>
        let docIds := (file.table tableName).rows.matching fieldName value
        if docIds.isEmpty then inserting tableName data else updating tableName data docIds
  | .asyncClearTable tableName => .read fun file => .write (file.set tableName .empty)

/-- The call with the file to itself. -/
def perform (file : File) : Call → File
  | .asyncWrite _ none => file
  | .asyncWrite tableName (some data) =>
      file.set tableName ((file.table tableName).insert data)
  | .asyncUpsertByKey tableName data fieldName value now =>
      let data := Table.timestamped data now
      let documents := file.table tableName
      if documents.rows.any fun row => row.matchesField fieldName value then
        file.set tableName (documents.update data fun row => row.matchesField fieldName value)
      else file.set tableName (documents.insert data)
  | .asyncClearTable tableName => file.set tableName .empty

/-- Selecting by id is selecting by match: no other document carries a matching one's id. -/
theorem contains_matching (documents : Documents) (fieldName : String) (value : Json) {row : Row}
    (member : row ∈ documents.rows) :
    (documents.rows.matching fieldName value).contains row.docId =
      row.matchesField fieldName value := by
  rw [Bool.eq_iff_iff, List.contains_iff_mem]
  constructor
  · intro found
    obtain ⟨other, kept, same⟩ := List.mem_map.mp found
    obtain ⟨otherMember, matched⟩ := List.mem_filter.mp kept
    rwa [List.inj_on_of_nodup_map documents.distinct otherMember member same] at matched
  · exact fun matched => List.mem_map_of_mem (List.mem_filter.mpr ⟨member, matched⟩)

theorem update_contains_matching (documents : Documents) (data : JsonObject) (fieldName : String)
    (value : Json) :
    documents.update data
        (fun row => (documents.rows.matching fieldName value).contains row.docId) =
      documents.update data fun row => row.matchesField fieldName value := by
  refine Documents.ext (List.map_congr_left fun row member => ?_)
  simp only [contains_matching documents fieldName value member]

theorem matching_isEmpty (table : Table) (fieldName : String) (value : Json) :
    (table.matching fieldName value).isEmpty =
      !table.any fun row => row.matchesField fieldName value := by
  rw [Bool.eq_iff_iff]
  simp [Table.matching, List.isEmpty_iff]

theorem matching_present (table : Table) (fieldName : String) (value : Json) :
    ((table.matching fieldName value).all fun docId =>
      table.any fun row => row.docId == docId) = true := by
  rw [List.all_eq_true]
  intro docId found
  obtain ⟨row, kept, same⟩ := List.mem_map.mp found
  exact List.any_eq_true.mpr ⟨row, (List.mem_filter.mp kept).1, by simp [same]⟩

/-- The storage accesses of a call that nothing comes between perform it. -/
theorem execute_transaction (call : Call) (file : File) :
    call.transaction.execute file = call.perform file := by
  cases call with
  | asyncWrite tableName data => cases data <;> rfl
  | asyncUpsertByKey tableName data fieldName value now =>
      simp only [transaction, perform, execute, matching_isEmpty]
      cases found : (file.table tableName).rows.any fun row => row.matchesField fieldName value with
      | false => simp [inserting, execute]
      | true =>
          simp only [Bool.not_true, Bool.false_eq_true, if_false, updating, execute,
            matching_present, if_true, update_contains_matching]
  | asyncClearTable tableName => rfl

/-- What a performed upsert makes of its table is what `asyncUpsertByKey` makes of it. -/
theorem perform_upsert_rows (file : File) (tableName : String) (data : JsonObject)
    (fieldName : String) (value : Json) (now : Nat) :
    ((perform file (.asyncUpsertByKey tableName data fieldName value now)).table tableName).rows =
      (file.table tableName).rows.asyncUpsertByKey data fieldName value now := by
  simp only [perform, Table.asyncUpsertByKey]
  split <;> simp [File.table, Documents.update, Documents.insert]

/-- The calls an order of completion names. -/
def completed (calls : List Call) (order : List Nat) : List Call :=
  order.filterMap fun call => calls[call]?

/-- In series the transactions are the calls, performed one after the other. -/
theorem serial_transactions (calls : List Call) (file : File) (order : List Nat) :
    serial (calls.map transaction) file order = (completed calls order).foldl perform file := by
  induction order using List.reverseRecOn with
  | nil => rfl
  | append_singleton order call inductionHypothesis =>
      rw [serial_append, inductionHypothesis, completed, completed, List.filterMap_append,
        List.foldl_append, List.getElem?_map]
      cases found : calls[call]? with
      | none => simp [found, execute]
      | some known => simp [found, execute_transaction]

theorem completed_range (calls : List Call) :
    completed calls (List.range calls.length) = calls := by
  induction calls using List.reverseRecOn with
  | nil => rfl
  | append_singleton calls last inductionHypothesis =>
      have earlier : completed (calls ++ [last]) (List.range calls.length) = calls := by
        refine Eq.trans (List.filterMap_congr fun call member => ?_) inductionHypothesis
        rw [List.getElem?_append_left (List.mem_range.mp member)]
      rw [List.length_append, List.length_singleton, List.range_succ, completed,
        List.filterMap_append]
      rw [completed] at earlier
      simp [earlier]

/-- An interleaving in which no write changes what another unfinished call has read is
worth its finished calls one after the other, in the order they finished; once every
call has finished these are all the calls, each of them once. -/
theorem interleaving_serialisable (calls : List Call) (file : File) (schedule : List Nat)
    (undisturbed : Each Pool.step (Pool.Undisturbed (calls.map transaction))
      (Pool.start (calls.map transaction) file) schedule) :
    let after := run Pool.step (Pool.start (calls.map transaction) file) schedule
    after.content = (completed calls after.finished).foldl perform file ∧
      after.finished.Nodup ∧
      ((∀ left ∈ after.left, left.isDone = true) →
        (completed calls after.finished).Perm calls) := by
  intro after
  have sound := Pool.run_sound (calls.map transaction) file undisturbed
  refine ⟨?_, sound.once, fun complete => ?_⟩
  · rw [← serial_transactions]
    exact sound.content
  · have named := sound.finished_perm complete
    rw [List.length_map] at named
    calc completed calls after.finished
      List.Perm _ (completed calls (List.range calls.length)) := named.filterMap _
      _ = calls := completed_range calls

/-- A search is no obstacle to writes elsewhere: an upsert that has searched stands
where a search of any file leads in which the same documents match. -/
theorem searched_reached (tableName : String) (data : JsonObject) (fieldName : String)
    (value : Json) (now : Nat) {before after : File}
    (same : (after.table tableName).rows.matching fieldName value =
      (before.table tableName).rows.matching fieldName value) :
    let upsert := transaction (.asyncUpsertByKey tableName data fieldName value now)
    let docIds := (before.table tableName).rows.matching fieldName value
    Reached after upsert
      (if docIds.isEmpty then inserting tableName (Table.timestamped data now)
        else updating tableName (Table.timestamped data now) docIds) := by
  intro upsert docIds
  have searched : Reached after upsert _ := .read .start
  rwa [same] at searched

/-- A task is stored while the topology's upsert stands between search and insertion. -/
theorem interleaving_serialisable_apart :
    let calls : List Call :=
      [.asyncUpsertByKey "network_topo_data" [] "topo_id" (.str "current_topo") 7,
        .asyncWrite "operation_task_data" (some [("task_id", .str "3fa2c1")])]
    let after := run Pool.step (Pool.start (calls.map transaction) .empty) [0, 1, 1, 0, 0]
    after.content = (completed calls after.finished).foldl perform .empty ∧
      after.finished.Nodup ∧
      ((∀ left ∈ after.left, left.isDone = true) →
        (completed calls after.finished).Perm calls) := by
  refine interleaving_serialisable _ _ _ ⟨?_, ?_, ?_, ?_, ?_, trivial⟩
  case refine_1 => rintro written ⟨⟩
  case refine_2 => rintro written ⟨⟩
  case refine_3 =>
    rintro written ⟨⟩ other whole left apart known here unfinished
    match other, apart with
    | 0, _ =>
        obtain rfl := Option.some.inj known
        obtain rfl := Option.some.inj here
        exact searched_reached "network_topo_data" [] "topo_id" (.str "current_topo") 7 rfl
    | other + 2, _ => cases known
  case refine_4 => rintro written ⟨⟩
  case refine_5 =>
    rintro written ⟨⟩ other whole left apart known here unfinished
    match other, apart with
    | 1, _ =>
        obtain rfl := Option.some.inj here
        cases unfinished
    | other + 2, _ => cases known

/-- Two insertions which both read before either writes: the first row is lost. -/
theorem interleaved_writes_lose_a_row :
    let calls : List Call :=
      List.replicate 2 (.asyncWrite "operation_task_data" (some [("status", .str "running")]))
    let after := run Pool.step (Pool.start (calls.map transaction) .empty) [0, 1, 0, 1]
    (∀ left ∈ after.left, left.isDone = true) ∧
      ¬ ∃ order : List Call, order.Perm calls ∧ after.content = order.foldl perform .empty := by
  refine ⟨by decide +kernel, ?_⟩
  rintro ⟨order, permuted, same⟩
  obtain rfl := List.perm_replicate.mp permuted
  have rows : _ = _ := congrArg (fun file => (file.table "operation_task_data").rows.length) same
  exact absurd rows (by decide +kernel)

end Call
end NetworkAdapter
