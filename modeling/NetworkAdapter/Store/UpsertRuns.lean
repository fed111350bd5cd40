import NetworkAdapter.Semantics.Execution
import NetworkAdapter.Std.Equality
import NetworkAdapter.Store.Upsert

/-!
# Runs of upserts by one field

Where no two rows have the same value in the field searched by, and every call searches by
the value its data have there, the field stays a key: each call writes one row and leaves
the others alone. The stamp is the exception. A call by `timestamp` overwrites the value it
goes on to search by.
-/

namespace NetworkAdapter

open Execution

/-- The arguments of `async_upsert_by_key` for a given table and field, with the clock. -/
structure UpsertCall where
  data : JsonObject
  value : Json
  now : Nat

/-- `data[fieldName] == value`, of values a dictionary can hold. -/
structure UpsertCall.Carries (fieldName : String) (call : UpsertCall) : Prop where
  own : ∃ own, Fields.get? call.data fieldName = some own ∧ own.Proper ∧
    own.equals call.value = true
  proper : call.value.Proper

namespace Table

def upsertBy (fieldName : String) (table : Table) (call : UpsertCall) : Table :=
  table.asyncUpsertByKey call.data fieldName call.value call.now

/-- Two rows do not have the same value in a field. -/
def Apart (fieldName : String) (first second : Row) : Prop :=
  ∀ value other, Fields.get? first.fields fieldName = some value →
    Fields.get? second.fields fieldName = some other → value.equals other = false

/-- The values of a field are such that a dictionary can hold them, and pairwise distinct. -/
structure KeyedBy (fieldName : String) (table : Table) : Prop where
  proper : ∀ row ∈ table, ∀ value, Fields.get? row.fields fieldName = some value → value.Proper
  distinct : table.Pairwise (Apart fieldName)

/-- The row a call leaves: the one it found with the data and the stamp merged in, or the
data and the stamp in a new one. -/
def Writes (fieldName : String) (before : Table) (call : UpsertCall) (row : Row) : Prop :=
  (before.foundBy fieldName call.value = [] ∧ row.docId ∉ before.map Row.docId ∧
    ∀ key, Fields.get? row.fields key =
      if "timestamp" = key then some (.number call.now) else Fields.get? call.data key) ∨
  ∃ old, before.foundBy fieldName call.value = [old] ∧ row.docId = old.docId ∧
    ∀ key, Fields.get? row.fields key =
      if "timestamp" = key then some (.number call.now)
      else (Fields.get? call.data key).or (Fields.get? old.fields key)

/-- Two rows that differ in their stamp at most. -/
def SameButStamp (first second : Row) : Prop :=
  second.docId = first.docId ∧
    ∀ key, key ≠ "timestamp" → Fields.get? second.fields key = Fields.get? first.fields key

/-- What a call owes: one row has the value, the one it writes; the other rows and the ids of
all rows stay; the field stays a key; and the same call once more changes stamps only. -/
structure Upserted (fieldName : String) (before : Table) (call : UpsertCall) (after : Table) :
    Prop where
  single : ∃ row, after.foundBy fieldName call.value = [row] ∧ Writes fieldName before call row
  others : after.missedBy fieldName call.value = before.missedBy fieldName call.value
  ids : before.map Row.docId <+: after.map Row.docId
  keyed : after.KeyedBy fieldName
  repeated : ∀ later, List.Forall₂ SameButStamp after
    (after.upsertBy fieldName { call with now := later })

/-- By a key at most one row is found. -/
theorem KeyedBy.foundBy_eq {fieldName : String} {table : Table} (keyed : table.KeyedBy fieldName)
    (value : Json) : table.foundBy fieldName value = [] ∨
      ∃ row, table.foundBy fieldName value = [row] := by
  have sub : List.Sublist (table.foundBy fieldName value) table := List.filter_sublist
  cases found : table.foundBy fieldName value with
  | nil => exact .inl rfl
  | cons first rest =>
      cases rest with
      | nil => exact .inr ⟨first, rfl⟩
      | cons second others =>
          have matched (row : Row) (member : row ∈ table.foundBy fieldName value) :
              row ∈ table ∧ ∃ held, Fields.get? row.fields fieldName = some held ∧
                held.equals value = true := by
            obtain ⟨stored, passes⟩ := List.mem_filter.mp member
            exact ⟨stored, Row.matchesField_iff.mp passes⟩
          obtain ⟨_, held, carried, equal⟩ := matched first (by simp [found])
          obtain ⟨stored, held', carried', equal'⟩ := matched second (by simp [found])
          have distinct := keyed.distinct.sublist sub
          rw [found] at distinct
          have apart := (List.pairwise_cons.mp distinct).1 second List.mem_cons_self held held'
            carried carried'
          have same := Json.equals_of_common held value held'
            (keyed.proper second stored held' carried') equal equal'
          simp [same] at apart

section Call

variable {fieldName : String} {table : Table} {call : UpsertCall}

/-- The row a call leaves, and that it is the only one with its value. -/
theorem upsertBy_single (stampless : "timestamp" ≠ fieldName) (keyed : table.KeyedBy fieldName)
    (carries : call.Carries fieldName) :
    ∃ row, (table.upsertBy fieldName call).foundBy fieldName call.value = [row] ∧
      Writes fieldName table call row := by
  obtain ⟨own, carried, _, equal⟩ := carries.own
  have updated := foundBy_upsert_own stampless carried equal table call.now
  rcases keyed.foundBy_eq call.value with none | ⟨old, some⟩
  · rw [if_pos none] at updated
    refine ⟨_, updated, .inl ⟨none, fun member => ?_, by simp [inserted]⟩⟩
    obtain ⟨row, stored, same⟩ := List.mem_map.mp member
    have below : row.docId < table.nextId := docId_lt_nextId stored
    exact absurd same (Nat.ne_of_lt below)
  · rw [if_neg (by simp [some]), some] at updated
    refine ⟨_, updated, .inr ⟨old, some, rfl, fun key => ?_⟩⟩
    simp only [merged, Fields.get?_merge, get?_timestamped]
    split <;> rfl

theorem upsertBy_ids (fieldName : String) (table : Table) (call : UpsertCall) :
    table.map Row.docId <+: (table.upsertBy fieldName call).map Row.docId := by
  unfold upsertBy
  by_cases none : table.foundBy fieldName call.value = []
  · rw [upsert_of_none none, List.map_append]
    exact List.prefix_append _ _
  · rw [upsert_of_some none, List.map_map]
    refine (List.map_congr_left fun row _ => ?_) ▸ List.prefix_rfl
    simp only [Function.comp_apply]
    split <;> rfl

/-- What a call makes of a row has an equal value. -/
theorem edited_equal (stampless : "timestamp" ≠ fieldName) (keyed : table.KeyedBy fieldName)
    (carries : call.Carries fieldName) {row : Row} (member : row ∈ table) {value : Json}
    (has : Fields.get? (if row.matchesField fieldName call.value then merged call.data call.now row
      else row).fields fieldName = some value) :
    ∃ before, Fields.get? row.fields fieldName = some before ∧ before.Proper ∧ value.Proper ∧
      before.equals value = true := by
  obtain ⟨own, carried, proper, equal⟩ := carries.own
  split at has
  · next matched =>
      obtain ⟨before, held, found⟩ := Row.matchesField_iff.mp matched
      rw [get?_merged stampless carried] at has
      obtain rfl := Option.some.inj has
      exact ⟨before, held, keyed.proper row member before held, proper,
        Json.equals_of_common before call.value own proper found equal⟩
  · have properly := keyed.proper row member value has
    exact ⟨value, has, properly, properly, Json.equals_refl value properly⟩

/-- The field stays a key. -/
theorem upsertBy_keyed (stampless : "timestamp" ≠ fieldName) (keyed : table.KeyedBy fieldName)
    (carries : call.Carries fieldName) : (table.upsertBy fieldName call).KeyedBy fieldName := by
  obtain ⟨own, carried, proper, equal⟩ := carries.own
  unfold upsertBy
  by_cases none : table.foundBy fieldName call.value = []
  · rw [upsert_of_none none]
    have added := get?_inserted stampless carried table call.now
    constructor
    · intro row member value has
      rcases List.mem_append.mp member with stored | new
      · exact keyed.proper row stored value has
      · rw [List.mem_singleton.mp new, added] at has
        exact Option.some.inj has ▸ proper
    · refine List.pairwise_append.mpr ⟨keyed.distinct, List.pairwise_singleton _ _, ?_⟩
      intro row member new single value other held has
      rw [List.mem_singleton.mp single, added] at has
      obtain rfl := Option.some.inj has
      rw [← Bool.not_eq_true]
      intro same
      -- A row equal to the new one would have been found.
      have found := Json.equals_trans proper carries.proper same equal
      have unfound := List.filter_eq_nil_iff.mp none row member
      exact unfound (Row.matchesField_iff.mpr ⟨value, held, found⟩)
  · rw [upsert_of_some none]
    constructor
    · intro row member value has
      obtain ⟨before, stored, rfl⟩ := List.mem_map.mp member
      obtain ⟨_, _, _, properly, _⟩ := edited_equal stampless keyed carries stored has
      exact properly
    · refine List.pairwise_map.mpr (keyed.distinct.imp_of_mem ?_)
      intro first second stored stored' apart value other has has'
      obtain ⟨before, held, properly, properValue, same⟩ :=
        edited_equal stampless keyed carries stored has
      obtain ⟨before', held', properly', properOther, same'⟩ :=
        edited_equal stampless keyed carries stored' has'
      rw [← Bool.not_eq_true]
      intro equals
      have forth := Json.equals_trans properValue properOther same equals
      have back := Json.equals_symm properly' properOther same'
      have both := Json.equals_trans properOther properly' forth back
      simp [apart before before' held held'] at both

/-- The same call once more changes the stamp of its row only. -/
theorem upsertBy_again (stampless : "timestamp" ≠ fieldName) (keyed : table.KeyedBy fieldName)
    (carries : call.Carries fieldName) (later : Nat) :
    List.Forall₂ SameButStamp (table.upsertBy fieldName call)
      ((table.upsertBy fieldName call).upsertBy fieldName { call with now := later }) := by
  obtain ⟨row, single, writes⟩ := upsertBy_single stampless keyed carries
  have some : (table.upsertBy fieldName call).foundBy fieldName call.value ≠ [] := by
    simp [single]
  have again : (table.upsertBy fieldName call).upsertBy fieldName { call with now := later } = _ :=
    upsert_of_some some call.data later
  rw [again, List.forall₂_map_right_iff, List.forall₂_same]
  intro other member
  split
  · next matched =>
      have found : other ∈ (table.upsertBy fieldName call).foundBy fieldName call.value :=
        List.mem_filter.mpr ⟨member, matched⟩
      rw [single, List.mem_singleton] at found
      subst found
      refine ⟨rfl, fun key unstamped => ?_⟩
      simp only [merged, Fields.get?_merge, get?_timestamped, if_neg (Ne.symm unstamped)]
      rcases writes with ⟨_, _, fields⟩ | ⟨old, _, _, fields⟩
      · rw [fields, if_neg (Ne.symm unstamped)]
        cases Fields.get? call.data key <;> rfl
      · rw [fields, if_neg (Ne.symm unstamped)]
        cases Fields.get? call.data key <;> rfl
  · exact ⟨rfl, fun _ _ => rfl⟩

theorem upsertBy_upserted (stampless : "timestamp" ≠ fieldName) (keyed : table.KeyedBy fieldName)
    (carries : call.Carries fieldName) :
    Upserted fieldName table call (table.upsertBy fieldName call) := by
  obtain ⟨own, carried, _, equal⟩ := carries.own
  exact {
    single := upsertBy_single stampless keyed carries
    others := missedBy_upsert_own stampless carried equal table call.now
    ids := upsertBy_ids fieldName table call
    keyed := upsertBy_keyed stampless keyed carries
    repeated := upsertBy_again stampless keyed carries }

end Call

/-- Along every run of calls which search by the value of their data in a key other than
the stamp, each call does what it owes. -/
theorem upserts_keep_key {fieldName : String} (stampless : fieldName ≠ "timestamp")
    {table : Table} (keyed : table.KeyedBy fieldName) {calls : List UpsertCall}
    (carry : ∀ call ∈ calls, call.Carries fieldName) :
    Each (upsertBy fieldName)
      (fun before call => Upserted fieldName before call (before.upsertBy fieldName call)) table
      calls := by
  induction calls generalizing table with
  | nil => trivial
  | cons call rest inductionHypothesis =>
      have here := upsertBy_upserted (Ne.symm stampless) keyed (carry call List.mem_cons_self)
      exact ⟨here, inductionHypothesis here.keyed fun other member =>
        carry other (List.mem_cons_of_mem _ member)⟩

/-- The first two writes of the store's own configuration. -/
theorem config_upserted :
    Each (upsertBy "version")
      (fun before call => Upserted "version" before call (before.upsertBy "version" call)) []
      [⟨[("author", .str "rightstar"), ("version", .str "1.0")], .str "1.0", 5⟩,
        ⟨[("author", .str "rightstar"), ("version", .str "1.0")], .str "1.0", 6⟩] := by
  refine upserts_keep_key (by decide) ⟨by simp, .nil⟩ fun call member => ?_
  have carried : Fields.get? call.data "version" = some (.str "1.0") ∧
      call.value = .str "1.0" := by
    rcases List.mem_cons.mp member with rfl | later
    · exact ⟨rfl, rfl⟩
    · rw [List.mem_singleton.mp later]
      exact ⟨rfl, rfl⟩
  exact ⟨⟨_, carried.1, trivial, by rw [carried.2, Json.str_equals_self]⟩,
    by rw [carried.2]; trivial⟩

/-- A call by the stamp: no row has the value it was made with. -/
theorem stamp_overwrites_key :
    let call : UpsertCall := ⟨[("timestamp", .number 5)], .number 5, 9⟩
    KeyedBy "timestamp" [] ∧ call.Carries "timestamp" ∧
      ¬ Upserted "timestamp" [] call (upsertBy "timestamp" [] call) := by
  refine ⟨⟨by simp, .nil⟩, ⟨⟨_, rfl, trivial, by decide +kernel⟩, trivial⟩, fun upserted => ?_⟩
  obtain ⟨row, single, _⟩ := upserted.single
  have none : (Table.foundBy (upsertBy "timestamp" [] ⟨[("timestamp", .number 5)], .number 5, 9⟩)
      "timestamp" (.number 5)).length = 0 := by decide +kernel
  rw [single] at none
  cases none

end Table
end NetworkAdapter
