import Mathlib.Data.List.Nodup
import Mathlib.Tactic.Tauto

/-!
# Insertion-ordered dictionaries

A dictionary keeps its entries in the order their keys were first stored, as the
language's own dictionaries do. `Fields` works on bare entry lists, which is all
a value that nests inside itself can carry; `Dict` packs such a list with the
proof that no key occurs twice.
-/

namespace NetworkAdapter

variable {κ ν : Type} [DecidableEq κ]

namespace Fields

/-- The value stored under a key. -/
def get? : List (κ × ν) → κ → Option ν
  | [], _ => none
  | (key, value) :: rest, wanted => if key = wanted then some value else get? rest wanted

/-- Store a value: an existing key keeps its place, a new one goes to the end. -/
def set : List (κ × ν) → κ → ν → List (κ × ν)
  | [], key, value => [(key, value)]
  | (other, old) :: rest, key, value =>
      if other = key then (other, value) :: rest else (other, old) :: set rest key value

/-- Forget a key. -/
def erase (entries : List (κ × ν)) (key : κ) : List (κ × ν) :=
  entries.filter fun entry => entry.1 ≠ key

/-- `entries.update(changes)`: keys in both keep their place and take the new value,
the other new ones follow. -/
def merge (entries changes : List (κ × ν)) : List (κ × ν) :=
  entries.map (fun entry => (entry.1, (get? changes entry.1).getD entry.2)) ++
    changes.filter fun change => (get? entries change.1).isNone

@[simp] theorem get?_nil (key : κ) : get? ([] : List (κ × ν)) key = none := rfl

@[simp] theorem get?_set (entries : List (κ × ν)) (key : κ) (value : ν) (wanted : κ) :
    get? (set entries key value) wanted =
      if key = wanted then some value else get? entries wanted := by
  induction entries with
  | nil => rfl
  | cons entry rest inductionHypothesis =>
      obtain ⟨other, old⟩ := entry
      by_cases same : other = key
      · subst other
        by_cases found : key = wanted <;> simp [set, get?, found]
      · by_cases found : other = wanted
        · subst wanted
          have apart : key ≠ other := fun equal => same equal.symm
          simp [set, get?, same, apart]
        · simp [set, get?, same, found, inductionHypothesis]

@[simp] theorem get?_erase (entries : List (κ × ν)) (key wanted : κ) :
    get? (erase entries key) wanted = if key = wanted then none else get? entries wanted := by
  induction entries with
  | nil => simp [erase]
  | cons entry rest inductionHypothesis =>
      obtain ⟨other, old⟩ := entry
      by_cases same : other = key
      · subst other
        have dropped : erase ((key, old) :: rest) key = erase rest key := by simp [erase]
        rw [dropped, inductionHypothesis]
        by_cases found : key = wanted <;> simp [get?, found]
      · have kept : erase ((other, old) :: rest) key = (other, old) :: erase rest key := by
          simp [erase, same]
        rw [kept, get?, inductionHypothesis]
        by_cases found : other = wanted
        · have apart : key ≠ wanted := fun equal => same (found.trans equal.symm)
          simp [get?, found, apart]
        · simp [get?, found]

theorem get?_append (first second : List (κ × ν)) (key : κ) :
    get? (first ++ second) key = (get? first key).or (get? second key) := by
  induction first with
  | nil => rfl
  | cons entry rest inductionHypothesis =>
      obtain ⟨other, value⟩ := entry
      by_cases same : other = key <;> simp [get?, same, inductionHypothesis]

/-- Filtering by key keeps what is stored under the keys that pass. -/
theorem get?_filter (entries : List (κ × ν)) (passes : κ → Bool) (key : κ) :
    get? (entries.filter fun entry => passes entry.1) key =
      if passes key then get? entries key else none := by
  induction entries with
  | nil => simp
  | cons entry rest inductionHypothesis =>
      obtain ⟨other, value⟩ := entry
      by_cases same : other = key
      · subst other
        cases passed : passes key <;> simp [get?, passed, inductionHypothesis]
      · cases kept : passes other <;> simp [get?, kept, same, inductionHypothesis]

/-- After an update a key has the new value, or its old one if the update lacks it. -/
@[simp] theorem get?_merge (entries changes : List (κ × ν)) (key : κ) :
    get? (merge entries changes) key = (get? changes key).or (get? entries key) := by
  have replaced : get? (entries.map fun entry => (entry.1, (get? changes entry.1).getD entry.2)) key
      = (get? entries key).map fun value => (get? changes key).getD value := by
    induction entries with
    | nil => rfl
    | cons entry rest inductionHypothesis =>
        obtain ⟨other, value⟩ := entry
        by_cases same : other = key
        · subst other
          simp [get?]
        · simp [get?, same, inductionHypothesis]
  rw [merge, get?_append, replaced, get?_filter changes fun other => (get? entries other).isNone]
  cases get? entries key <;> cases get? changes key <;> rfl

/-- Storing leaves the keys alone when the key was there and appends it otherwise. -/
theorem keys_set (entries : List (κ × ν)) (key : κ) (value : ν) :
    (set entries key value).map Prod.fst =
      if key ∈ entries.map Prod.fst then entries.map Prod.fst
      else entries.map Prod.fst ++ [key] := by
  induction entries with
  | nil => simp [set]
  | cons entry rest inductionHypothesis =>
      obtain ⟨other, old⟩ := entry
      by_cases same : other = key
      · simp [set, same]
      · have apart : ¬ key = other := fun equal => same equal.symm
        simp only [set, same, if_false, List.map_cons, inductionHypothesis, List.mem_cons,
          apart, false_or]
        split <;> rfl

theorem mem_values_set {entries : List (κ × ν)} {key : κ} {value other : ν}
    (member : other ∈ (set entries key value).map Prod.snd) :
    other = value ∨ other ∈ entries.map Prod.snd := by
  induction entries with
  | nil => exact .inl (List.mem_singleton.mp member)
  | cons entry rest inductionHypothesis =>
      obtain ⟨key', old⟩ := entry
      rw [set] at member
      split at member
      · exact (List.mem_cons.mp member).imp id (List.mem_cons_of_mem _)
      · rcases List.mem_cons.mp member with rfl | later
        · exact .inr List.mem_cons_self
        · exact (inductionHypothesis later).imp id (List.mem_cons_of_mem _)

/-- Storing a value that is not there keeps the values distinct. -/
theorem nodup_values_set {entries : List (κ × ν)} (distinct : (entries.map Prod.snd).Nodup)
    {value : ν} (absent : value ∉ entries.map Prod.snd) (key : κ) :
    ((set entries key value).map Prod.snd).Nodup := by
  induction entries with
  | nil => exact List.nodup_singleton value
  | cons entry rest inductionHypothesis =>
      obtain ⟨key', old⟩ := entry
      rw [List.map_cons, List.nodup_cons] at distinct
      rw [List.map_cons, List.mem_cons, not_or] at absent
      rw [set]
      split
      · exact List.nodup_cons.mpr ⟨absent.2, distinct.2⟩
      · refine List.nodup_cons.mpr ⟨fun member => ?_, inductionHypothesis distinct.2 absent.2⟩
        rcases mem_values_set member with same | there
        · exact absent.1 same.symm
        · exact distinct.1 there

/-- Storing what is there already changes nothing. -/
theorem set_eq_self {entries : List (κ × ν)} {key : κ} {value : ν}
    (there : get? entries key = some value) : set entries key value = entries := by
  induction entries with
  | nil => cases there
  | cons entry rest inductionHypothesis =>
      obtain ⟨other, old⟩ := entry
      rw [get?] at there
      split at there
      · next same => rw [set, if_pos same, Option.some.inj there]
      · next apart => rw [set, if_neg apart, inductionHypothesis there]

/-- A new key goes to the end. -/
theorem set_of_not_mem {entries : List (κ × ν)} {key : κ}
    (absent : key ∉ entries.map Prod.fst) (value : ν) :
    set entries key value = entries ++ [(key, value)] := by
  induction entries with
  | nil => rfl
  | cons entry rest inductionHypothesis =>
      obtain ⟨other, old⟩ := entry
      rw [List.map_cons, List.mem_cons, not_or] at absent
      have apart : other ≠ key := fun same => absent.1 same.symm
      rw [set, if_neg apart, inductionHypothesis absent.2]
      rfl

/-- Storing pairs without a repeated key after one another keeps them as they are. -/
theorem foldl_set_eq_append {done pairs : List (κ × ν)}
    (distinct : ((done ++ pairs).map Prod.fst).Nodup) :
    pairs.foldl (fun built pair => set built pair.1 pair.2) done = done ++ pairs := by
  induction pairs generalizing done with
  | nil => simp
  | cons pair rest inductionHypothesis =>
      have fresh : pair.1 ∉ done.map Prod.fst := by
        rw [List.map_append, List.map_cons, List.nodup_middle] at distinct
        exact fun member => (List.nodup_cons.mp distinct).1 (List.mem_append_left _ member)
      rw [List.foldl_cons, set_of_not_mem fresh, inductionHypothesis (by simpa using distinct)]
      simp

theorem set_set (entries : List (κ × ν)) (key : κ) (first second : ν) :
    set (set entries key first) key second = set entries key second := by
  induction entries with
  | nil => simp [set]
  | cons entry rest inductionHypothesis =>
      obtain ⟨other, old⟩ := entry
      by_cases same : other = key <;> simp [set, same, inductionHypothesis]

/-- Stores under two keys commute if one of the keys is there. -/
theorem set_comm {entries : List (κ × ν)} {key other : κ} (apart : key ≠ other)
    (there : (get? entries key).isSome) (value value' : ν) :
    set (set entries key value) other value' = set (set entries other value') key value := by
  induction entries with
  | nil => cases there
  | cons entry rest inductionHypothesis =>
      obtain ⟨first, old⟩ := entry
      by_cases same : first = key
      · subst same
        simp [set, apart]
      · rw [get?, if_neg same] at there
        by_cases same' : first = other
        · subst same'
          simp [set, same]
        · simp [set, same, same', inductionHypothesis there]

/-- A view that does not tell two values apart does not tell a store of one for the other. -/
theorem map_set {μ : Type} {entries : List (κ × ν)} {key : κ} {old value : ν}
    (there : get? entries key = some old) (view : κ × ν → μ)
    (alike : view (key, value) = view (key, old)) :
    (set entries key value).map view = entries.map view := by
  induction entries with
  | nil => cases there
  | cons entry rest inductionHypothesis =>
      obtain ⟨other, held⟩ := entry
      rw [get?] at there
      split at there
      · next same =>
          subst same
          obtain rfl := Option.some.inj there
          simp [set, alike]
      · next apart => simp [set, apart, inductionHypothesis there]

/-- What is stored under a key that is filtered out does not show. -/
theorem filter_set (entries : List (κ × ν)) (passes : κ → Bool) {key : κ}
    (hidden : passes key = false) (value : ν) :
    (set entries key value).filter (fun entry => passes entry.1) =
      entries.filter fun entry => passes entry.1 := by
  induction entries with
  | nil => simp [set, hidden]
  | cons entry rest inductionHypothesis =>
      obtain ⟨other, old⟩ := entry
      by_cases same : other = key
      · subst same
        simp [set, hidden]
      · simp [set, same, List.filter_cons, inductionHypothesis]

theorem get?_mapValues {μ : Type} (entries : List (κ × ν)) (image : ν → μ) (key : κ) :
    get? (entries.map fun entry => (entry.1, image entry.2)) key =
      (get? entries key).map image := by
  induction entries with
  | nil => rfl
  | cons entry rest inductionHypothesis =>
      obtain ⟨other, value⟩ := entry
      by_cases same : other = key <;> simp [get?, same, inductionHypothesis]

theorem set_mapValues {μ : Type} (entries : List (κ × ν)) (image : ν → μ) (key : κ) (value : ν) :
    (set entries key value).map (fun entry => (entry.1, image entry.2)) =
      set (entries.map fun entry => (entry.1, image entry.2)) key (image value) := by
  induction entries with
  | nil => rfl
  | cons entry rest inductionHypothesis =>
      obtain ⟨other, old⟩ := entry
      by_cases same : other = key <;> simp [set, same, inductionHypothesis]

theorem isSome_get?_iff {entries : List (κ × ν)} {key : κ} :
    (get? entries key).isSome ↔ key ∈ entries.map Prod.fst := by
  induction entries with
  | nil => simp
  | cons entry rest inductionHypothesis =>
      obtain ⟨other, value⟩ := entry
      by_cases same : other = key
      · simp [get?, same]
      · have apart : key ≠ other := fun equal => same equal.symm
        rw [get?, if_neg same, List.map_cons, List.mem_cons, inductionHypothesis]
        simp [apart]

/-- What is found under a key is an entry. -/
theorem mem_of_get? {entries : List (κ × ν)} {key : κ} {value : ν}
    (found : get? entries key = some value) : (key, value) ∈ entries := by
  induction entries with
  | nil => cases found
  | cons entry rest inductionHypothesis =>
      obtain ⟨other, held⟩ := entry
      rw [get?] at found
      split at found
      · next same =>
          cases found
          exact same ▸ List.mem_cons_self
      · exact List.mem_cons_of_mem _ (inductionHypothesis found)

/-- A value that is overwritten is gone, where values are distinct. -/
theorem not_mem_values_set {entries : List (κ × ν)} (distinct : (entries.map Prod.snd).Nodup)
    {key : κ} {old value : ν} (there : get? entries key = some old) (apart : value ≠ old) :
    old ∉ (set entries key value).map Prod.snd := by
  induction entries with
  | nil => cases there
  | cons entry rest inductionHypothesis =>
      obtain ⟨other, held⟩ := entry
      rw [List.map_cons, List.nodup_cons] at distinct
      rw [get?] at there
      rw [set]
      split at there
      · next same =>
          obtain rfl := Option.some.inj there
          rw [if_pos same, List.map_cons, List.mem_cons, not_or]
          exact ⟨Ne.symm apart, distinct.1⟩
      · next differs =>
          rw [if_neg differs, List.map_cons, List.mem_cons, not_or]
          refine ⟨?_, inductionHypothesis distinct.2 there⟩
          rintro rfl
          exact distinct.1 (List.mem_map.mpr ⟨_, mem_of_get? there, rfl⟩)

/-- Where no key occurs twice, an entry is what is found under its key. -/
theorem get?_of_mem {entries : List (κ × ν)} (distinct : (entries.map Prod.fst).Nodup)
    {key : κ} {value : ν} (member : (key, value) ∈ entries) : get? entries key = some value := by
  induction entries with
  | nil => cases member
  | cons entry rest inductionHypothesis =>
      obtain ⟨other, held⟩ := entry
      rw [List.map_cons, List.nodup_cons] at distinct
      rw [get?]
      rcases List.mem_cons.mp member with same | later
      · cases same
        rw [if_pos rfl]
      · have apart : other ≠ key := fun same =>
          distinct.1 (same ▸ List.mem_map.mpr ⟨_, later, rfl⟩)
        rw [if_neg apart]
        exact inductionHypothesis distinct.2 later

end Fields

/-- A dictionary: entries in insertion order, no key twice. -/
@[ext] structure Dict (κ ν : Type) where
  entries : List (κ × ν)
  distinct : (entries.map Prod.fst).Nodup

namespace Dict

/-- The dictionary without entries. -/
def empty : Dict κ ν := ⟨[], List.nodup_nil⟩

/-- `d.get(key)`. -/
def get? (dict : Dict κ ν) (key : κ) : Option ν := Fields.get? dict.entries key

/-- The keys in insertion order, as iteration over the dictionary gives them. -/
def keys (dict : Dict κ ν) : List κ := dict.entries.map Prod.fst

/-- The values in insertion order. -/
def values (dict : Dict κ ν) : List ν := dict.entries.map Prod.snd

/-- `d[key] = value`. -/
def set (dict : Dict κ ν) (key : κ) (value : ν) : Dict κ ν where
  entries := Fields.set dict.entries key value
  distinct := by
    rw [Fields.keys_set]
    split
    · exact dict.distinct
    · rename_i fresh
      rw [List.nodup_append]
      refine ⟨dict.distinct, List.nodup_singleton key, ?_⟩
      rintro other member last lastMember rfl
      exact fresh (by simpa [List.mem_singleton.mp lastMember] using member)

/-- `del d[key]`, for a key that is there. -/
def erase (dict : Dict κ ν) (key : κ) : Dict κ ν where
  entries := Fields.erase dict.entries key
  distinct := dict.distinct.sublist (List.filter_sublist.map Prod.fst)

/-- The entries whose key passes a test. -/
def restrict (dict : Dict κ ν) (passes : κ → Bool) : Dict κ ν where
  entries := dict.entries.filter fun entry => passes entry.1
  distinct := dict.distinct.sublist (List.filter_sublist.map Prod.fst)

/-- The same keys, each with the image of its value. -/
def mapValues {μ : Type} (dict : Dict κ ν) (image : ν → μ) : Dict κ μ where
  entries := dict.entries.map fun entry => (entry.1, image entry.2)
  distinct := by
    rw [List.map_map]
    exact dict.distinct

@[simp] theorem get?_empty (key : κ) : (empty : Dict κ ν).get? key = none := rfl

@[simp] theorem get?_set (dict : Dict κ ν) (key : κ) (value : ν) (wanted : κ) :
    (dict.set key value).get? wanted = if key = wanted then some value else dict.get? wanted :=
  Fields.get?_set dict.entries key value wanted

@[simp] theorem get?_erase (dict : Dict κ ν) (key wanted : κ) :
    (dict.erase key).get? wanted = if key = wanted then none else dict.get? wanted :=
  Fields.get?_erase dict.entries key wanted

@[simp] theorem get?_mapValues {μ : Type} (dict : Dict κ ν) (image : ν → μ) (key : κ) :
    (dict.mapValues image).get? key = (dict.get? key).map image :=
  Fields.get?_mapValues dict.entries image key

@[simp] theorem mem_keys_set (dict : Dict κ ν) (key : κ) (value : ν) (wanted : κ) :
    wanted ∈ (dict.set key value).keys ↔ wanted = key ∨ wanted ∈ dict.keys := by
  unfold keys set
  rw [Fields.keys_set]
  split
  · next present =>
      refine ⟨.inr, fun known => known.elim (fun same => same ▸ present) id⟩
  · simp [or_comm]

/-- Storing one value under several keys adds exactly those keys. -/
theorem mem_keys_foldl_set (keys : List κ) (value : ν) (dict : Dict κ ν) (wanted : κ) :
    wanted ∈ (keys.foldl (fun current key => current.set key value) dict).keys ↔
      wanted ∈ dict.keys ∨ wanted ∈ keys := by
  induction keys generalizing dict with
  | nil => simp
  | cons key rest inductionHypothesis =>
      rw [List.foldl_cons, inductionHypothesis, mem_keys_set, List.mem_cons]
      tauto

theorem entries_foldl_set (pairs : List (κ × ν)) (dict : Dict κ ν) :
    (pairs.foldl (fun built pair => built.set pair.1 pair.2) dict).entries =
      pairs.foldl (fun built pair => Fields.set built pair.1 pair.2) dict.entries := by
  induction pairs generalizing dict with
  | nil => rfl
  | cons pair rest inductionHypothesis => exact inductionHypothesis (dict.set pair.1 pair.2)

/-- A dictionary built anew from its entries is the same. -/
theorem foldl_set_entries (dict : Dict κ ν) :
    dict.entries.foldl (fun built entry => built.set entry.1 entry.2) .empty = dict := by
  have distinct : (((empty : Dict κ ν).entries ++ dict.entries).map Prod.fst).Nodup :=
    dict.distinct
  have rebuilt := entries_foldl_set dict.entries .empty
  exact Dict.ext (rebuilt.trans (Fields.foldl_set_eq_append distinct))

end Dict
end NetworkAdapter
