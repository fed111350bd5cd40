import NetworkAdapter.Store.Concurrency
import NetworkAdapter.Store.Upsert

/-!
# The tables a start of the program leaves

`initDb` is `db/init_db.py` as the calls it makes one after the other: the players are
kept, the tasks are cleared, and the three rows of `env_status_data` get their data
laid out anew, whatever an older run has left in them.
-/

namespace NetworkAdapter

open Execution

/-- The document `init_db` stores for a player. -/
def playerDocument (player : String) (now : Nat) : JsonObject :=
  [("player_id", .str player), ("player_type", .str player), ("operations", .obj []),
    ("operaton_history", .obj []), ("timestamp", .number now)]

/-- The document it stores for a status. -/
def statusDocument (statusId statusType statusName : String) (statusData : Json) (now : Nat) :
    JsonObject :=
  [("status_id", .str statusId), ("status_type", .str statusType),
    ("status_name", .str statusName), ("status_data", statusData), ("timestamp", .number now)]

/-- The data of the row `traffic_flow` by series. -/
def flowData (tcp udp icmp : JsonObject) : Json :=
  .obj [("tcp", .obj tcp), ("udp", .obj udp), ("icmp", .obj icmp)]

/-- The data of the row `traffic_entropy` by series. -/
def entropyData (sources ports : List Json) : Json :=
  .obj [("source_ips_entropy", .arr sources), ("destination_ports_entropy", .arr ports)]

namespace Call

/-- An upsert of a player by its id. -/
def upsertPlayer (data : JsonObject) (player : String) (now : Nat) : Call :=
  .asyncUpsertByKey "player_data" data "player_id" (.str player) now

/-- An upsert of a status by its name. -/
def upsertStatus (data : JsonObject) (statusName : String) (now : Nat) : Call :=
  .asyncUpsertByKey "env_status_data" data "status_name" (.str statusName) now

end Call

/-- `init_db`. The clock is read twice for a document, when it is written down and when the
upsert stamps it. -/
def initDb (clock : Nat → Nat) : List Call :=
  [.asyncWrite "network_topo_data" none,
    .upsertPlayer (playerDocument "attacker" (clock 0)) "attacker" (clock 1),
    .upsertPlayer (playerDocument "defender" (clock 2)) "defender" (clock 3),
    .asyncClearTable "operation_task_data",
    .upsertStatus
      (statusDocument "001" "env" "vm_status"
        (.obj [("cpu_rate", .str "0"), ("memery_rate", .str "0")]) (clock 4))
      "vm_status" (clock 5),
    .upsertStatus
      (statusDocument "001" "traffic" "traffic_flow"
        (flowData [("1718191634419", .str "50")] [] []) (clock 6))
      "traffic_flow" (clock 7),
    .upsertStatus
      (statusDocument "002" "traffic" "traffic_entropy" (entropyData [] []) (clock 8))
      "traffic_entropy" (clock 9)]

namespace File

/-- The rows of `env_status_data`. -/
def statusRows (file : File) : Table := (file.table "env_status_data").rows

/-- A row is found under a status name, and every such row has this data. -/
structure HoldsStatus (file : File) (statusName : String) (statusData : Json) : Prop where
  found : file.statusRows.foundBy "status_name" (.str statusName) ≠ []
  data : ∀ row ∈ file.statusRows.foundBy "status_name" (.str statusName),
    Fields.get? row.fields "status_data" = some statusData

section Upsert

variable {data : JsonObject} {statusName : String}

theorem statusRows_upsert (file : File) (data : JsonObject) (statusName : String) (now : Nat) :
    ((Call.upsertStatus data statusName now).perform file).statusRows =
      file.statusRows.asyncUpsertByKey data "status_name" (.str statusName) now :=
  Call.perform_upsert_rows file "env_status_data" data "status_name" (.str statusName) now

/-- An upsert under a status name replaces the data of every row found under it, older
fields of the data included. -/
theorem holdsStatus_upsert (named : Fields.get? data "status_name" = some (.str statusName))
    {statusData : Json} (carried : Fields.get? data "status_data" = some statusData)
    (file : File) (now : Nat) :
    ((Call.upsertStatus data statusName now).perform file).HoldsStatus statusName statusData := by
  have updated := Table.foundBy_upsert_own (by decide) named (Json.str_equals_self statusName)
    file.statusRows now
  constructor
  · rw [statusRows_upsert, updated]
    split
    · simp
    · next some => simpa using some
  · intro row member
    rw [statusRows_upsert, updated] at member
    split at member
    · rw [List.mem_singleton.mp member]
      exact Table.get?_inserted (by decide) carried _ now
    · obtain ⟨old, _, rfl⟩ := List.mem_map.mp member
      exact Table.get?_merged (by decide) carried now old

/-- An upsert under another status name leaves them alone. -/
theorem HoldsStatus.upsert_other {file : File} {statusData : Json} {other : String}
    (holds : file.HoldsStatus statusName statusData)
    (named : Fields.get? data "status_name" = some (.str other)) (apart : other ≠ statusName)
    (now : Nat) :
    ((Call.upsertStatus data other now).perform file).HoldsStatus statusName statusData := by
  have unchanged := Table.foundBy_upsert_other (by decide) named apart file.statusRows now
  constructor
  · rw [statusRows_upsert, unchanged]
    exact holds.found
  · rw [statusRows_upsert, unchanged]
    exact holds.data

end Upsert

/-- Whatever the file held, the start lays out both traffic rows. -/
theorem initDb_flow (clock : Nat → Nat) (file : File) :
    (run Call.perform file (initDb clock)).HoldsStatus "traffic_flow"
      (flowData [("1718191634419", .str "50")] [] []) := by
  unfold initDb
  simp only [run_cons, run_nil]
  exact (holdsStatus_upsert rfl rfl _ _).upsert_other rfl (by decide) _

theorem initDb_entropy (clock : Nat → Nat) (file : File) :
    (run Call.perform file (initDb clock)).HoldsStatus "traffic_entropy" (entropyData [] []) := by
  unfold initDb
  simp only [run_cons, run_nil]
  exact holdsStatus_upsert rfl rfl _ _

/-- The reader of a status gets a row with its data first. -/
theorem HoldsStatus.read {file : File} {statusName : String} {statusData : Json}
    (holds : file.HoldsStatus statusName statusData) :
    ∃ fields others,
      file.statusRows.asyncReadByKeyValue "status_name" (.str statusName) =
        some (.obj fields :: others) ∧ Fields.get? fields "status_data" = some statusData := by
  obtain ⟨first, rest, same⟩ := List.exists_cons_of_ne_nil holds.found
  refine ⟨first.fields, rest.map fun row => .obj row.fields, ?_,
    holds.data first (same ▸ List.mem_cons_self)⟩
  unfold Table.foundBy at same
  simp [Table.asyncReadByKeyValue, same]

end File
end NetworkAdapter
