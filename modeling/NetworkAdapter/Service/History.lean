import Mathlib.Data.List.DropRight
import NetworkAdapter.Store.InitDb

/-!
# The history views and the schema they read

`init_db` lays the traffic rows out and the history views of
`controller/env_controller.py` read them back, each by field names of its own. The
flow view finds what is laid out. The entropy view asks for `ip_entropy`, which no
row that is laid out has, and answers with the exception's text every time.
-/

namespace NetworkAdapter

open Execution

namespace EnvController

/-- `jsonify({'status':'success',"data": data})`. -/
def success (data : Json) : Json := .obj [("status", .str "success"), ("data", data)]

/-- `jsonify({"status":"error","message": text})`. -/
def failure (text : String) : Json := .obj [("status", .str "error"), ("message", .str text)]

/-- The `try` statement around a view. -/
def respond (message : PyError → String) : Except PyError Json → Json
  | .ok data => success data
  | .error error => failure (message error)

/-- `history_data[0]`, where no document at all is `None`. -/
def firstOf : Option (List Json) → Except PyError Json
  | some (document :: _) => .ok document
  | some [] => .error .indexError
  | none => .error .typeError

/-- `history_data[0]['status_data'][field]` of what is read under a status name. -/
def seriesOf (file : File) (statusName field : String) : Except PyError Json := do
  let document ← firstOf <|
    file.statusRows.asyncReadByKeyValue "status_name" (.str statusName)
  let statusData ← document.subscript "status_data"
  statusData.subscript field

/-- `list(value.items())`. -/
def itemsOf : Json → Except PyError JsonObject
  | .obj fields => .ok fields
  | _ => .error (.attributeError "items")

/-- `dict(pairs)`. -/
def dictOf (pairs : JsonObject) : JsonObject :=
  pairs.foldl (fun built pair => Fields.set built pair.1 pair.2) []

/-- `value[-1000:]`; a text can be sliced too. -/
def lastThousand : Json → Except PyError Json
  | .arr items => .ok (.arr (items.rtake 1000))
  | .str text => .ok (.str (String.ofList (text.toList.rtake 1000)))
  | _ => .error .typeError

/-- The view `get_history_traffic_flow`. -/
def getHistoryTrafficFlow (message : PyError → String) (file : File) : Json :=
  respond message do
    let items ← itemsOf (← seriesOf file "traffic_flow" "tcp")
    return .obj [("tcp", .obj (dictOf (items.rtake 1000)))]

/-- The view of the route `get_history_traffic_entropy`. -/
def getAllTrafficEntropyData (message : PyError → String) (file : File) : Json :=
  respond message do
    let sources ← lastThousand (← seriesOf file "traffic_entropy" "ip_entropy")
    let ports ← lastThousand (← seriesOf file "traffic_entropy" "port_entropy")
    return .obj [("source_ips_entropy", sources), ("destination_ports_entropy", ports)]

end EnvController

/-- The series of the two traffic rows. -/
structure Series where
  tcp : Dict String Json
  udp : Dict String Json
  icmp : Dict String Json
  sources : List Json
  ports : List Json

/-- A write of the series of one row, with any other fields the writer passes along. -/
inductive SeriesWrite where
  | flow (others : JsonObject) (tcp udp icmp : Dict String Json) (now : Nat)
  | entropy (others : JsonObject) (sources ports : List Json) (now : Nat)

/-- The data an upsert under a status name takes. -/
def statusUpdate (others : JsonObject) (statusName : String) (statusData : Json) : JsonObject :=
  Fields.set (Fields.set others "status_name" (.str statusName)) "status_data" statusData

@[simp] theorem statusUpdate_name (others : JsonObject) (statusName : String)
    (statusData : Json) :
    Fields.get? (statusUpdate others statusName statusData) "status_name" =
      some (.str statusName) := by
  simp [statusUpdate]

@[simp] theorem statusUpdate_data (others : JsonObject) (statusName : String)
    (statusData : Json) :
    Fields.get? (statusUpdate others statusName statusData) "status_data" =
      some statusData := by
  simp [statusUpdate]

namespace SeriesWrite

/-- The write as a call of the store. -/
def call : SeriesWrite → Call
  | .flow others tcp udp icmp now =>
      .upsertStatus
        (statusUpdate others "traffic_flow" (flowData tcp.entries udp.entries icmp.entries))
        "traffic_flow" now
  | .entropy others sources ports now =>
      .upsertStatus (statusUpdate others "traffic_entropy" (entropyData sources ports))
        "traffic_entropy" now

/-- The file after the write. -/
def store (file : File) (change : SeriesWrite) : File := change.call.perform file

end SeriesWrite

namespace Series

/-- The series `init_db` lays out. -/
def initial : Series where
  tcp := Dict.empty.set "1718191634419" (.str "50")
  udp := Dict.empty
  icmp := Dict.empty
  sources := []
  ports := []

/-- The write as one of the series alone. -/
def write (series : Series) : SeriesWrite → Series
  | .flow _ tcp udp icmp _ => { series with tcp := tcp, udp := udp, icmp := icmp }
  | .entropy _ sources ports _ => { series with sources := sources, ports := ports }

/-- The file holds the series where `init_db` has laid them out. -/
structure Stored (series : Series) (file : File) : Prop where
  flow : file.HoldsStatus "traffic_flow"
    (flowData series.tcp.entries series.udp.entries series.icmp.entries)
  entropy : file.HoldsStatus "traffic_entropy" (entropyData series.sources series.ports)

theorem stored_initial (clock : Nat → Nat) (before : File) :
    initial.Stored (run Call.perform before (initDb clock)) :=
  ⟨File.initDb_flow clock before, File.initDb_entropy clock before⟩

/-- A write of one row leaves the other row's series where they are. -/
theorem Stored.write {series : Series} {file : File} (stored : series.Stored file)
    (change : SeriesWrite) : (series.write change).Stored (SeriesWrite.store file change) := by
  cases change with
  | flow others tcp udp icmp now =>
      exact ⟨File.holdsStatus_upsert (statusUpdate_name ..) (statusUpdate_data ..) file now,
        stored.entropy.upsert_other (statusUpdate_name ..) (by decide) now⟩
  | entropy others sources ports now =>
      exact ⟨stored.flow.upsert_other (statusUpdate_name ..) (by decide) now,
        File.holdsStatus_upsert (statusUpdate_name ..) (statusUpdate_data ..) file now⟩

/-- The file follows the series through all writes. -/
theorem Stored.run {series : Series} {file : File} (stored : series.Stored file)
    (writes : List SeriesWrite) :
    (run Series.write series writes).Stored (run SeriesWrite.store file writes) := by
  induction writes generalizing series file with
  | nil => exact stored
  | cons change rest inductionHypothesis => exact inductionHypothesis (stored.write change)

end Series

/-- The last entries of a series, a thousand at most, in their order. -/
structure Latest {Entry : Type} (series answered : List Entry) : Prop where
  suffix : answered <:+ series
  length : answered.length = min 1000 series.length

theorem latest_rtake {Entry : Type} (series : List Entry) : Latest series (series.rtake 1000) := by
  refine ⟨List.drop_suffix _ series, ?_⟩
  rw [List.rtake, List.length_drop]
  omega

namespace EnvController

/-- The flow view answers with the stored series. -/
def FlowAnswered (message : PyError → String) (file : File) (series : Series) : Prop :=
  ∃ tcp, getHistoryTrafficFlow message file = success (.obj [("tcp", .obj tcp)]) ∧
    Latest series.tcp.entries tcp

/-- The entropy view answers with the stored series. -/
def EntropyAnswered (message : PyError → String) (file : File) (series : Series) : Prop :=
  ∃ sources ports,
    getAllTrafficEntropyData message file =
      success (.obj [("source_ips_entropy", .arr sources),
        ("destination_ports_entropy", .arr ports)]) ∧
    Latest series.sources sources ∧ Latest series.ports ports

theorem failure_ne_success (text : String) (data : Json) : failure text ≠ success data := by
  simp [failure, success]

/-- Pairs without a repeated key are a dictionary as they are. -/
theorem dictOf_eq_self {pairs : JsonObject} (distinct : (pairs.map Prod.fst).Nodup) :
    dictOf pairs = pairs := by
  have nothing : (([] ++ pairs).map Prod.fst).Nodup := distinct
  exact Fields.foldl_set_eq_append nothing

/-- A field of the data a status row holds, as the views look it up. -/
theorem seriesOf_eq {file : File} {statusName : String} {statusData : Json}
    (holds : file.HoldsStatus statusName statusData) (field : String) :
    seriesOf file statusName field = statusData.subscript field := by
  obtain ⟨fields, others, read, carried⟩ := holds.read
  simp [seriesOf, read, firstOf, Json.subscript, carried, bind, Except.bind]

/-- The flow view finds the series it asks for. -/
theorem flow_answered (message : PyError → String) {file : File} {series : Series}
    (stored : series.Stored file) : FlowAnswered message file series := by
  refine ⟨series.tcp.entries.rtake 1000, ?_, latest_rtake _⟩
  have found : seriesOf file "traffic_flow" "tcp" = .ok (.obj series.tcp.entries) :=
    seriesOf_eq stored.flow "tcp"
  have distinct : ((series.tcp.entries.rtake 1000).map Prod.fst).Nodup :=
    series.tcp.distinct.sublist ((List.drop_sublist _ _).map Prod.fst)
  have rebuilt := dictOf_eq_self distinct
  unfold getHistoryTrafficFlow
  rw [found]
  exact congrArg (fun entries => success (.obj [("tcp", .obj entries)])) rebuilt

/-- The entropy view asks for a field that is not laid out. -/
theorem entropy_refused (message : PyError → String) {file : File} {series : Series}
    (stored : series.Stored file) :
    getAllTrafficEntropyData message file = failure (message (.keyError "ip_entropy")) := by
  have missing : seriesOf file "traffic_entropy" "ip_entropy" =
      .error (.keyError "ip_entropy") := seriesOf_eq stored.entropy "ip_entropy"
  unfold getAllTrafficEntropyData
  rw [missing]
  rfl

/-- Whatever the file held before the start and whatever has been written since, the flow
view answers with the stored series and the entropy view with an error, so that they never
answer both. -/
theorem history_views (message : PyError → String) (clock : Nat → Nat) (before : File)
    (writes : List SeriesWrite) :
    let file := run SeriesWrite.store (run Call.perform before (initDb clock)) writes
    let series := run Series.write Series.initial writes
    FlowAnswered message file series ∧
      getAllTrafficEntropyData message file = failure (message (.keyError "ip_entropy")) ∧
      ¬ (FlowAnswered message file series ∧ EntropyAnswered message file series) := by
  intro file series
  have stored : series.Stored file := (Series.stored_initial clock before).run writes
  have refused := entropy_refused message stored
  refine ⟨flow_answered message stored, refused, ?_⟩
  rintro ⟨-, sources, ports, answered, -⟩
  exact failure_ne_success _ _ (refused.symm.trans answered)

/-- One reading of each entropy after a start on an empty file: it is stored and not shown. -/
theorem history_views_first_entropy :
    let writes := [SeriesWrite.entropy [] [.number (1 / 2)] [.number (3 / 4)] 10]
    let file := run SeriesWrite.store (run Call.perform .empty (initDb id)) writes
    let series := run Series.write Series.initial writes
    ¬ (FlowAnswered (fun _ => "'ip_entropy'") file series ∧
      EntropyAnswered (fun _ => "'ip_entropy'") file series) := by
  rintro writes file series ⟨-, sources, ports, answered, -⟩
  have stored : series.Stored file := (Series.stored_initial id .empty).run writes
  exact failure_ne_success _ _ ((entropy_refused _ stored).symm.trans answered)

end EnvController
end NetworkAdapter
