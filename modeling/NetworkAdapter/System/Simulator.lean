import NetworkAdapter.Semantics.Effect
import NetworkAdapter.Semantics.Execution
import NetworkAdapter.Store.Upsert

/-!
# The stored current topology

`system/simulator.py` over the table `network_topo_data`: starting a topology makes
its loaded object the dynamic data and writes that to the row with the id
`current_topo`. The id is set on the dictionary of all topologies, not on the data
written, so the row takes the id of the topology itself.
-/

namespace NetworkAdapter

/-- The module's variables and the table it writes. -/
structure Simulator where
  topoData : JsonObject
  currentTopoName : String
  currentTopoId : Json
  currentTopoDynamicData : Json
  networkTopoData : Table

/-- The id of the stored current topology. -/
def currentTopo : Json := .str "current_topo"

namespace Simulator

/-- The module after `load_topo_data`. -/
def init (loaded : JsonObject) (table : Table) : Simulator :=
  ⟨loaded, "", .str "", .obj [], table⟩

/-- `update_current_topo_dynamic_data`. -/
def updateCurrentTopoDynamicData (data : Json) (simulator : Simulator) : Simulator :=
  if data.equals .null then simulator else { simulator with currentTopoDynamicData := data }

/-- The upsert of `update_current_topo_data_to_db`; it stamps the object it is given. -/
def storeDynamicData (data : JsonObject) (now : Nat) (simulator : Simulator) : Simulator :=
  { simulator with
    currentTopoDynamicData := .obj (Table.timestamped data now)
    networkTopoData :=
      simulator.networkTopoData.asyncUpsertByKey data "topo_id" currentTopo now }

/-- `update_current_topo_data_to_db`. Only an object can be stamped. -/
def updateCurrentTopoDataToDb (now : Nat) : Effect PyError Simulator Unit := do
  modify fun simulator => { simulator with
    topoData := Fields.set simulator.topoData "topo_id" currentTopo }
  match (← get).currentTopoDynamicData with
  | .obj data => modify (storeDynamicData data now)
  | _ => throw .typeError

/-- The dynamic data is the loaded object itself, so the stamp shows there, unless the
entry of this name was just overwritten. -/
def shareStamp (topoName : String) (simulator : Simulator) : Simulator :=
  if topoName = "topo_id" then simulator
  else { simulator with
    topoData := Fields.set simulator.topoData topoName simulator.currentTopoDynamicData }

/-- `start_simulator_by_topo`, as far as it concerns data; then commands are run. -/
def startSimulatorByTopo (topoName : String) (now : Nat) : Effect PyError Simulator Unit := do
  modify fun simulator => { simulator with currentTopoName := topoName }
  let topology ← Effect.ofExcept ((Json.obj (← get).topoData).subscript topoName)
  let topoId ← Effect.ofExcept (topology.subscript "topo_id")
  modify fun simulator => { simulator with currentTopoId := topoId }
  modify (updateCurrentTopoDynamicData topology)
  updateCurrentTopoDataToDb now
  modify (shareStamp topoName)

/-- `reload_simulator_by_topo`. -/
def reloadSimulatorByTopo (topoName : String) (now : Nat) : Effect PyError Simulator Unit :=
  startSimulatorByTopo topoName now

/-- A call of either function, with the clock reading of its upsert. -/
inductive Call where
  | start (topoName : String) (now : Nat)
  | reload (topoName : String) (now : Nat)

/-- The topology a call names. -/
def Call.topoName : Call → String
  | .start topoName _ => topoName
  | .reload topoName _ => topoName

/-- The clock reading of a call. -/
def Call.now : Call → Nat
  | .start _ now => now
  | .reload _ now => now

/-- The call as a program. -/
def Call.perform : Call → Effect PyError Simulator Unit
  | .start topoName now => startSimulatorByTopo topoName now
  | .reload topoName now => reloadSimulatorByTopo topoName now

/-- One call, to its end or to the exception that ends it. -/
def step (simulator : Simulator) (call : Call) : Simulator := call.perform.leaves simulator

theorem Call.perform_eq (call : Call) :
    call.perform = startSimulatorByTopo call.topoName call.now := by
  cases call <;> rfl

/-- The object under a name, if it has an id. -/
def identified? (topoData : JsonObject) (topoName : String) : Option (JsonObject × Json) :=
  match Fields.get? topoData topoName with
  | some (.obj topology) => (Fields.get? topology "topo_id").map fun topoId => (topology, topoId)
  | _ => none

/-- The module after a topology was started. -/
def started (topoName : String) (topology : JsonObject) (topoId : Json) (now : Nat)
    (simulator : Simulator) : Simulator :=
  { topoData :=
      if topoName = "topo_id" then Fields.set simulator.topoData "topo_id" currentTopo
      else Fields.set (Fields.set simulator.topoData "topo_id" currentTopo) topoName
        (.obj (Table.timestamped topology now))
    currentTopoName := topoName
    currentTopoId := topoId
    currentTopoDynamicData := .obj (Table.timestamped topology now)
    networkTopoData :=
      simulator.networkTopoData.asyncUpsertByKey topology "topo_id" currentTopo now }

/-- What `identified?` finds is there. -/
theorem identified?_eq_some {topoData : JsonObject} {topoName : String} {topology : JsonObject}
    {topoId : Json} (found : identified? topoData topoName = some (topology, topoId)) :
    Fields.get? topoData topoName = some (.obj topology) ∧
      Fields.get? topology "topo_id" = some topoId := by
  unfold identified? at found
  split at found
  · next loaded there =>
      obtain ⟨_, named, same⟩ := Option.map_eq_some_iff.mp found
      obtain ⟨rfl, rfl⟩ := Prod.mk.inj same
      exact ⟨there, named⟩
  · cases found

theorem startSimulatorByTopo_run {topoName : String} {topology : JsonObject} {topoId : Json}
    {simulator : Simulator}
    (found : identified? simulator.topoData topoName = some (topology, topoId)) (now : Nat) :
    (startSimulatorByTopo topoName now).run simulator =
      .ok () (started topoName topology topoId now simulator) := by
  obtain ⟨there, named⟩ := identified?_eq_some found
  have loaded : (Json.obj simulator.topoData).subscript topoName = .ok (.obj topology) := by
    simp [Json.subscript, there]
  have identified : (Json.obj topology).subscript "topo_id" = .ok topoId := by
    simp [Json.subscript, named]
  have returned : (startSimulatorByTopo topoName now).run simulator =
      .ok () (shareStamp topoName
        { topoData := Fields.set simulator.topoData "topo_id" currentTopo
          currentTopoName := topoName
          currentTopoId := topoId
          currentTopoDynamicData := .obj (Table.timestamped topology now)
          networkTopoData :=
            simulator.networkTopoData.asyncUpsertByKey topology "topo_id" currentTopo now }) := by
    simp [startSimulatorByTopo, loaded, identified, updateCurrentTopoDynamicData, Json.equals,
      updateCurrentTopoDataToDb, storeDynamicData]
  rw [returned, shareStamp, started]
  split <;> rfl

/-- Without an object and an id under the name the call raises and nothing is stored. -/
theorem startSimulatorByTopo_raises {topoName : String} {simulator : Simulator}
    (missing : identified? simulator.topoData topoName = none) (now : Nat) :
    ∃ error, (startSimulatorByTopo topoName now).run simulator =
      .error error { simulator with currentTopoName := topoName } := by
  unfold identified? at missing
  cases found : Fields.get? simulator.topoData topoName with
  | none => exact ⟨.keyError topoName, by simp [startSimulatorByTopo, Json.subscript, found]⟩
  | some value =>
      cases value with
      | obj topology =>
          rw [found] at missing
          have unnamed : Fields.get? topology "topo_id" = none := Option.map_eq_none_iff.mp missing
          exact ⟨.keyError "topo_id",
            by simp [startSimulatorByTopo, Json.subscript, found, unnamed]⟩
      | _ => exact ⟨.typeError, by simp [startSimulatorByTopo, Json.subscript, found]⟩

/-- What a call leaves: an error and the data as it was, or a started topology. -/
theorem step_cases (simulator : Simulator) (call : Call) :
    step simulator call = { simulator with currentTopoName := call.topoName } ∨
      ∃ topology topoId,
        identified? simulator.topoData call.topoName = some (topology, topoId) ∧
          step simulator call = started call.topoName topology topoId call.now simulator := by
  unfold step
  rw [call.perform_eq]
  cases found : identified? simulator.topoData call.topoName with
  | none =>
      obtain ⟨error, raised⟩ := startSimulatorByTopo_raises found call.now
      exact .inl (Effect.leaves_of_error raised)
  | some identified =>
      obtain ⟨topology, topoId⟩ := identified
      exact .inr ⟨topology, topoId, rfl,
        Effect.leaves_of_ok (startSimulatorByTopo_run found call.now)⟩

/-- The id, the nodes and the links of a topology. -/
structure Topology where
  topoId : Json
  nodes : Json
  links : Json

/-- What the object of a topology says of it. -/
def topologyOf (fields : JsonObject) : Option Topology := do
  let topoId ← Fields.get? fields "topo_id"
  let nodes ← Fields.get? fields "nodes"
  let links ← Fields.get? fields "links"
  some ⟨topoId, nodes, links⟩

/-- The topology under a name. -/
def topology? (topoData : JsonObject) (topoName : String) : Option Topology :=
  match Fields.get? topoData topoName with
  | some (.obj fields) => topologyOf fields
  | _ => none

theorem topologyOf_eq_some {fields : JsonObject} {topology : Topology} :
    topologyOf fields = some topology ↔
      Fields.get? fields "topo_id" = some topology.topoId ∧
        Fields.get? fields "nodes" = some topology.nodes ∧
          Fields.get? fields "links" = some topology.links := by
  obtain ⟨topoId, nodes, links⟩ := topology
  simp only [topologyOf, Option.bind_eq_bind, Option.bind_eq_some_iff, Option.some.injEq,
    Topology.mk.injEq]
  constructor
  · rintro ⟨_, identified, _, noded, _, linked, rfl, rfl, rfl⟩
    exact ⟨identified, noded, linked⟩
  · rintro ⟨identified, noded, linked⟩
    exact ⟨topoId, identified, nodes, noded, links, linked, rfl, rfl, rfl⟩

@[simp] theorem topologyOf_timestamped (fields : JsonObject) (now : Nat) :
    topologyOf (Table.timestamped fields now) = topologyOf fields := by
  simp [topologyOf]

/-- At most one row has the id of the current topology. -/
def AtMostOneCurrent (simulator : Simulator) : Prop :=
  (simulator.networkTopoData.foundBy "topo_id" currentTopo).length ≤ 1

/-- What is an object under a name is the topology that was loaded under it. -/
def KeepsLoaded (loaded : JsonObject) (simulator : Simulator) : Prop :=
  ∀ topoName fields, Fields.get? simulator.topoData topoName = some (.obj fields) →
    topologyOf fields = topology? loaded topoName

theorem step_atMostOneCurrent {simulator : Simulator} (atMostOne : AtMostOneCurrent simulator)
    (call : Call) : AtMostOneCurrent (step simulator call) := by
  obtain raised | ⟨topology, topoId, found, returned⟩ := step_cases simulator call
  · rw [raised]
    exact atMostOne
  · rw [returned]
    obtain ⟨_, identified⟩ := identified?_eq_some found
    unfold AtMostOneCurrent started currentTopo at *
    by_cases own : topoId = .str "current_topo"
    · rw [Table.foundBy_upsert_own (by decide) (own ▸ identified) (Json.str_equals_self _)]
      split
      · exact Nat.le_refl 1
      · simpa using atMostOne
    · rw [Table.foundBy_upsert_foreign (by decide) identified own]
      exact Nat.zero_le 1

theorem step_keepsLoaded {loaded : JsonObject} {simulator : Simulator}
    (keeps : KeepsLoaded loaded simulator) (call : Call) :
    KeepsLoaded loaded (step simulator call) := by
  obtain raised | ⟨topology, topoId, found, returned⟩ := step_cases simulator call
  · rw [raised]
    exact keeps
  · obtain ⟨there, _⟩ := identified?_eq_some found
    have before := keeps call.topoName topology there
    rw [returned]
    intro topoName fields object
    unfold started at object
    simp only at object
    split at object
    · simp only [Fields.get?_set] at object
      split at object
      · cases object
      · exact keeps topoName fields object
    · simp only [Fields.get?_set] at object
      split at object
      · next same =>
          obtain rfl := Json.obj.inj (Option.some.inj object)
          rw [topologyOf_timestamped, before, same]
      · split at object
        · cases object
        · exact keeps topoName fields object

/-- Exactly one row has the id of the current topology, it holds the nodes and links of
the topology, and the other rows are as they were. -/
structure StoresCurrent (topology : Topology) (before after : Table) : Prop where
  current : ∃ row, after.foundBy "topo_id" currentTopo = [row] ∧
    Fields.get? row.fields "nodes" = some topology.nodes ∧
      Fields.get? row.fields "links" = some topology.links
  others : after.missedBy "topo_id" currentTopo = before.missedBy "topo_id" currentTopo

/-- The call returns and stores the topology loaded under its name as the current one. -/
def UpToDate (loaded : JsonObject) (simulator : Simulator) (call : Call) : Prop :=
  ∃ topology after, topology? loaded call.topoName = some topology ∧
    call.perform.run simulator = .ok () after ∧
      StoresCurrent topology simulator.networkTopoData after.networkTopoData

/-- The topology under the name has the id of the current topology as its own. -/
def OwnsCurrentId (simulator : Simulator) (call : Call) : Prop :=
  ∃ topology, topology? simulator.topoData call.topoName = some topology ∧
    topology.topoId = currentTopo

theorem topology?_eq_some {topoData : JsonObject} {topoName : String} {topology : Topology}
    (found : topology? topoData topoName = some topology) :
    ∃ fields, Fields.get? topoData topoName = some (.obj fields) ∧
      topologyOf fields = some topology := by
  unfold topology? at found
  split at found
  · next fields there => exact ⟨fields, there, found⟩
  · cases found

/-- An upsert of a topology with the id of the current one stores it. -/
theorem upsert_storesCurrent {topology : Topology} {fields : JsonObject}
    (describes : topologyOf fields = some topology) (own : topology.topoId = currentTopo)
    {table : Table} (atMostOne : (table.foundBy "topo_id" currentTopo).length ≤ 1) (now : Nat) :
    StoresCurrent topology table (table.asyncUpsertByKey fields "topo_id" currentTopo now) := by
  obtain ⟨identified, noded, linked⟩ := topologyOf_eq_some.mp describes
  rw [own] at identified
  refine ⟨?_, Table.missedBy_upsert_own (by decide) identified (Json.str_equals_self _) table now⟩
  have found := Table.foundBy_upsert_own (by decide) identified (Json.str_equals_self _) table now
  rcases rows : table.foundBy "topo_id" currentTopo with _ | ⟨row, more⟩
  · refine ⟨_, found.trans (if_pos rows), ?_, ?_⟩
    · exact Table.get?_inserted (by decide) noded table now
    · exact Table.get?_inserted (by decide) linked table now
  · have alone : more = [] := by
      rw [rows, List.length_cons] at atMostOne
      exact List.length_eq_zero_iff.mp (by omega)
    subst alone
    have some : table.foundBy "topo_id" currentTopo ≠ [] := by simp [rows]
    refine ⟨Table.merged fields now row, (found.trans (if_neg some)).trans ?_, ?_, ?_⟩
    · exact congrArg (List.map (Table.merged fields now)) rows
    · exact Table.get?_merged (by decide) noded now row
    · exact Table.get?_merged (by decide) linked now row

/-- In every run of starts and reloads, a call leaves the stored current topology up to
date exactly if the topology it names has the id of the current topology as its own. -/
theorem up_to_date_iff (loaded : JsonObject) (table : Table)
    (atMostOne : (table.foundBy "topo_id" currentTopo).length ≤ 1) (earlier : List Call)
    (call : Call) :
    UpToDate loaded (Execution.run step (init loaded table) earlier) call ↔
      OwnsCurrentId (Execution.run step (init loaded table) earlier) call := by
  have initial : AtMostOneCurrent (init loaded table) := atMostOne
  have single : AtMostOneCurrent (Execution.run step (init loaded table) earlier) :=
    Execution.run_invariant AtMostOneCurrent
      (fun _ call single => step_atMostOneCurrent single call) initial earlier
  have keeps : KeepsLoaded loaded (Execution.run step (init loaded table) earlier) := by
    refine Execution.run_invariant (KeepsLoaded loaded)
      (fun _ call keeps => step_keepsLoaded keeps call) ?_ earlier
    intro topoName fields there
    have known : Fields.get? loaded topoName = some (.obj fields) := there
    simp [topology?, known]
  generalize Execution.run step (init loaded table) earlier = simulator at single keeps
  unfold UpToDate OwnsCurrentId
  rw [call.perform_eq]
  constructor
  · rintro ⟨topology, after, loads, returned, ⟨row, found, _⟩, _⟩
    cases named : identified? simulator.topoData call.topoName with
    | none =>
        obtain ⟨error, raised⟩ := startSimulatorByTopo_raises named call.now
        cases raised.symm.trans returned
    | some identified =>
        obtain ⟨fields, topoId⟩ := identified
        obtain ⟨there, carried⟩ := identified?_eq_some named
        have describes := (keeps _ _ there).trans loads
        have own : topoId = topology.topoId :=
          Option.some.inj (carried.symm.trans (topologyOf_eq_some.mp describes).1)
        have ran := (startSimulatorByTopo_run named call.now).symm.trans returned
        cases ran
        refine ⟨topology, by simp [topology?, there, describes], ?_⟩
        -- With another id the upsert would leave no current row.
        by_contra foreign
        have lost := Table.foundBy_upsert_foreign (by decide) carried (own ▸ foreign)
          simulator.networkTopoData call.now
        exact List.cons_ne_nil row [] (found.symm.trans lost)
  · rintro ⟨topology, found, own⟩
    obtain ⟨fields, there, describes⟩ := topology?_eq_some found
    have carried := (topologyOf_eq_some.mp describes).1
    have named : identified? simulator.topoData call.topoName = some (fields, topology.topoId) := by
      simp [identified?, there, carried]
    exact ⟨topology, _, (keeps _ _ there).symm.trans describes,
      startSimulatorByTopo_run named call.now, upsert_storesCurrent describes own single call.now⟩

/-- One topology is loaded. -/
def loadedAarnet (topoId : Json) : JsonObject :=
  [("Aarnet", .obj [("topo_id", topoId), ("nodes", .obj []), ("links", .arr [])])]

/-- Started and reloaded, a topology with the id of the current one is up to date. -/
theorem up_to_date_of_own_id :
    UpToDate (loadedAarnet currentTopo)
      (Execution.run step (init (loadedAarnet currentTopo) []) [.start "Aarnet" 1])
      (.reload "Aarnet" 2) := by
  exact (up_to_date_iff (loadedAarnet currentTopo) [] (Nat.zero_le 1) [.start "Aarnet" 1]
    (.reload "Aarnet" 2)).mpr ⟨⟨currentTopo, .obj [], .arr []⟩, rfl, rfl⟩

/-- The row of the current topology takes the id of the topology started. -/
theorem start_loses_current_row :
    ¬ UpToDate (loadedAarnet (.str "Aarnet")) (init (loadedAarnet (.str "Aarnet"))
      [⟨1, [("topo_id", currentTopo), ("nodes", .obj []), ("links", .arr [])]⟩])
      (.start "Aarnet" 1) := by
  rintro ⟨topology, after, _, returned, ⟨row, found, _⟩, _⟩
  cases returned
  cases found

end Simulator
end NetworkAdapter
