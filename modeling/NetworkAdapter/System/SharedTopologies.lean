import NetworkAdapter.Semantics.Execution
import NetworkAdapter.Service.TopologyUpdate
import NetworkAdapter.System.Simulator

/-!
# Topologies that are shared

`Simulator` keeps what the names of `system/simulator.py` stand for as values. Here they
refer to objects: a started topology is one object under its name and as the dynamic data,
so a stamp or a mark on the one is on the other. `run_view` says that the two models agree
on starts; `pristine_iff` says what of the loaded topologies survives starts and tasks.
-/

namespace NetworkAdapter

/-- The module's variables, as references to objects, and the table it writes. -/
structure SharedSimulator where
  objects : List Json
  topoData : List (String × Nat)
  currentTopoName : String
  currentTopoId : Json
  currentTopoDynamicData : Nat
  networkTopoData : Table

namespace SharedSimulator

/-- The object that is referred to. -/
def object (simulator : SharedSimulator) (reference : Nat) : Json :=
  simulator.objects[reference]?.getD .null

/-- What `topo_data` holds. -/
def contents (simulator : SharedSimulator) : JsonObject :=
  simulator.topoData.map fun entry => (entry.1, simulator.object entry.2)

/-- What `get_current_topo_dynamic_data` returns. -/
def dynamicData (simulator : SharedSimulator) : Json :=
  simulator.object simulator.currentTopoDynamicData

/-- The module after `load_topo_data`: an object for each file, and the empty dynamic data. -/
def init (loaded : JsonObject) (table : Table) : SharedSimulator where
  objects := loaded.map Prod.snd ++ [.obj []]
  topoData := (loaded.map Prod.fst).zipIdx
  currentTopoName := ""
  currentTopoId := .str ""
  currentTopoDynamicData := loaded.length
  networkTopoData := table

/-- Change an object in place. -/
def assign (reference : Nat) (value : Json) (simulator : SharedSimulator) : SharedSimulator :=
  { simulator with objects := simulator.objects.set reference value }

/-- `topo_data[topo_name]`. -/
def lookup (topoName : String) (simulator : SharedSimulator) : Except PyError Nat :=
  match Fields.get? simulator.topoData topoName with
  | some reference => .ok reference
  | none => .error (.keyError topoName)

/-- `update_current_topo_dynamic_data`: the variable refers to the object it is given. -/
def updateCurrentTopoDynamicData (reference : Nat) (simulator : SharedSimulator) :
    SharedSimulator :=
  if (simulator.object reference).equals .null then simulator
  else { simulator with currentTopoDynamicData := reference }

/-- `topo_data['topo_id'] = 'current_topo'`. -/
def nameCurrentTopo (simulator : SharedSimulator) : SharedSimulator :=
  { simulator with
    objects := simulator.objects ++ [currentTopo]
    topoData := Fields.set simulator.topoData "topo_id" simulator.objects.length }

/-- The upsert of `update_current_topo_data_to_db`; it stamps the object it is given. -/
def storeDynamicData (data : JsonObject) (now : Nat) (simulator : SharedSimulator) :
    SharedSimulator :=
  { simulator.assign simulator.currentTopoDynamicData (.obj (Table.timestamped data now)) with
    networkTopoData :=
      simulator.networkTopoData.asyncUpsertByKey data "topo_id" currentTopo now }

/-- `update_current_topo_data_to_db`. Only an object can be stamped. -/
def updateCurrentTopoDataToDb (now : Nat) : Effect PyError SharedSimulator Unit := do
  modify nameCurrentTopo
  match (← get).dynamicData with
  | .obj data => modify (storeDynamicData data now)
  | _ => throw .typeError

/-- `start_simulator_by_topo`, as far as it concerns data; then commands are run. -/
def startSimulatorByTopo (topoName : String) (now : Nat) :
    Effect PyError SharedSimulator Unit := do
  modify fun simulator => { simulator with currentTopoName := topoName }
  let reference ← Effect.ofExcept ((← get).lookup topoName)
  let topoId ← Effect.ofExcept (((← get).object reference).subscript "topo_id")
  modify fun simulator => { simulator with currentTopoId := topoId }
  modify (updateCurrentTopoDynamicData reference)
  updateCurrentTopoDataToDb now

/-- `reload_simulator_by_topo`. -/
def reloadSimulatorByTopo (topoName : String) (now : Nat) : Effect PyError SharedSimulator Unit :=
  startSimulatorByTopo topoName now

/-- A task update works on the dynamic data in place. -/
def updateNetworkTopoDynamic (update : TaskService.TopologyUpdate) (task : JsonObject)
    (simulator : SharedSimulator) : SharedSimulator :=
  simulator.assign simulator.currentTopoDynamicData
    ((update.perform task).leaves simulator.dynamicData)

/-- A start or a reload, with the clock reading of its upsert, or the update of a task. -/
inductive Call where
  | start (topoName : String) (now : Nat)
  | reload (topoName : String) (now : Nat)
  | update (update : TaskService.TopologyUpdate) (task : JsonObject)

/-- One call, to its end or to the exception that ends it. -/
def step (simulator : SharedSimulator) : Call → SharedSimulator
  | .start topoName now => (startSimulatorByTopo topoName now).leaves simulator
  | .reload topoName now => (reloadSimulatorByTopo topoName now).leaves simulator
  | .update update task => updateNetworkTopoDynamic update task simulator

/-- A name refers to an object that has an id. -/
structure Found (simulator : SharedSimulator) (topoName : String) (reference : Nat)
    (topology : JsonObject) (topoId : Json) : Prop where
  named : Fields.get? simulator.topoData topoName = some reference
  there : simulator.objects[reference]? = some (.obj topology)
  identified : Fields.get? topology "topo_id" = some topoId

/-- The module after a topology was started. -/
def started (topoName : String) (reference : Nat) (topology : JsonObject) (topoId : Json)
    (now : Nat) (simulator : SharedSimulator) : SharedSimulator where
  objects := (simulator.objects ++ [currentTopo]).set reference
    (.obj (Table.timestamped topology now))
  topoData := Fields.set simulator.topoData "topo_id" simulator.objects.length
  currentTopoName := topoName
  currentTopoId := topoId
  currentTopoDynamicData := reference
  networkTopoData :=
    simulator.networkTopoData.asyncUpsertByKey topology "topo_id" currentTopo now

theorem get?_contents (simulator : SharedSimulator) (topoName : String) :
    Fields.get? simulator.contents topoName =
      (Fields.get? simulator.topoData topoName).map simulator.object :=
  Fields.get?_mapValues _ _ _

/-- What is found is what the contents say. -/
theorem identified?_contents {simulator : SharedSimulator} {topoName : String}
    {topology : JsonObject} {topoId : Json} :
    Simulator.identified? simulator.contents topoName = some (topology, topoId) ↔
      ∃ reference, Found simulator topoName reference topology topoId := by
  constructor
  · intro found
    obtain ⟨there, identified⟩ := Simulator.identified?_eq_some found
    rw [get?_contents] at there
    obtain ⟨reference, named, there⟩ := Option.map_eq_some_iff.mp there
    refine ⟨reference, named, ?_, identified⟩
    unfold object at there
    cases stored : simulator.objects[reference]? with
    | none => simp [stored] at there
    | some value => simpa [stored] using there
  · rintro ⟨reference, named, there, identified⟩
    have stored : Fields.get? simulator.contents topoName = some (.obj topology) := by
      simp [get?_contents, named, object, there]
    simp [Simulator.identified?, stored, identified]

theorem startSimulatorByTopo_run {simulator : SharedSimulator} {topoName : String}
    {reference : Nat} {topology : JsonObject} {topoId : Json}
    (found : Found simulator topoName reference topology topoId) (now : Nat) :
    (startSimulatorByTopo topoName now).run simulator =
      .ok () (started topoName reference topology topoId now simulator) := by
  obtain ⟨named, there, identified⟩ := found
  have within : reference < simulator.objects.length := (List.getElem?_eq_some_iff.mp there).1
  have subscripted : (Json.obj topology).subscript "topo_id" = .ok topoId :=
    Json.subscript_obj_eq_ok.mpr identified
  have kept : (simulator.objects ++ [currentTopo])[reference]? = some (.obj topology) := by
    rw [List.getElem?_append_left within, there]
  simp [startSimulatorByTopo, lookup, named, object, there, subscripted,
    updateCurrentTopoDynamicData, Json.equals, updateCurrentTopoDataToDb, nameCurrentTopo,
    dynamicData, kept, storeDynamicData, assign, started]

theorem dynamicData_started {simulator : SharedSimulator} {topoName : String} {reference : Nat}
    {topology : JsonObject} {topoId : Json}
    (found : Found simulator topoName reference topology topoId) (now : Nat) :
    (started topoName reference topology topoId now simulator).dynamicData =
      .obj (Table.timestamped topology now) := by
  have within := (List.getElem?_eq_some_iff.mp found.there).1
  simp [dynamicData, object, started, Nat.lt_succ_of_lt within]

/-- Without an object and an id under the name the call raises and nothing is changed. -/
theorem startSimulatorByTopo_raises {simulator : SharedSimulator} {topoName : String}
    (missing : Simulator.identified? simulator.contents topoName = none) (now : Nat) :
    ∃ error, (startSimulatorByTopo topoName now).run simulator =
      .error error { simulator with currentTopoName := topoName } := by
  unfold Simulator.identified? at missing
  rw [get?_contents] at missing
  cases named : Fields.get? simulator.topoData topoName with
  | none => exact ⟨.keyError topoName, by simp [startSimulatorByTopo, lookup, named]⟩
  | some reference =>
      have same : ({ simulator with currentTopoName := topoName } : SharedSimulator).object
          reference = simulator.object reference := rfl
      rw [named, Option.map_some] at missing
      cases stored : simulator.object reference with
      | obj topology =>
          rw [stored] at missing
          have unnamed : Fields.get? topology "topo_id" = none := Option.map_eq_none_iff.mp missing
          exact ⟨.keyError "topo_id", by
            simp [startSimulatorByTopo, lookup, named, same, stored, Json.subscript, unnamed]⟩
      | _ => exact ⟨.typeError, by
          simp [startSimulatorByTopo, lookup, named, same, stored, Json.subscript]⟩

/-- What a start leaves: an error and the data as it was, or a started topology. -/
theorem startSimulatorByTopo_leaves (simulator : SharedSimulator) (topoName : String)
    (now : Nat) :
    (Simulator.identified? simulator.contents topoName = none ∧
        (startSimulatorByTopo topoName now).leaves simulator =
          { simulator with currentTopoName := topoName }) ∨
      ∃ reference topology topoId, Found simulator topoName reference topology topoId ∧
        (startSimulatorByTopo topoName now).leaves simulator =
          started topoName reference topology topoId now simulator := by
  cases identified : Simulator.identified? simulator.contents topoName with
  | none =>
      obtain ⟨error, raised⟩ := startSimulatorByTopo_raises identified now
      exact .inl ⟨rfl, Effect.leaves_of_error raised⟩
  | some pair =>
      obtain ⟨topology, topoId⟩ := pair
      obtain ⟨reference, found⟩ := identified?_contents.mp identified
      exact .inr ⟨reference, topology, topoId, found,
        Effect.leaves_of_ok (startSimulatorByTopo_run found now)⟩

/-- The name a start or a reload gives. -/
def Call.topoName? : Call → Option String
  | .start topoName _ => some topoName
  | .reload topoName _ => some topoName
  | .update _ _ => none

/-- What a call leaves. -/
theorem step_cases (simulator : SharedSimulator) (call : Call) :
    (∃ topoName, call.topoName? = some topoName ∧
        Simulator.identified? simulator.contents topoName = none ∧
          step simulator call = { simulator with currentTopoName := topoName }) ∨
      (∃ topoName now reference topology topoId, call.topoName? = some topoName ∧
        Found simulator topoName reference topology topoId ∧
          step simulator call = started topoName reference topology topoId now simulator) ∨
      ∃ update task, call = .update update task ∧
        step simulator call = updateNetworkTopoDynamic update task simulator := by
  cases call with
  | start topoName now =>
      rcases startSimulatorByTopo_leaves simulator topoName now with
        ⟨missing, left⟩ | ⟨reference, topology, topoId, found, left⟩
      · exact .inl ⟨topoName, rfl, missing, left⟩
      · exact .inr (.inl ⟨topoName, now, reference, topology, topoId, rfl, found, left⟩)
  | reload topoName now =>
      rcases startSimulatorByTopo_leaves simulator topoName now with
        ⟨missing, left⟩ | ⟨reference, topology, topoId, found, left⟩
      · exact .inl ⟨topoName, rfl, missing, left⟩
      · exact .inr (.inl ⟨topoName, now, reference, topology, topoId, rfl, found, left⟩)
  | update update task => exact .inr (.inr ⟨update, task, rfl, rfl⟩)

/-- `topo_data` has the names and the contents that were loaded. -/
def Pristine (loaded : JsonObject) (simulator : SharedSimulator) : Prop :=
  simulator.contents = loaded

/-- The call names no loaded topology that has an id. -/
def Call.Unstarted (loaded : JsonObject) (call : Call) : Prop :=
  ∀ topoName, call.topoName? = some topoName → Simulator.identified? loaded topoName = none

/-- Nothing was started yet. -/
structure Fresh (loaded : JsonObject) (simulator : SharedSimulator) : Prop where
  pristine : Pristine loaded simulator
  empty : simulator.dynamicData = .obj []

theorem contents_init (loaded : JsonObject) (table : Table) :
    (init loaded table).contents = loaded := by
  refine List.ext_getElem (by simp [contents, init]) fun index _ within => ?_
  simp [contents, init, object, List.getElem?_append_left, within]

theorem fresh_init (loaded : JsonObject) (table : Table) : Fresh loaded (init loaded table) :=
  ⟨contents_init loaded table, by simp [dynamicData, object, init]⟩

/-- Assigning an object to itself changes nothing. -/
theorem assign_self (simulator : SharedSimulator) (reference : Nat) :
    simulator.assign reference (simulator.object reference) = simulator := by
  have same : simulator.objects.set reference (simulator.object reference) =
      simulator.objects := by
    refine List.ext_getElem? fun index => ?_
    rw [List.getElem?_set]
    split
    · next here =>
        subst here
        split
        · next within => simp [object, within]
        · next outside => exact (List.getElem?_eq_none (Nat.le_of_not_lt outside)).symm
    · rfl
  simp [assign, same]

/-- A task marks nothing in empty data. -/
theorem leaves_empty (update : TaskService.TopologyUpdate) (task : JsonObject) :
    (update.perform task).leaves (.obj []) = .obj [] := by
  have nodeless : TaskService.nodesOf (.obj []) = .error (.keyError "nodes") := rfl
  obtain ⟨unmarked, _⟩ := update.plan_without_nodes task nodeless
  rw [update.leaves_eq, Plan.made, unmarked]
  rfl

/-- Until a loaded topology is started nothing changes. -/
theorem step_fresh {loaded : JsonObject} {simulator : SharedSimulator}
    (fresh : Fresh loaded simulator) {call : Call} (unstarted : call.Unstarted loaded) :
    Fresh loaded (step simulator call) := by
  obtain ⟨_, _, _, left⟩ | ⟨topoName, _, reference, topology, topoId, names, found, _⟩ |
    ⟨update, task, _, left⟩ := step_cases simulator call
  · rw [left]
    exact ⟨fresh.pristine, fresh.empty⟩
  · have missing := unstarted topoName names
    rw [← show simulator.contents = loaded from fresh.pristine,
      identified?_contents.mpr ⟨reference, found⟩] at missing
    cases missing
  · have same : updateNetworkTopoDynamic update task simulator = simulator := by
      rw [updateNetworkTopoDynamic, fresh.empty, leaves_empty, ← fresh.empty]
      exact assign_self simulator _
    rw [left, same]
    exact fresh

/-- A started topology leaves a name that stays. -/
theorem step_named {simulator : SharedSimulator}
    (named : "topo_id" ∈ simulator.topoData.map Prod.fst) (call : Call) :
    "topo_id" ∈ (step simulator call).topoData.map Prod.fst := by
  obtain ⟨_, _, _, left⟩ | ⟨topoName, _, reference, topology, topoId, names, found, left⟩ |
    ⟨update, task, _, left⟩ := step_cases simulator call
  · rw [left]
    exact named
  · rw [left]
    simp [started, Fields.keys_set, named]
  · rw [left]
    exact named

/-- A start takes the name. -/
theorem named_of_started {loaded : JsonObject} {simulator : SharedSimulator}
    (fresh : Fresh loaded simulator) {call : Call} (starts : ¬ call.Unstarted loaded) :
    "topo_id" ∈ (step simulator call).topoData.map Prod.fst := by
  obtain ⟨topoName, names, missing, _⟩ | ⟨_, _, _, _, _, _, _, left⟩ | ⟨_, _, rfl, _⟩ :=
    step_cases simulator call
  · refine absurd (fun other names' => ?_) starts
    obtain rfl := Option.some.inj (names.symm.trans names')
    rwa [show simulator.contents = loaded from fresh.pristine] at missing
  · rw [left]
    simp only [started, Fields.keys_set]
    split
    · assumption
    · exact List.mem_append_right _ List.mem_cons_self
  · exact absurd nofun starts

theorem not_pristine_of_named {loaded : JsonObject} (free : Fields.get? loaded "topo_id" = none)
    {simulator : SharedSimulator} (named : "topo_id" ∈ simulator.topoData.map Prod.fst) :
    ¬ Pristine loaded simulator := by
  intro pristine
  have kept : loaded.map Prod.fst = simulator.topoData.map Prod.fst := by
    rw [← show simulator.contents = loaded from pristine, contents, List.map_map]
    rfl
  rw [← kept, ← Fields.isSome_get?_iff, free] at named
  cases named

/-- While nothing is started the loaded topologies stay as they were. -/
theorem along_pristine {loaded : JsonObject} {table : Table} {calls : List Call}
    (each : Execution.Each step (fun _ call => call.Unstarted loaded) (init loaded table) calls) :
    Execution.Along step (Pristine loaded) (init loaded table) calls := by
  have fresh : Execution.Along step (Fresh loaded) (init loaded table) calls := by
    refine Execution.along_of_each ?_ ?_ each
    · exact fun _ _ fresh unstarted => step_fresh fresh unstarted
    · exact fresh_init loaded table
  exact fresh.mono fun _ fresh => fresh.pristine

/-- And only while, if none of them has the name that a start takes. -/
theorem along_pristine_iff {loaded : JsonObject} (free : Fields.get? loaded "topo_id" = none)
    (table : Table) (calls : List Call) :
    Execution.Along step (Pristine loaded) (init loaded table) calls ↔
      Execution.Each step (fun _ call => call.Unstarted loaded) (init loaded table) calls := by
  have preserved (simulator : SharedSimulator) (call : Call)
      (known : Fresh loaded simulator ∨ "topo_id" ∈ simulator.topoData.map Prod.fst) :
      Fresh loaded (step simulator call) ∨
        "topo_id" ∈ (step simulator call).topoData.map Prod.fst := by
    rcases known with fresh | named
    · by_cases unstarted : call.Unstarted loaded
      · exact .inl (step_fresh fresh unstarted)
      · exact .inr (named_of_started fresh unstarted)
    · exact .inr (step_named named call)
  refine Execution.along_iff_each preserved ?_ (.inl (fresh_init loaded table))
    (contents_init loaded table) calls
  · rintro simulator call (fresh | named) pristine
    · refine ⟨fun after => ?_, fun unstarted => (step_fresh fresh unstarted).pristine⟩
      by_contra starts
      exact not_pristine_of_named free (named_of_started fresh starts) after
    · exact absurd pristine (not_pristine_of_named free named)

/-- After a reload of the name the dynamic data has the nodes and the links that were loaded. -/
def Clean (loaded : JsonObject) (topoName : String) (simulator : SharedSimulator) : Prop :=
  ∀ now after, (reloadSimulatorByTopo topoName now).run simulator = .ok () after →
    ∃ fields original, after.dynamicData = .obj fields ∧
      Fields.get? loaded topoName = some (.obj original) ∧
        Fields.get? fields "nodes" = Fields.get? original "nodes" ∧
          Fields.get? fields "links" = Fields.get? original "links"

theorem clean_iff {loaded : JsonObject} {topoName : String} {simulator : SharedSimulator} :
    Clean loaded topoName simulator ↔ ∀ reference topology topoId,
      Found simulator topoName reference topology topoId →
        ∃ original, Fields.get? loaded topoName = some (.obj original) ∧
          Fields.get? topology "nodes" = Fields.get? original "nodes" ∧
            Fields.get? topology "links" = Fields.get? original "links" := by
  constructor
  · intro clean reference topology topoId found
    obtain ⟨fields, original, holds, loads, nodes, links⟩ :=
      clean 0 _ (startSimulatorByTopo_run found 0)
    obtain rfl := Json.obj.inj ((dynamicData_started found 0).symm.trans holds)
    exact ⟨original, loads, by simpa using nodes, by simpa using links⟩
  · intro each now after returned
    cases identified : Simulator.identified? simulator.contents topoName with
    | none =>
        obtain ⟨error, raised⟩ := startSimulatorByTopo_raises identified now
        cases raised.symm.trans returned
    | some pair =>
        obtain ⟨topology, topoId⟩ := pair
        obtain ⟨reference, found⟩ := identified?_contents.mp identified
        obtain ⟨original, loads, nodes, links⟩ := each reference topology topoId found
        cases (startSimulatorByTopo_run found now).symm.trans returned
        exact ⟨_, original, dynamicData_started found now, loads,
          by simpa using nodes, by simpa using links⟩

/-- Each name has an object of its own, and the dynamic data is none of them or one that was
started. -/
structure Separate (simulator : SharedSimulator) : Prop where
  distinct : (simulator.topoData.map Prod.snd).Nodup
  within : ∀ reference ∈ simulator.topoData.map Prod.snd, reference < simulator.objects.length
  shared : ∀ topoName,
    Fields.get? simulator.topoData topoName = some simulator.currentTopoDynamicData →
      ∃ topology topoId,
        Found simulator topoName simulator.currentTopoDynamicData topology topoId

theorem separate_init (loaded : JsonObject) (table : Table) : Separate (init loaded table) where
  distinct := by
    simp only [init, List.zipIdx_map_snd]
    exact List.nodup_range'
  within := by
    intro reference member
    simp only [init, List.zipIdx_map_snd, List.mem_range'_1, List.length_map] at member
    simp only [init, List.length_append, List.length_map, List.length_singleton]
    omega
  shared := by
    intro topoName named
    have member := List.mem_map_of_mem (f := Prod.snd) (Fields.mem_of_get? named)
    simp only [init, List.zipIdx_map_snd, List.mem_range'_1, List.length_map] at member
    omega

theorem Separate.apart {simulator : SharedSimulator} (separate : Separate simulator)
    {first second : String} {reference : Nat}
    (one : Fields.get? simulator.topoData first = some reference)
    (other : Fields.get? simulator.topoData second = some reference) : first = second :=
  congrArg Prod.fst (List.inj_on_of_nodup_map separate.distinct (Fields.mem_of_get? one)
    (Fields.mem_of_get? other) rfl)

theorem Separate.bounded {simulator : SharedSimulator} (separate : Separate simulator)
    {topoName : String} {reference : Nat}
    (named : Fields.get? simulator.topoData topoName = some reference) :
    reference < simulator.objects.length :=
  separate.within reference (List.mem_map.mpr ⟨_, Fields.mem_of_get? named, rfl⟩)

/-- What a name refers to after a start: the stamped object, the text, or what it did before. -/
theorem found_started {simulator : SharedSimulator} (separate : Separate simulator)
    {topoName : String} {reference : Nat} {topology : JsonObject} {topoId : Json}
    (found : Found simulator topoName reference topology topoId) (now : Nat)
    {other : String} {reference' : Nat} {topology' : JsonObject} {topoId' : Json}
    (found' : Found (started topoName reference topology topoId now simulator) other reference'
      topology' topoId') :
    ∃ before, Found simulator other reference' before topoId' ∧
      ((reference' ≠ reference ∧ topology' = before) ∨
        (reference' = reference ∧ topology' = Table.timestamped before now)) := by
  obtain ⟨refers, there, identified⟩ := found'
  have bound := (List.getElem?_eq_some_iff.mp found.there).1
  have there : ((simulator.objects ++ [currentTopo]).set reference
    (.obj (Table.timestamped topology now)))[reference']? = some (.obj topology') := there
  rw [started, Fields.get?_set] at refers
  split at refers
  · obtain rfl := Option.some.inj refers
    rw [List.getElem?_set_ne (Nat.ne_of_lt bound), List.getElem?_concat_length] at there
    cases there
  · have bound' := separate.bounded refers
    by_cases same : reference' = reference
    · subst same
      rw [List.getElem?_set_self (by simp; omega)] at there
      obtain rfl := Json.obj.inj (Option.some.inj there)
      refine ⟨topology, ⟨refers, found.there, ?_⟩, .inr ⟨rfl, rfl⟩⟩
      simpa using identified
    · rw [List.getElem?_set_ne (Ne.symm same), List.getElem?_append_left bound'] at there
      exact ⟨topology', ⟨refers, there, identified⟩, .inl ⟨same, rfl⟩⟩

/-- What a name refers to after an update: the marked object, or what it did before. -/
theorem found_updated {simulator : SharedSimulator} {update : TaskService.TopologyUpdate}
    {task : JsonObject} {topoName : String} {reference : Nat} {topology : JsonObject}
    {topoId : Json}
    (found : Found (updateNetworkTopoDynamic update task simulator) topoName reference topology
      topoId) :
    Fields.get? simulator.topoData topoName = some reference ∧
      ((reference ≠ simulator.currentTopoDynamicData ∧
          Found simulator topoName reference topology topoId) ∨
        (reference = simulator.currentTopoDynamicData ∧
          (update.perform task).leaves simulator.dynamicData = .obj topology)) := by
  obtain ⟨named, there, identified⟩ := found
  refine ⟨named, ?_⟩
  have there : (simulator.objects.set simulator.currentTopoDynamicData
    ((update.perform task).leaves simulator.dynamicData))[reference]? =
      some (.obj topology) := there
  by_cases same : reference = simulator.currentTopoDynamicData
  · subst same
    rw [List.getElem?_set] at there
    simp only [if_true] at there
    split at there
    · exact .inr ⟨rfl, Option.some.inj there⟩
    · cases there
  · rw [List.getElem?_set_ne (Ne.symm same)] at there
    exact .inl ⟨same, named, there, identified⟩

theorem step_separate {simulator : SharedSimulator} (separate : Separate simulator)
    (call : Call) : Separate (step simulator call) := by
  obtain ⟨_, _, _, left⟩ | ⟨topoName, now, reference, topology, topoId, _, found, left⟩ |
    ⟨update, task, _, left⟩ := step_cases simulator call
  · rw [left]
    exact ⟨separate.distinct, separate.within, fun name named => by
      obtain ⟨topology, topoId, found⟩ := separate.shared name named
      exact ⟨topology, topoId, found.named, found.there, found.identified⟩⟩
  · rw [left]
    have bound := (List.getElem?_eq_some_iff.mp found.there).1
    constructor
    · refine Fields.nodup_values_set separate.distinct (fun member => ?_) _
      exact Nat.lt_irrefl _ (separate.within _ member)
    · intro other member
      simp only [started, List.length_set, List.length_append, List.length_singleton]
      rcases Fields.mem_values_set member with rfl | there
      · exact Nat.lt_succ_self _
      · exact Nat.lt_succ_of_lt (separate.within _ there)
    · intro other named
      refine ⟨Table.timestamped topology now, topoId, named, ?_, ?_⟩
      · exact List.getElem?_set_self (by simp; omega)
      · simpa using found.identified
  · rw [left]
    refine ⟨separate.distinct, fun reference member => ?_, fun name named => ?_⟩
    · simpa [updateNetworkTopoDynamic, assign] using separate.within reference member
    · obtain ⟨topology, topoId, found⟩ := separate.shared name named
      obtain ⟨after, leaves, same⟩ := update.leaves_frame task topology
      have holds : simulator.dynamicData = .obj topology := by
        simp [dynamicData, object, found.there]
      refine ⟨after, topoId, named, ?_, (same "topo_id" (by decide)).trans found.identified⟩
      simp only [updateNetworkTopoDynamic, assign, holds, leaves]
      exact List.getElem?_set_self (separate.bounded named)

/-- The variables as values. -/
def view (simulator : SharedSimulator) : Simulator :=
  ⟨simulator.contents, simulator.currentTopoName, simulator.currentTopoId,
    simulator.dynamicData, simulator.networkTopoData⟩

/-- The contents that references have, of which one is changed. -/
theorem mapValues_assign {entries : List (String × Nat)} (objects : List Json) {topoName : String}
    {reference : Nat} (distinct : (entries.map Prod.snd).Nodup)
    (named : Fields.get? entries topoName = some reference) (within : reference < objects.length)
    (value : Json) :
    entries.map (fun entry => (entry.1, (objects.set reference value)[entry.2]?.getD .null)) =
      Fields.set (entries.map fun entry => (entry.1, objects[entry.2]?.getD .null)) topoName
        value := by
  induction entries with
  | nil => cases named
  | cons entry rest inductionHypothesis =>
      obtain ⟨key, target⟩ := entry
      rw [List.map_cons, List.nodup_cons] at distinct
      rw [Fields.get?] at named
      split at named
      · next same =>
          obtain rfl := Option.some.inj named
          have others : ∀ entry ∈ rest, (entry.1, (objects.set target value)[entry.2]?.getD .null) =
              (entry.1, objects[entry.2]?.getD .null) := by
            intro entry member
            have apart : target ≠ entry.2 := by
              rintro rfl
              exact distinct.1 (List.mem_map.mpr ⟨entry, member, rfl⟩)
            rw [List.getElem?_set_ne apart]
          rw [List.map_cons, List.map_cons, Fields.set, if_pos same, List.map_congr_left others]
          simp [within]
      · next other =>
          have apart : reference ≠ target := fun equal => distinct.1
            (equal ▸ List.mem_map.mpr ⟨_, Fields.mem_of_get? named, rfl⟩)
          rw [List.map_cons, List.map_cons, Fields.set, if_neg other,
            inductionHypothesis distinct.2 named, List.getElem?_set_ne apart]

theorem mapValues_unassigned {entries : List (String × Nat)} (objects : List Json)
    {reference : Nat} (absent : reference ∉ entries.map Prod.snd) (value : Json) :
    entries.map (fun entry => (entry.1, (objects.set reference value)[entry.2]?.getD .null)) =
      entries.map fun entry => (entry.1, objects[entry.2]?.getD .null) := by
  refine List.map_congr_left fun entry member => ?_
  have apart : reference ≠ entry.2 := fun equal =>
    absent (equal ▸ List.mem_map_of_mem member)
  rw [List.getElem?_set_ne apart]

theorem contents_nameCurrentTopo {simulator : SharedSimulator} (separate : Separate simulator) :
    simulator.nameCurrentTopo.contents =
      Fields.set simulator.contents "topo_id" currentTopo := by
  have image : simulator.nameCurrentTopo.contents =
      Fields.set (simulator.topoData.map fun entry =>
        (entry.1, simulator.nameCurrentTopo.object entry.2)) "topo_id"
          (simulator.nameCurrentTopo.object simulator.objects.length) := by
    rw [← Fields.set_mapValues]
    rfl
  have text : simulator.nameCurrentTopo.object simulator.objects.length = currentTopo := by
    simp [nameCurrentTopo, object]
  rw [image, text]
  refine congrArg (Fields.set · "topo_id" currentTopo) (List.map_congr_left fun entry member => ?_)
  have within := separate.within entry.2 (List.mem_map_of_mem member)
  simp [nameCurrentTopo, object, List.getElem?_append_left within]

theorem contents_started {simulator : SharedSimulator} (separate : Separate simulator)
    {topoName : String} {reference : Nat} {topology : JsonObject} {topoId : Json}
    (found : Found simulator topoName reference topology topoId) (now : Nat) :
    (started topoName reference topology topoId now simulator).contents =
      if topoName = "topo_id" then Fields.set simulator.contents "topo_id" currentTopo
      else Fields.set (Fields.set simulator.contents "topo_id" currentTopo) topoName
        (.obj (Table.timestamped topology now)) := by
  have bound := separate.bounded found.named
  have fresh : simulator.objects.length ∉ simulator.topoData.map Prod.snd :=
    fun member => Nat.lt_irrefl _ (separate.within _ member)
  rw [← contents_nameCurrentTopo separate]
  split
  · next same =>
      subst same
      refine mapValues_unassigned _ ?_ _
      exact Fields.not_mem_values_set separate.distinct found.named (Nat.ne_of_gt bound)
  · next other =>
      refine mapValues_assign _ (Fields.nodup_values_set separate.distinct fresh _) ?_ ?_ _
      · rw [Fields.get?_set, if_neg (Ne.symm other), found.named]
      · simp only [List.length_append, List.length_singleton]
        omega

theorem startSimulatorByTopo_view {simulator : SharedSimulator} (separate : Separate simulator)
    (topoName : String) (now : Nat) :
    view ((startSimulatorByTopo topoName now).leaves simulator) =
      (Simulator.startSimulatorByTopo topoName now).leaves simulator.view := by
  rcases startSimulatorByTopo_leaves simulator topoName now with
    ⟨missing, left⟩ | ⟨reference, topology, topoId, found, left⟩
  · have missing : Simulator.identified? simulator.view.topoData topoName = none := missing
    obtain ⟨error, raised⟩ := Simulator.startSimulatorByTopo_raises missing now
    rw [Effect.leaves_of_error raised, left]
    rfl
  · have identified : Simulator.identified? simulator.view.topoData topoName =
        some (topology, topoId) := identified?_contents.mpr ⟨reference, found⟩
    rw [Effect.leaves_of_ok (Simulator.startSimulatorByTopo_run identified now), left]
    rw [view, dynamicData_started found, contents_started separate found]
    rfl

/-- A start or a reload of values, of objects. -/
def Call.ofValues : Simulator.Call → Call
  | .start topoName now => .start topoName now
  | .reload topoName now => .reload topoName now

/-- In a run of starts and reloads the objects hold what the values are. -/
theorem run_view {simulator : SharedSimulator} (separate : Separate simulator)
    (calls : List Simulator.Call) :
    view (Execution.run step simulator (calls.map Call.ofValues)) =
      Execution.run Simulator.step simulator.view calls := by
  induction calls generalizing simulator with
  | nil => rfl
  | cons call rest inductionHypothesis =>
      have first : view (step simulator (Call.ofValues call)) =
          Simulator.step simulator.view call := by
        cases call <;> exact startSimulatorByTopo_view separate _ _
      rw [List.map_cons, Execution.run_cons, Execution.run_cons, ← first]
      exact inductionHypothesis (step_separate separate _)

/-- A task's update, while the name is the one that was started, sets only marks that are there. -/
def UnmarkedWhile (topoName : String) (simulator : SharedSimulator) (call : Call) : Prop :=
  ∀ update task, call = .update update task →
    Fields.get? simulator.topoData topoName = some simulator.currentTopoDynamicData →
      update.MarksThere task simulator.dynamicData

theorem clean_step_iff {loaded : JsonObject} {topoName : String} {simulator : SharedSimulator}
    (separate : Separate simulator) (clean : Clean loaded topoName simulator) (call : Call) :
    Clean loaded topoName (step simulator call) ↔ UnmarkedWhile topoName simulator call := by
  rw [clean_iff] at clean
  obtain ⟨_, names, _, left⟩ | ⟨_, now, reference, topology, topoId, names, found, left⟩ |
    ⟨update, task, rfl, left⟩ := step_cases simulator call
  · rw [left, clean_iff]
    refine iff_of_true (fun reference topology topoId found => ?_) ?_
    · exact clean reference topology topoId ⟨found.named, found.there, found.identified⟩
    · rintro update task rfl
      cases names
  · rw [left, clean_iff]
    refine iff_of_true (fun reference' topology' topoId' found' => ?_) ?_
    · obtain ⟨before, held, ⟨_, rfl⟩ | ⟨_, rfl⟩⟩ := found_started separate found now found'
      · exact clean reference' topology' topoId' held
      · obtain ⟨original, loads, nodes, links⟩ := clean reference' before topoId' held
        exact ⟨original, loads, by simpa using nodes, by simpa using links⟩
    · rintro update task rfl
      cases names
  · rw [left, clean_iff]
    constructor
    · rintro after _ _ ⟨⟩ named
      obtain ⟨topology, topoId, found⟩ := separate.shared topoName named
      have holds : simulator.dynamicData = .obj topology := by
        simp [dynamicData, object, found.there]
      obtain ⟨marked, leaves, same⟩ := update.leaves_frame task topology
      have there : (updateNetworkTopoDynamic update task simulator).objects[
          simulator.currentTopoDynamicData]? = some (.obj marked) := by
        simp only [updateNetworkTopoDynamic, assign, holds, leaves]
        exact List.getElem?_set_self (separate.bounded named)
      obtain ⟨original, loads, nodes, _⟩ := after _ marked topoId
        ⟨named, there, (same "topo_id" (by decide)).trans found.identified⟩
      obtain ⟨original', loads', nodes', _⟩ := clean _ topology topoId found
      obtain rfl := Json.obj.inj (Option.some.inj (loads.symm.trans loads'))
      rw [holds]
      exact update.marksThere_of_nodes leaves (nodes.trans nodes'.symm)
    · intro unmarked reference topology topoId found
      obtain ⟨named, ⟨_, found⟩ | ⟨rfl, leaves⟩⟩ := found_updated found
      · exact clean reference topology topoId found
      · have there := unmarked update task rfl named
        have same := TaskService.TopologyUpdate.leaves_of_marksThere there
        refine clean _ topology topoId ⟨named, ?_, found.identified⟩
        obtain ⟨before, _, held⟩ := separate.shared topoName named
        have holds : simulator.dynamicData = .obj before := by
          simp [dynamicData, object, held.there]
        rw [held.there, ← holds, ← same, leaves]

/-- What becomes of the loaded topologies: they stay as they were while none is started, and
only then if none has the name that a start takes; a reload finds the nodes and the links of
its topology as they were exactly while no task marks it. -/
theorem pristine_iff (loaded : JsonObject) (table : Table) (calls : List Call) :
    (Execution.Each step (fun _ call => call.Unstarted loaded) (init loaded table) calls →
      Execution.Along step (Pristine loaded) (init loaded table) calls) ∧
    (Fields.get? loaded "topo_id" = none →
      (Execution.Along step (Pristine loaded) (init loaded table) calls ↔
        Execution.Each step (fun _ call => call.Unstarted loaded) (init loaded table) calls)) ∧
    ∀ topoName, Execution.Along step (Clean loaded topoName) (init loaded table) calls ↔
      Execution.Each step (UnmarkedWhile topoName) (init loaded table) calls := by
  refine ⟨along_pristine, fun free => along_pristine_iff free table calls, fun topoName => ?_⟩
  have clean : Clean loaded topoName (init loaded table) := by
    refine clean_iff.mpr fun reference topology topoId found => ?_
    have identified := identified?_contents.mpr ⟨reference, found⟩
    rw [contents_init] at identified
    exact ⟨topology, (Simulator.identified?_eq_some identified).1, rfl, rfl⟩
  refine Execution.along_iff_each (fun _ call separate => step_separate separate call)
    (fun _ call separate clean => clean_step_iff separate clean call) ?_ ?_ calls
  · exact separate_init loaded table
  · exact clean

/-- A topology of one host, as a file has it. -/
def loadedHost : JsonObject :=
  [("Aarnet", .obj [("topo_id", .str "Aarnet"),
    ("nodes", .obj [("h1", .obj [("id", .str "h1"), ("node_type", .str "host"),
      ("ip", .str "10.0.0.1"), ("dpid", .number 1)])]), ("links", .arr [])])]

def defenceTask : JsonObject :=
  [("player", .str "defender"), ("client_ip", .str "10.0.0.1"), ("switch_dpid", .number 2)]

/-- A start leaves its name among the loaded topologies, and a task its mark in the one that is
reloaded. -/
theorem marked_after_reload :
    ¬ Execution.Along step (Pristine loadedHost) (init loadedHost []) [.start "Aarnet" 1] ∧
      ¬ Execution.Along step (Clean loadedHost "Aarnet") (init loadedHost [])
        [.start "Aarnet" 1, .update .host defenceTask] := by
  constructor
  · intro along
    have same : (step (init loadedHost []) (.start "Aarnet" 1)).contents = loadedHost := along.last
    exact absurd (congrArg List.length same) (by decide +kernel)
  · intro along
    have marked : (TaskService.fieldAt (step (Execution.run step (init loadedHost [])
        [.start "Aarnet" 1, .update .host defenceTask]) (.reload "Aarnet" 2)).dynamicData
          ("h1", "defend_source")).isSome = true := by decide +kernel
    obtain ⟨fields, original, holds, loads, nodes, _⟩ := along.last 2 _ rfl
    cases loads
    have unmarked : TaskService.fieldAt (.obj fields) ("h1", "defend_source") = none := by
      simp [TaskService.fieldAt, TaskService.nodesOf, Json.subscript, nodes, Fields.get?, bind,
        Except.bind, pure, Except.pure]
    have reloaded : (step (Execution.run step (init loadedHost [])
        [.start "Aarnet" 1, .update .host defenceTask]) (.reload "Aarnet" 2)).dynamicData =
          .obj fields := holds
    rw [reloaded, unmarked] at marked
    cases marked

end SharedSimulator
end NetworkAdapter
