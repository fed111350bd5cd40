import NetworkAdapter.Semantics.Plan
import NetworkAdapter.Std.Json

/-!
# Marks in the dynamic topology

`update_network_topo_dynamic_host` and `update_network_topo_dynamic_switch` of
`service/task_service.py` over the dynamic data of `system/simulator.py`. The new data is
the old object, so a mark is set in the data that is being read, and what an exception
interrupts is not undone. What the loops read is nothing they mark: `update_run` gives the
run of a call as a plan made from the data before it.
-/

namespace NetworkAdapter.TaskService

/-- The fields of a node that tasks mark. -/
inductive MarkField where
  | attackSource
  | victimSource
  | defendSource
deriving DecidableEq

def MarkField.name : MarkField → String
  | .attackSource => "attack_source"
  | .victimSource => "victim_source"
  | .defendSource => "defend_source"

/-- `new_network_dynamic_data['nodes'][node_id][field] = value`, to be executed. -/
structure Mark where
  nodeId : Json
  field : MarkField
  value : Json

/-- `data['nodes']`, of which `values()` is taken. -/
def nodesOf (data : Json) : Except PyError JsonObject := do
  match ← data.subscript "nodes" with
  | .obj nodes => pure nodes
  | _ => throw (.attributeError "values")

/-- The data with a mark in the node of this key, if there is one. -/
def marked (mark : Mark) (data : Json) : Json :=
  match data, mark.nodeId with
  | .obj fields, .str key =>
      match Fields.get? fields "nodes" with
      | some (.obj nodes) =>
          match Fields.get? nodes key with
          | some (.obj node) =>
              .obj (Fields.set fields "nodes" (.obj (Fields.set nodes key
                (.obj (Fields.set node mark.field.name mark.value)))))
          | _ => data
      | _ => data
  | _, _ => data

/-- The assignment of a mark. -/
def setMark (mark : Mark) : Effect PyError Json Unit := do
  let nodes ← Effect.ofExcept ((← get).subscript "nodes")
  let node ← Effect.ofExcept (nodes.subscriptBy mark.nodeId)
  match node with
  | .obj _ => modify (marked mark)
  | _ => throw .typeError

/-- The node of a key as it is now. -/
def nodeNow (key : String) (data : Json) : Except PyError Json := do
  (Json.obj (← nodesOf data)).subscript key

/-- `for node in old_network_dynamic_data['nodes'].values()`. The body reads none of the
fields it marks, so the marks it makes and the exception that ends it are those of the node
as its iteration starts. -/
def forNodes (body : Json → Plan PyError Mark Unit) : Effect PyError Json Unit := do
  let nodes ← Effect.ofExcept (nodesOf (← get))
  forM (nodes.map Prod.fst) fun key => do
    let node ← Effect.ofExcept (nodeNow key (← get))
    (body node).perform setMark

/-- `task['params']['target_ip']`. -/
def targetIp (task : Json) : Except PyError Json := do
  (← task.subscript "params").subscript "target_ip"

/-- The first loop's body: a node with the address of the client or of the target gives its
id to the source it is. -/
def findSources (task : Json) (sources : Json × Json) (node : Json) :
    Except PyError (Json × Json) := do
  let nodeId ← node.subscript "id"
  let fromClient := (← node.subscript "ip").equals (← task.subscript "client_ip")
  let attackSourceId := if fromClient then nodeId else sources.1
  let isTarget := (← node.subscript "ip").equals (← targetIp task)
  pure (attackSourceId, if isTarget then nodeId else sources.2)

/-- `attack_source_id` and `victim_source_id` before the second loop. -/
def sourceIds (task data : Json) : Except PyError (Json × Json) := do
  if (← task.subscript "player").equals (.str "attacker") then
    (← nodesOf data).foldlM (fun sources entry => findSources task sources entry.2)
      (.str "", .str "")
  else pure (.str "", .str "")

/-- `if found == wanted:` followed by the assignment of a mark. -/
def markIf (found wanted : Except PyError Json) (mark : Except PyError Mark) :
    Plan PyError Mark Unit := do
  if (← .ofExcept found).equals (← .ofExcept wanted) then
    Plan.write (← .ofExcept mark)

/-- `if value[field] == text:`. -/
def whenIs (value : Json) (field text : String) (body : Plan PyError Mark Unit) :
    Plan PyError Mark Unit := do
  if (← .ofExcept (value.subscript field)).equals (.str text) then body

/-- What the second loop does for an attacker's task. -/
def markAttack (task : Json) (sources : Json × Json) (nodeId node : Json) :
    Plan PyError Mark Unit := do
  markIf (node.subscript "ip") (task.subscript "client_ip")
    (pure ⟨nodeId, .attackSource, sources.2⟩)
  markIf (node.subscript "ip") (targetIp task) (pure ⟨nodeId, .victimSource, sources.1⟩)

/-- What the second loop does for a defender's task. -/
def markDefence (task nodeId node : Json) : Plan PyError Mark Unit := do
  markIf (node.subscript "ip") (task.subscript "client_ip")
    (do pure ⟨nodeId, .defendSource, ← task.subscript "client_ip"⟩)
  markIf (node.subscript "dpid") (task.subscript "switch_dpid")
    (do pure ⟨nodeId, .defendSource, ← task.subscript "switch_dpid"⟩)

/-- The second loop's body. -/
def markHost (task : Json) (sources : Json × Json) (node : Json) : Plan PyError Mark Unit := do
  let nodeId ← .ofExcept (node.subscript "id")
  whenIs node "node_type" "host" do
    whenIs task "player" "attacker" (markAttack task sources nodeId node)
    whenIs task "player" "defender" (markDefence task nodeId node)

/-- The body of the loop for a task of a switch. -/
def markSwitch (task node : Json) : Plan PyError Mark Unit :=
  whenIs node "node_type" "switch"
    (markIf (node.subscript "dpid") (task.subscript "switch_dpid") (do
      let value ← task.subscript "switch_dpid"
      pure ⟨← node.subscript "id", .defendSource, value⟩))

/-- The `try` body of `update_network_topo_dynamic_host`. The object it hands to
`update_current_topo_dynamic_data` is the one that is there. -/
def markHosts (task : Json) : Effect PyError Json Unit := do
  let sources ← Effect.ofExcept (sourceIds task (← get))
  forNodes (markHost task sources)

/-- The `try` body of `update_network_topo_dynamic_switch`. -/
def markSwitches (task : Json) : Effect PyError Json Unit := forNodes (markSwitch task)

/-- `update_network_topo_dynamic_host`. -/
def updateNetworkTopoDynamicHost (task : JsonObject) : Effect PyError Json Unit :=
  tryCatch (markHosts (.obj task)) fun _ => pure ()

/-- `update_network_topo_dynamic_switch`. -/
def updateNetworkTopoDynamicSwitch (task : JsonObject) : Effect PyError Json Unit :=
  tryCatch (markSwitches (.obj task)) fun _ => pure ()

theorem nodesOf_eq_ok {data : Json} {nodes : JsonObject} :
    nodesOf data = .ok nodes ↔
      ∃ fields, data = .obj fields ∧ Fields.get? fields "nodes" = some (.obj nodes) := by
  unfold nodesOf
  cases data with
  | obj fields =>
      cases found : Fields.get? fields "nodes" with
      | none => simp [Json.subscript, found, bind, Except.bind]
      | some value =>
          cases value <;> simp [Json.subscript, found, bind, Except.bind, pure, Except.pure]
  | _ => simp [Json.subscript, bind, Except.bind]

/-- The fields that tasks mark. -/
def isMark (field : String) : Bool :=
  field == "attack_source" || field == "victim_source" || field == "defend_source"

theorem isMark_name (field : MarkField) : isMark field.name = true := by
  cases field <;> rfl

/-- A node without its marks. -/
def bare : Json → Json
  | .obj node => .obj (node.filter fun entry => !isMark entry.1)
  | other => other

def bareNodes (nodes : JsonObject) : JsonObject :=
  nodes.map fun entry => (entry.1, bare entry.2)

theorem subscript_bare (node : Json) {field : String} (unmarked : isMark field = false) :
    (bare node).subscript field = node.subscript field := by
  cases node with
  | obj fields =>
      simp only [bare, Json.subscript]
      rw [Fields.get?_filter fields (fun field => !isMark field)]
      simp [unmarked]
  | _ => rfl

/-- The data differs in marks at most from one with these nodes. -/
def SameNodes (nodes : JsonObject) (data : Json) : Prop :=
  ∃ fields now, data = .obj fields ∧ Fields.get? fields "nodes" = some (.obj now) ∧
    bareNodes now = bareNodes nodes

/-- The node of this id is there, and an object. -/
def Markable (nodes : JsonObject) (mark : Mark) : Bool :=
  match mark.nodeId with
  | .str key =>
      match Fields.get? nodes key with
      | some (.obj _) => true
      | _ => false
  | _ => false

/-- The node and the field a mark is set in. -/
def Mark.place (mark : Mark) : String × String := (mark.nodeId.keyText, mark.field.name)

/-- What a field of a node holds. -/
def fieldAt (data : Json) (place : String × String) : Option Json :=
  match nodesOf data with
  | .ok nodes =>
      match Fields.get? nodes place.1 with
      | some (.obj node) => Fields.get? node place.2
      | _ => none
  | .error _ => none

theorem sameNodes_of_nodesOf {data : Json} {nodes : JsonObject} (has : nodesOf data = .ok nodes) :
    SameNodes nodes data := by
  obtain ⟨fields, rfl, found⟩ := nodesOf_eq_ok.mp has
  exact ⟨fields, nodes, rfl, found, rfl⟩

/-- Data that differ in marks at most have the same objects as nodes. -/
theorem object_iff {now nodes : JsonObject} (same : bareNodes now = bareNodes nodes)
    (key : String) : (∃ node, Fields.get? now key = some (.obj node)) ↔
      ∃ node, Fields.get? nodes key = some (.obj node) := by
  have alike : (Fields.get? now key).map bare = (Fields.get? nodes key).map bare := by
    rw [← Fields.get?_mapValues, ← Fields.get?_mapValues]
    exact congrArg (fun entries => Fields.get? entries key) same
  have objects (found : Option Json) :
      (∃ node, found = some (.obj node)) ↔ ∃ node, found.map bare = some (.obj node) := by
    cases found with
    | none => simp
    | some value => cases value <;> simp [bare]
  exact (objects _).trans ((Iff.of_eq (by rw [alike])).trans (objects _).symm)

/-- Where a mark goes, in data that differ in marks at most. -/
theorem markable_iff {nodes : JsonObject} {data : Json} (same : SameNodes nodes data)
    (mark : Mark) : Markable nodes mark = true ↔
      ∃ fields now key node, data = .obj fields ∧ Fields.get? fields "nodes" = some (.obj now) ∧
        bareNodes now = bareNodes nodes ∧ mark.nodeId = .str key ∧
          Fields.get? now key = some (.obj node) := by
  obtain ⟨fields, now, rfl, found, alike⟩ := same
  constructor
  · intro markable
    unfold Markable at markable
    split at markable
    · next key names =>
        split at markable
        · next node there =>
            obtain ⟨node', there'⟩ := (object_iff alike key).mpr ⟨node, there⟩
            exact ⟨fields, now, key, node', rfl, found, alike, names, there'⟩
        · cases markable
    · cases markable
  · rintro ⟨fields', now', key, node, same, found', _, names, there⟩
    cases same
    cases found.symm.trans found'
    obtain ⟨node', there'⟩ := (object_iff alike key).mp ⟨node, there⟩
    simp [Markable, names, there']

theorem marked_eq {fields now node : JsonObject} {mark : Mark} {key : String}
    (found : Fields.get? fields "nodes" = some (.obj now)) (names : mark.nodeId = .str key)
    (there : Fields.get? now key = some (.obj node)) :
    marked mark (.obj fields) = .obj (Fields.set fields "nodes" (.obj (Fields.set now key
      (.obj (Fields.set node mark.field.name mark.value))))) := by
  simp only [marked, names, found, there]

theorem fieldAt_eq {fields now : JsonObject}
    (found : Fields.get? fields "nodes" = some (.obj now)) (place : String × String) :
    fieldAt (.obj fields) place =
      match Fields.get? now place.1 with
      | some (.obj node) => Fields.get? node place.2
      | _ => none := by
  unfold fieldAt
  rw [nodesOf_eq_ok.mpr ⟨fields, rfl, found⟩]

/-- The nodes after a mark. -/
theorem nodes_marked (fields : JsonObject) (value : Json) :
    Fields.get? (Fields.set fields "nodes" value) "nodes" = some value := by
  rw [Fields.get?_set, if_pos rfl]

/-- A mark on what is no node raises. -/
theorem setMark_raises {nodes : JsonObject} {data : Json} {mark : Mark}
    (same : SameNodes nodes data) (unmarkable : Markable nodes mark = false) :
    ∃ error, (setMark mark).run data = .error error data := by
  have nowhere := mt (markable_iff same mark).mpr (by simp [unmarkable])
  obtain ⟨fields, now, rfl, found, alike⟩ := same
  have looks : (Json.obj fields).subscript "nodes" = .ok (.obj now) :=
    Json.subscript_obj_eq_ok.mpr found
  cases looked : (Json.obj now).subscriptBy mark.nodeId with
  | error error => exact ⟨error, by simp [setMark, looks, looked]⟩
  | ok value =>
      cases value with
      | obj node =>
          refine absurd ?_ nowhere
          unfold Json.subscriptBy at looked
          split at looked
          · next key names =>
              exact ⟨fields, now, key, node, rfl, found, alike, names,
                Json.subscript_obj_eq_ok.mp looked⟩
          all_goals cases looked
      | _ => exact ⟨.typeError, by simp [setMark, looks, looked]⟩

section TwoMarks

variable {fields now node node' : JsonObject} {first second : Mark} {key key' : String}

/-- Two marks on one node set two of its fields. -/
theorem marked_twice_same (found : Fields.get? fields "nodes" = some (.obj now))
    (names : first.nodeId = .str key) (names' : second.nodeId = .str key)
    (there : Fields.get? now key = some (.obj node)) :
    marked second (marked first (.obj fields)) =
      .obj (Fields.set fields "nodes" (.obj (Fields.set now key (.obj (Fields.set (Fields.set node
        first.field.name first.value) second.field.name second.value))))) := by
  have there' : Fields.get? (Fields.set now key
      (.obj (Fields.set node first.field.name first.value))) key =
        some (.obj (Fields.set node first.field.name first.value)) := by
    rw [Fields.get?_set, if_pos rfl]
  rw [marked_eq found names there, marked_eq (nodes_marked _ _) names' there', Fields.set_set,
    Fields.set_set]

/-- Two marks on different nodes set a field of each. -/
theorem marked_twice_apart (found : Fields.get? fields "nodes" = some (.obj now))
    (names : first.nodeId = .str key) (names' : second.nodeId = .str key')
    (there : Fields.get? now key = some (.obj node))
    (there' : Fields.get? now key' = some (.obj node')) (keys : key ≠ key') :
    marked second (marked first (.obj fields)) =
      .obj (Fields.set fields "nodes" (.obj (Fields.set (Fields.set now key (.obj (Fields.set node
        first.field.name first.value))) key' (.obj (Fields.set node' second.field.name
          second.value))))) := by
  have other : Fields.get? (Fields.set now key
      (.obj (Fields.set node first.field.name first.value))) key' = some (.obj node') := by
    rw [Fields.get?_set, if_neg keys, there']
  rw [marked_eq found names there, marked_eq (nodes_marked _ _) names' other, Fields.set_set]

end TwoMarks

/-- A mark that can be set is set, and changes nothing that a loop reads. -/
theorem marks_assign (nodes : JsonObject) :
    Plan.Assigns setMark (SameNodes nodes) (Markable nodes) marked Mark.place Mark.value
      fieldAt where
  kept := by
    intro data mark same markable
    obtain ⟨fields, now, key, node, rfl, found, alike, names, there⟩ :=
      (markable_iff same mark).mp markable
    rw [marked_eq found names there]
    refine ⟨_, _, rfl, nodes_marked _ _, ?_⟩
    rw [bareNodes, Fields.map_set there, ← bareNodes, alike]
    rw [bare, bare, Fields.filter_set node (fun field => !isMark field)]
    simp [isMark_name]
  done := by
    intro data mark same markable
    obtain ⟨fields, now, key, node, rfl, found, alike, names, there⟩ :=
      (markable_iff same mark).mp markable
    simp [setMark, Json.subscript, Json.subscriptBy, names, found, there]
  raised := setMark_raises
  read_apply := by
    intro data mark same markable place
    obtain ⟨fields, now, key, node, rfl, found, alike, names, there⟩ :=
      (markable_iff same mark).mp markable
    obtain ⟨wanted, field⟩ := place
    rw [marked_eq found names there, fieldAt_eq (nodes_marked _ _), fieldAt_eq found]
    simp only [Mark.place, names, Json.keyText, Prod.mk.injEq, Fields.get?_set]
    by_cases here : key = wanted
    · subst here
      by_cases named : mark.field.name = field <;> simp [named, there]
    · simp [here]
  same := by
    intro data mark same markable holds
    obtain ⟨fields, now, key, node, rfl, found, alike, names, there⟩ :=
      (markable_iff same mark).mp markable
    have held : Fields.get? node mark.field.name = some mark.value := by
      simpa [fieldAt_eq found, Mark.place, names, Json.keyText, there] using holds
    rw [marked_eq found names there, Fields.set_eq_self held, Fields.set_eq_self there,
      Fields.set_eq_self found]
  overwrite := by
    intro data first second same markable markable' places
    obtain ⟨fields, now, key, node, rfl, found, alike, names, there⟩ :=
      (markable_iff same first).mp markable
    obtain ⟨_, _, key', node', one, found', _, names', there'⟩ :=
      (markable_iff same second).mp markable'
    cases one
    cases found.symm.trans found'
    have keys : key = key' := by
      simpa [Mark.place, names, names', Json.keyText] using (Prod.mk.inj places).1
    have fields' : first.field.name = second.field.name := (Prod.mk.inj places).2
    subst keys
    cases there.symm.trans there'
    rw [marked_twice_same found names names' there, marked_eq found names' there, fields',
      Fields.set_set]
  commute := by
    intro data first second same markable markable' places present
    obtain ⟨fields, now, key, node, rfl, found, alike, names, there⟩ :=
      (markable_iff same first).mp markable
    obtain ⟨_, _, key', node', one, found', _, names', there'⟩ :=
      (markable_iff same second).mp markable'
    cases one
    cases found.symm.trans found'
    by_cases keys : key = key'
    · subst keys
      cases there.symm.trans there'
      have apart : first.field.name ≠ second.field.name := fun equal =>
        places (by simp [Mark.place, names, names', equal])
      have held : (Fields.get? node first.field.name).isSome := by
        simpa [fieldAt_eq found, Mark.place, names, Json.keyText, there] using present
      rw [marked_twice_same found names names' there, marked_twice_same found names' names there,
        Fields.set_comm apart held]
    · rw [marked_twice_apart found names names' there there' keys,
        marked_twice_apart found names' names there' there (Ne.symm keys),
        Fields.set_comm keys (by rw [there]; rfl)]

/-- The loop as planned from the data before it. -/
def planNodes (body : Json → Plan PyError Mark Unit) (data : Json) : Plan PyError Mark Unit := do
  let nodes ← .ofExcept (nodesOf data)
  forM (nodes.map Prod.fst) fun key => do
    let node ← .ofExcept (nodeNow key data)
    body node

def hostPlan (task data : Json) : Plan PyError Mark Unit := do
  let sources ← .ofExcept (sourceIds task data)
  planNodes (markHost task sources) data

def switchPlan (task data : Json) : Plan PyError Mark Unit := planNodes (markSwitch task) data

/-- A body that does not look at marks. -/
def Unmarked (body : Json → Plan PyError Mark Unit) : Prop := ∀ node, body (bare node) = body node

theorem markHost_unmarked (task : Json) (sources : Json × Json) :
    Unmarked (markHost task sources) := by
  intro node
  simp [markHost, markAttack, markDefence, whenIs, subscript_bare, isMark]

theorem markSwitch_unmarked (task : Json) : Unmarked (markSwitch task) := by
  intro node
  simp [markSwitch, whenIs, subscript_bare, isMark]

/-- Now or before the loop, a node is the same but for its marks. -/
theorem nodeNow_bare {nodes : JsonObject} {data : Json} (same : SameNodes nodes data)
    (key : String) : (nodeNow key data).map bare = ((Json.obj nodes).subscript key).map bare := by
  obtain ⟨fields, now, rfl, found, alike⟩ := same
  have looks : nodesOf (.obj fields) = .ok now := nodesOf_eq_ok.mpr ⟨fields, rfl, found⟩
  have mapped : (Fields.get? now key).map bare = (Fields.get? nodes key).map bare := by
    rw [← Fields.get?_mapValues, ← Fields.get?_mapValues]
    exact congrArg (fun entries => Fields.get? entries key) alike
  simp only [nodeNow, looks, bind, Except.bind, Json.subscript]
  cases one : Fields.get? now key <;> cases other : Fields.get? nodes key <;>
    simp_all [Except.map]

/-- The body of a node as it is now is that of the node before the loop. -/
theorem body_nodeNow {body : Json → Plan PyError Mark Unit} (unmarked : Unmarked body)
    {nodes : JsonObject} {data : Json} (same : SameNodes nodes data) (key : String) :
    (Plan.ofExcept (nodeNow key data) >>= body) =
      Plan.ofExcept ((Json.obj nodes).subscript key) >>= body := by
  have alike := nodeNow_bare same key
  cases now : nodeNow key data with
  | error error =>
      cases before : (Json.obj nodes).subscript key with
      | error error' => simp_all [Except.map]
      | ok node' => simp_all [Except.map]
  | ok node =>
      cases before : (Json.obj nodes).subscript key with
      | error error' => simp_all [Except.map]
      | ok node' =>
          have equal : bare node = bare node' := by simpa [now, before, Except.map] using alike
          rw [Plan.bind_of_ok rfl, Plan.bind_of_ok rfl, ← unmarked node, equal, unmarked node']
          rfl

/-- The rest of the loop performs the rest of its plan. -/
theorem forKeys_run {body : Json → Plan PyError Mark Unit} (unmarked : Unmarked body)
    {data : Json} {nodes : JsonObject} (looks : nodesOf data = .ok nodes) (keys : List String)
    {now : Json} (same : SameNodes nodes now) :
    (forM keys fun key => do
        let node ← Effect.ofExcept (nodeNow key (← get))
        (body node).perform setMark : Effect PyError Json Unit).run now =
      ((forM keys fun key => Plan.ofExcept (nodeNow key data) >>= body).perform setMark).run
        now := by
  induction keys generalizing now with
  | nil => rfl
  | cons key rest inductionHypothesis =>
      have turn : (do
            let node ← Effect.ofExcept (nodeNow key (← get))
            (body node).perform setMark : Effect PyError Json Unit).run now =
          ((Plan.ofExcept (nodeNow key data) >>= body).perform setMark).run now := by
        rw [body_nodeNow unmarked (sameNodes_of_nodesOf looks), ← body_nodeNow unmarked same,
          Plan.perform_bind, Plan.perform_ofExcept]
        rfl
      rw [List.forM_cons, List.forM_cons, Plan.perform_bind]
      refine (EStateM.run_bind _ _).trans (Eq.trans ?_ (EStateM.run_bind _ _).symm)
      rw [turn]
      rcases (marks_assign nodes).perform_cases (Plan.ofExcept (nodeNow key data) >>= body) same
        with ⟨_, value, returned⟩ | ⟨_, error, raised⟩
      · rw [returned]
        exact inductionHypothesis ((marks_assign nodes).known_applyAll
          (fun mark member => List.mem_takeWhile_imp member) same)
      · rw [raised]

/-- The loop performs its plan. -/
theorem forNodes_run {body : Json → Plan PyError Mark Unit} (unmarked : Unmarked body)
    (data : Json) :
    (forNodes body).run data = ((planNodes body data).perform setMark).run data := by
  cases looks : nodesOf data with
  | error error =>
      rw [planNodes, Plan.perform_bind, Plan.perform_ofExcept]
      simp [forNodes, looks]
  | ok nodes =>
      have ran := forKeys_run unmarked looks (nodes.map Prod.fst) (sameNodes_of_nodesOf looks)
      rw [planNodes, Plan.perform_bind, Plan.perform_ofExcept]
      simpa [forNodes, looks] using ran

/-- A call performs its plan. -/
theorem markHosts_run (task data : Json) :
    (markHosts task).run data = ((hostPlan task data).perform setMark).run data := by
  rw [hostPlan, Plan.perform_bind, Plan.perform_ofExcept]
  cases sources : sourceIds task data with
  | error error => simp [markHosts, sources]
  | ok pair => simpa [markHosts, sources] using forNodes_run (markHost_unmarked task pair) data

theorem markSwitches_run (task data : Json) :
    (markSwitches task).run data = ((switchPlan task data).perform setMark).run data :=
  forNodes_run (markSwitch_unmarked task) data

end NetworkAdapter.TaskService
