import NetworkAdapter.Service.Topology

/-!
# Updates that fail halfway

The two updates swallow their exceptions, but the marks set before one stay: the new data
is the live object. `update_atomic_iff` says when an update nevertheless does all or
nothing.
-/

namespace NetworkAdapter.TaskService

/-- The two updates. -/
inductive TopologyUpdate where
  | host
  | switch
deriving DecidableEq

namespace TopologyUpdate

/-- The `try` body of an update. -/
def attempt (update : TopologyUpdate) (task : JsonObject) : Effect PyError Json Unit :=
  match update with
  | .host => markHosts (.obj task)
  | .switch => markSwitches (.obj task)

/-- The update itself. -/
def perform (update : TopologyUpdate) (task : JsonObject) : Effect PyError Json Unit :=
  match update with
  | .host => updateNetworkTopoDynamicHost task
  | .switch => updateNetworkTopoDynamicSwitch task

def plan (update : TopologyUpdate) (task : JsonObject) (data : Json) : Plan PyError Mark Unit :=
  match update with
  | .host => hostPlan (.obj task) data
  | .switch => switchPlan (.obj task) data

end TopologyUpdate

/-- Both were read, and are equal. -/
def Matches (found wanted : Except PyError Json) : Prop :=
  ∃ value other, found = .ok value ∧ wanted = .ok other ∧ value.equals other = true

/-- One step of the search for the last node with an address. -/
def lastIdStep (address : Json) (found : Json) (node : Json) : Json :=
  match node.subscript "id", node.subscript "ip" with
  | .ok nodeId, .ok ip => if ip.equals address then nodeId else found
  | _, _ => found

/-- The id of the last node with an address, and the empty text if there is none. -/
def idAt (nodes : JsonObject) (address : Json) : Json :=
  nodes.foldl (fun found entry => lastIdStep address found entry.2) (.str "")

/-- The marks a task implies for a host. -/
inductive HostImplies (task : Json) (nodes : JsonObject) (node : Json) : Mark → Prop where
  | attacker {nodeId target : Json} (named : node.subscript "id" = .ok nodeId)
      (host : node.subscript "node_type" = .ok (.str "host"))
      (player : task.subscript "player" = .ok (.str "attacker"))
      (comes : Matches (node.subscript "ip") (task.subscript "client_ip"))
      (goes : targetIp task = .ok target) :
      HostImplies task nodes node ⟨nodeId, .attackSource, idAt nodes target⟩
  | victim {nodeId client : Json} (named : node.subscript "id" = .ok nodeId)
      (host : node.subscript "node_type" = .ok (.str "host"))
      (player : task.subscript "player" = .ok (.str "attacker"))
      (comes : task.subscript "client_ip" = .ok client)
      (goes : Matches (node.subscript "ip") (targetIp task)) :
      HostImplies task nodes node ⟨nodeId, .victimSource, idAt nodes client⟩
  | defender {nodeId client : Json} (named : node.subscript "id" = .ok nodeId)
      (host : node.subscript "node_type" = .ok (.str "host"))
      (player : task.subscript "player" = .ok (.str "defender"))
      (comes : Matches (node.subscript "ip") (task.subscript "client_ip"))
      (given : task.subscript "client_ip" = .ok client) :
      HostImplies task nodes node ⟨nodeId, .defendSource, client⟩
  | guarded {nodeId dpid : Json} (named : node.subscript "id" = .ok nodeId)
      (host : node.subscript "node_type" = .ok (.str "host"))
      (player : task.subscript "player" = .ok (.str "defender"))
      (guards : Matches (node.subscript "dpid") (task.subscript "switch_dpid"))
      (given : task.subscript "switch_dpid" = .ok dpid) :
      HostImplies task nodes node ⟨nodeId, .defendSource, dpid⟩

/-- The mark a task implies for a switch. -/
inductive SwitchImplies (task : Json) (node : Json) : Mark → Prop where
  | guarded {nodeId dpid : Json} (named : node.subscript "id" = .ok nodeId)
      (switch : node.subscript "node_type" = .ok (.str "switch"))
      (guards : Matches (node.subscript "dpid") (task.subscript "switch_dpid"))
      (given : task.subscript "switch_dpid" = .ok dpid) :
      SwitchImplies task node ⟨nodeId, .defendSource, dpid⟩

/-- The marks that a task implies in some data. -/
def TopologyUpdate.Implies (update : TopologyUpdate) (task : JsonObject) (data : Json)
    (mark : Mark) : Prop :=
  ∃ nodes key node, nodesOf data = .ok nodes ∧ key ∈ nodes.map Prod.fst ∧
    nodeNow key data = .ok node ∧
      match update with
      | .host => HostImplies (.obj task) nodes node mark
      | .switch => SwitchImplies (.obj task) node mark

theorem mem_markIf {found wanted : Except PyError Json} {planned : Except PyError Mark}
    {mark : Mark} :
    mark ∈ (markIf found wanted planned).writes ↔ Matches found wanted ∧ planned = .ok mark := by
  unfold markIf Matches
  simp only [Plan.mem_writes_bind, Plan.mem_writes_ofExcept, Plan.result_ofExcept, false_or]
  constructor
  · rintro ⟨value, rfl, other, rfl, written⟩
    split at written
    · next equal => exact ⟨⟨value, other, rfl, rfl, equal⟩, by simpa [eq_comm] using written⟩
    · simp at written
  · rintro ⟨⟨value, other, rfl, rfl, equal⟩, rfl⟩
    exact ⟨value, rfl, other, rfl, by simp [equal]⟩

theorem mem_whenIs {value : Json} {field text : String} {body : Plan PyError Mark Unit}
    {mark : Mark} : mark ∈ (whenIs value field text body).writes ↔
      value.subscript field = .ok (.str text) ∧ mark ∈ body.writes := by
  unfold whenIs
  simp only [Plan.mem_writes_bind, Plan.mem_writes_ofExcept, Plan.result_ofExcept, false_or]
  constructor
  · rintro ⟨found, read, written⟩
    split at written
    · next equal => exact ⟨by rw [read, (Json.equals_str_right _ _).mp equal], written⟩
    · simp at written
  · rintro ⟨read, written⟩
    exact ⟨_, read, by rwa [if_pos (Json.str_equals_self text)]⟩

/-- A test ends well if its field is there and its body, if it is passed, ends well. -/
theorem whenIs_result_iff {value : Json} {field text : String} {body : Plan PyError Mark Unit} :
    (whenIs value field text body).result = .ok () ↔
      ∃ found, value.subscript field = .ok found ∧
        (found = .str text → body.result = .ok ()) := by
  unfold whenIs
  rw [Plan.result_bind_eq_ok]
  simp only [Plan.result_ofExcept]
  refine exists_congr fun found => and_congr_right fun _ => ?_
  split
  · next equal => simp [(Json.equals_str_right _ _).mp equal]
  · next differs =>
      have other : found ≠ .str text := fun same => differs (same ▸ Json.str_equals_self text)
      simp [other]

/-- A test that ends well, and passes, lets its body end well. -/
theorem whenIs_result {value : Json} {field text : String} {body : Plan PyError Mark Unit}
    (ends : (whenIs value field text body).result = .ok ())
    (passes : value.subscript field = .ok (.str text)) : body.result = .ok () := by
  obtain ⟨found, read, later⟩ := whenIs_result_iff.mp ends
  exact later (Except.ok.inj (read.symm.trans passes))

/-- The sources found for an attacker are the ids at the two addresses. -/
def Sources (task : Json) (nodes : JsonObject) (sources : Json × Json) : Prop :=
  task.subscript "player" = .ok (.str "attacker") →
    ∃ client target, task.subscript "client_ip" = .ok client ∧ targetIp task = .ok target ∧
      sources = (idAt nodes client, idAt nodes target)

/-- The marks made for a host are implied by the task. -/
theorem implies_of_mem {task : Json} {nodes : JsonObject} {sources : Json × Json}
    (found : Sources task nodes sources) {node : Json} {mark : Mark}
    (written : mark ∈ (markHost task sources node).writes) : HostImplies task nodes node mark := by
  simp only [markHost, markAttack, markDefence, Plan.mem_writes_bind, Plan.mem_writes_ofExcept,
    Plan.result_ofExcept, false_or, mem_whenIs, mem_markIf] at written
  obtain ⟨nodeId, named, host, ⟨player, attacks⟩ | ⟨_, _, player, defends⟩⟩ := written
  · obtain ⟨client, target, comes, goes, rfl⟩ := found player
    rcases attacks with ⟨address, made⟩ | ⟨_, _, address, made⟩
    · obtain rfl := Except.ok.inj made
      exact .attacker named host player address goes
    · obtain rfl := Except.ok.inj made
      exact .victim named host player comes address
  · rcases defends with ⟨address, made⟩ | ⟨_, _, guards, made⟩
    · obtain ⟨client, given, made⟩ := ok_of_bind made
      obtain rfl := Except.ok.inj made
      exact .defender named host player address given
    · obtain ⟨dpid, given, made⟩ := ok_of_bind made
      obtain rfl := Except.ok.inj made
      exact .guarded named host player guards given

/-- While the turn of a host ends well, all of them are made. -/
theorem mem_of_implies {task : Json} {nodes : JsonObject} {sources : Json × Json}
    (found : Sources task nodes sources) {node : Json} {mark : Mark}
    (ends : (markHost task sources node).result = .ok ())
    (implied : HostImplies task nodes node mark) : mark ∈ (markHost task sources node).writes := by
  obtain ⟨nodeId, named, ends⟩ := (Plan.result_bind_eq_ok _ _ _).mp ends
  have named : node.subscript "id" = .ok nodeId := named
  simp only [markHost, Plan.mem_writes_bind, Plan.mem_writes_ofExcept, Plan.result_ofExcept,
    false_or, mem_whenIs]
  refine ⟨nodeId, named, ?_⟩
  have turn (host : node.subscript "node_type" = .ok (.str "host")) :=
    (Plan.result_bind_eq_ok _ _ _).mp (whenIs_result ends host)
  cases implied with
  | attacker named' host player comes goes =>
      obtain rfl := Except.ok.inj (named.symm.trans named')
      obtain ⟨client, target, _, goes', rfl⟩ := found player
      obtain rfl := Except.ok.inj (goes.symm.trans goes')
      refine ⟨host, .inl ⟨player, ?_⟩⟩
      rw [markAttack, Plan.mem_writes_bind, mem_markIf]
      exact .inl ⟨comes, rfl⟩
  | victim named' host player comes goes =>
      obtain rfl := Except.ok.inj (named.symm.trans named')
      obtain ⟨client, target, comes', _, rfl⟩ := found player
      obtain rfl := Except.ok.inj (comes.symm.trans comes')
      obtain ⟨_, attacked, _⟩ := turn host
      obtain ⟨_, first, _⟩ := (Plan.result_bind_eq_ok _ _ _).mp (whenIs_result attacked player)
      refine ⟨host, .inl ⟨player, ?_⟩⟩
      rw [markAttack, Plan.mem_writes_bind, mem_markIf]
      exact .inr ⟨_, first, mem_markIf.mpr ⟨goes, rfl⟩⟩
  | defender named' host player comes given =>
      obtain rfl := Except.ok.inj (named.symm.trans named')
      obtain ⟨_, attacked, _⟩ := turn host
      refine ⟨host, .inr ⟨_, attacked, player, ?_⟩⟩
      rw [markDefence, Plan.mem_writes_bind, mem_markIf]
      exact .inl ⟨comes, by rw [given]; rfl⟩
  | guarded named' host player guards given =>
      obtain rfl := Except.ok.inj (named.symm.trans named')
      obtain ⟨_, attacked, defended⟩ := turn host
      obtain ⟨_, first, _⟩ := (Plan.result_bind_eq_ok _ _ _).mp (whenIs_result defended player)
      refine ⟨host, .inr ⟨_, attacked, player, ?_⟩⟩
      rw [markDefence, Plan.mem_writes_bind, mem_markIf]
      exact .inr ⟨_, first, mem_markIf.mpr ⟨guards, by rw [given]; rfl⟩⟩

theorem mem_markSwitch {task node : Json} {mark : Mark} :
    mark ∈ (markSwitch task node).writes ↔ SwitchImplies task node mark := by
  rw [markSwitch, mem_whenIs, mem_markIf]
  constructor
  · rintro ⟨switch, guards, made⟩
    obtain ⟨dpid, given, made⟩ := ok_of_bind made
    obtain ⟨nodeId, named, made⟩ := ok_of_bind made
    obtain rfl := Except.ok.inj made
    exact .guarded named switch guards given
  · rintro ⟨named, switch, guards, given⟩
    refine ⟨switch, guards, ?_⟩
    rw [given]
    simp [named, bind, Except.bind, pure, Except.pure]

/-- A search that ends well has read the task and every node. -/
theorem findSources_ok {task node : Json} {sources after : Json × Json}
    (returned : findSources task sources node = .ok after) :
    ∃ client target, task.subscript "client_ip" = .ok client ∧ targetIp task = .ok target ∧
      after = (lastIdStep client sources.1 node, lastIdStep target sources.2 node) := by
  obtain ⟨nodeId, named, returned⟩ := ok_of_bind returned
  obtain ⟨ip, address, returned⟩ := ok_of_bind returned
  obtain ⟨client, comes, returned⟩ := ok_of_bind returned
  obtain ⟨ip', address', returned⟩ := ok_of_bind returned
  obtain ⟨target, goes, returned⟩ := ok_of_bind returned
  obtain rfl := Except.ok.inj (address.symm.trans address')
  refine ⟨client, target, comes, goes, (Except.ok.inj returned).symm.trans ?_⟩
  simp [lastIdStep, named, address]

/-- A search over all nodes that ends well finds the ids at the two addresses. -/
theorem foldlM_findSources {task : Json} {nodes : JsonObject} {sources after : Json × Json}
    (returned : nodes.foldlM (fun sources entry => findSources task sources entry.2) sources =
      .ok after) : (nodes = [] ∧ after = sources) ∨
    ∃ client target, task.subscript "client_ip" = .ok client ∧ targetIp task = .ok target ∧
      after = (nodes.foldl (fun found entry => lastIdStep client found entry.2) sources.1,
        nodes.foldl (fun found entry => lastIdStep target found entry.2) sources.2) := by
  induction nodes generalizing sources with
  | nil => exact .inl ⟨rfl, (Except.ok.inj returned).symm⟩
  | cons entry rest inductionHypothesis =>
      rw [List.foldlM_cons] at returned
      obtain ⟨middle, step, returned⟩ := ok_of_bind returned
      obtain ⟨client, target, comes, goes, rfl⟩ := findSources_ok step
      refine .inr ⟨client, target, comes, goes, ?_⟩
      rcases inductionHypothesis returned with ⟨rfl, rfl⟩ | ⟨client', target', comes', goes', rfl⟩
      · rfl
      · obtain rfl := Except.ok.inj (comes.symm.trans comes')
        obtain rfl := Except.ok.inj (goes.symm.trans goes')
        rfl

theorem sources_of_sourceIds {task data : Json} {nodes : JsonObject} {sources : Json × Json}
    (looks : nodesOf data = .ok nodes) (some : nodes ≠ [])
    (returned : sourceIds task data = .ok sources) : Sources task nodes sources := by
  intro player
  obtain ⟨_, read, returned⟩ := ok_of_bind returned
  obtain rfl := Except.ok.inj (player.symm.trans read)
  rw [if_pos (Json.str_equals_self _)] at returned
  obtain ⟨_, looks', returned⟩ := ok_of_bind returned
  obtain rfl := Except.ok.inj (looks.symm.trans looks')
  rcases foldlM_findSources returned with ⟨none, _⟩ | ⟨client, target, comes, goes, rfl⟩
  · exact absurd none some
  · exact ⟨client, target, comes, goes, rfl⟩

/-- The marks of a loop are those of its nodes. -/
theorem mem_planNodes {body : Json → Plan PyError Mark Unit} {data : Json} {mark : Mark}
    (written : mark ∈ (planNodes body data).writes) :
    ∃ nodes key node, nodesOf data = .ok nodes ∧ key ∈ nodes.map Prod.fst ∧
      nodeNow key data = .ok node ∧ mark ∈ (body node).writes := by
  simp only [planNodes, Plan.mem_writes_bind, Plan.mem_writes_ofExcept, Plan.result_ofExcept,
    false_or] at written
  obtain ⟨nodes, looks, written⟩ := written
  obtain ⟨earlier, key, later, keys, _, written⟩ := Plan.mem_forM_writes written
  simp only [Plan.mem_writes_bind, Plan.mem_writes_ofExcept, Plan.result_ofExcept,
    false_or] at written
  obtain ⟨node, there, written⟩ := written
  exact ⟨nodes, key, node, looks, by simp [keys], there, written⟩

/-- In a loop that ends well, every turn ends well and all its marks are made. -/
theorem planNodes_ok {body : Json → Plan PyError Mark Unit} {data : Json}
    (ends : (planNodes body data).result = .ok ()) {nodes : JsonObject}
    (looks : nodesOf data = .ok nodes) {key : String} (member : key ∈ nodes.map Prod.fst)
    {node : Json} (there : nodeNow key data = .ok node) :
    (body node).result = .ok () ∧
      ∀ mark ∈ (body node).writes, mark ∈ (planNodes body data).writes := by
  obtain ⟨nodes', looks', ends⟩ := (Plan.result_bind_eq_ok _ _ _).mp ends
  have looks' : nodesOf data = .ok nodes' := looks'
  obtain rfl := Except.ok.inj (looks.symm.trans looks')
  have turn := (Plan.forM_result _ _).mp ends key member
  obtain ⟨node', there', turn⟩ := (Plan.result_bind_eq_ok _ _ _).mp turn
  have there' : nodeNow key data = .ok node' := there'
  obtain rfl := Except.ok.inj (there.symm.trans there')
  refine ⟨turn, fun mark written => ?_⟩
  rw [planNodes, Plan.mem_writes_bind]
  refine .inr ⟨nodes, looks, Plan.mem_forM_writes_of_ok ends member ?_⟩
  rw [Plan.mem_writes_bind]
  exact .inr ⟨node, there, written⟩

namespace TopologyUpdate

/-- The marks an update makes are implied by its task. -/
theorem implies_of_mem_plan {update : TopologyUpdate} {task : JsonObject} {data : Json}
    {mark : Mark} (written : mark ∈ (update.plan task data).writes) :
    update.Implies task data mark := by
  cases update with
  | host =>
      simp only [plan, hostPlan, Plan.mem_writes_bind, Plan.mem_writes_ofExcept,
        Plan.result_ofExcept, false_or] at written
      obtain ⟨sources, returned, written⟩ := written
      obtain ⟨nodes, key, node, looks, member, there, written⟩ := mem_planNodes written
      have some : nodes ≠ [] := by
        rintro rfl
        cases member
      exact ⟨nodes, key, node, looks, member, there,
        implies_of_mem (sources_of_sourceIds looks some returned) written⟩
  | switch =>
      obtain ⟨nodes, key, node, looks, member, there, written⟩ := mem_planNodes written
      exact ⟨nodes, key, node, looks, member, there, mem_markSwitch.mp written⟩

/-- An update planned to end well makes them all. -/
theorem mem_plan_of_implies {update : TopologyUpdate} {task : JsonObject} {data : Json}
    (ends : (update.plan task data).result = .ok ()) {mark : Mark}
    (implied : update.Implies task data mark) : mark ∈ (update.plan task data).writes := by
  obtain ⟨nodes, key, node, looks, member, there, implied⟩ := implied
  cases update with
  | host =>
      obtain ⟨sources, returned, ends⟩ := (Plan.result_bind_eq_ok _ _ _).mp ends
      have returned : sourceIds (.obj task) data = .ok sources := returned
      have some : nodes ≠ [] := by
        rintro rfl
        cases member
      obtain ⟨turn, made⟩ := planNodes_ok ends looks member there
      simp only [plan, hostPlan, Plan.mem_writes_bind, Plan.mem_writes_ofExcept,
        Plan.result_ofExcept, false_or]
      exact ⟨sources, returned, made mark
        (mem_of_implies (sources_of_sourceIds looks some returned) turn implied)⟩
  | switch =>
      obtain ⟨_, made⟩ := planNodes_ok ends looks member there
      exact made mark (mem_markSwitch.mpr implied)

/-- The update raises, and swallows it, or ends well and has changed nothing else. -/
def Atomic (update : TopologyUpdate) (task : JsonObject) (data : Json) : Prop :=
  match (update.attempt task).run data with
  | .ok _ _ => ∀ mark, update.Implies task data mark →
      fieldAt ((update.perform task).leaves data) mark.place = some mark.value
  | .error _ _ => (update.perform task).leaves data = data

/-- The nodes of the data, if it has any. -/
def nodesOr (data : Json) : JsonObject :=
  match nodesOf data with
  | .ok nodes => nodes
  | .error _ => []

/-- The task or a node lacks a field the update reads, or a node that is to be marked is not
there. -/
def Interrupted (update : TopologyUpdate) (task : JsonObject) (data : Json) : Prop :=
  (update.plan task data).Fails (Markable (nodesOr data))

/-- The mark last set in a field before the update is interrupted. -/
def lastMark (update : TopologyUpdate) (task : JsonObject) (data : Json)
    (place : String × String) : Option Json :=
  Plan.lastAt Mark.place Mark.value ((update.plan task data).made (Markable (nodesOr data))) place

/-- What an interrupted update last sets in a field was there before, and of the marks that one
which is not interrupted implies no two in one field differ. -/
def Undisturbed (update : TopologyUpdate) (task : JsonObject) (data : Json) : Prop :=
  (update.Interrupted task data → ∀ place value, update.lastMark task data place = some value →
    fieldAt data place = some value) ∧
  (¬ update.Interrupted task data → ∀ first second, update.Implies task data first →
    update.Implies task data second → first.place = second.place → first.value = second.value)

theorem attempt_run (update : TopologyUpdate) (task : JsonObject) (data : Json) :
    (update.attempt task).run data = ((update.plan task data).perform setMark).run data := by
  cases update with
  | host => exact markHosts_run (.obj task) data
  | switch => exact markSwitches_run (.obj task) data

theorem perform_leaves (update : TopologyUpdate) (task : JsonObject) (data : Json) :
    (update.perform task).leaves data = (update.attempt task).leaves data := by
  have swallowed : update.perform task = tryCatch (update.attempt task) fun _ => pure () := by
    cases update <;> rfl
  rw [swallowed, Effect.leaves, Effect.leaves, Effect.run_tryCatch]
  cases (update.attempt task).run data <;> rfl

/-- Without nodes nothing is marked, and something is missing. -/
theorem plan_without_nodes (update : TopologyUpdate) (task : JsonObject) {data : Json}
    {error : PyError} (none : nodesOf data = .error error) :
    (update.plan task data).writes = [] ∧
      ∃ error, (update.plan task data).result = .error error := by
  have nodeless (body : Json → Plan PyError Mark Unit) :
      planNodes body data = ⟨[], .error error⟩ := by
    rw [planNodes, none]
    rfl
  cases update with
  | host =>
      simp only [plan, hostPlan]
      cases returned : sourceIds (.obj task) data with
      | error error' => exact ⟨rfl, error', rfl⟩
      | ok sources =>
          rw [Plan.bind_of_ok rfl, nodeless]
          exact ⟨rfl, error, rfl⟩
  | switch => exact ⟨congrArg Plan.writes (nodeless _), error, congrArg Plan.result (nodeless _)⟩

theorem nodesOr_eq {data : Json} {nodes : JsonObject} (looks : nodesOf data = .ok nodes) :
    nodesOr data = nodes := by
  simp [nodesOr, looks]

/-- An update that is interrupted raises and leaves the marks set so far; one that is not
returns and leaves all the marks its task implies. -/
theorem attempt_cases (update : TopologyUpdate) (task : JsonObject) (data : Json) :
    (update.Interrupted task data ∧ ∃ error, (update.attempt task).run data = .error error
        (Plan.applyAll marked ((update.plan task data).made (Markable (nodesOr data))) data)) ∨
      (¬ update.Interrupted task data ∧ (update.attempt task).run data =
        .ok () (Plan.applyAll marked (update.plan task data).writes data)) := by
  rw [attempt_run]
  cases looks : nodesOf data with
  | error error =>
      obtain ⟨unmarked, error', raised⟩ := plan_without_nodes update task looks
      refine .inl ⟨.inr ⟨error', raised⟩, error', ?_⟩
      simp [Plan.perform, Plan.made, unmarked, raised, Plan.applyAll]
  | ok nodes =>
      unfold Interrupted
      rw [nodesOr_eq looks]
      rcases (marks_assign nodes).perform_cases (update.plan task data)
        (sameNodes_of_nodesOf looks) with ⟨complete, value, returned⟩ | ⟨fails, raised⟩
      · rw [(Plan.made_of_not_fails complete).1] at returned
        exact .inr ⟨complete, returned⟩
      · exact .inl ⟨fails, raised⟩

/-- An interrupted update changes nothing just if each mark it last sets in a field was there. -/
theorem unchanged_iff (update : TopologyUpdate) (task : JsonObject) (data : Json) :
    Plan.applyAll marked ((update.plan task data).made (Markable (nodesOr data))) data = data ↔
      ∀ place value, update.lastMark task data place = some value →
        fieldAt data place = some value := by
  unfold lastMark
  cases looks : nodesOf data with
  | error error =>
      obtain ⟨unmarked, _⟩ := plan_without_nodes update task looks
      simp [Plan.made, unmarked, Plan.applyAll, Plan.lastAt]
  | ok nodes =>
      rw [nodesOr_eq looks]
      exact (marks_assign nodes).applyAll_eq_self_iff (fun _ => Plan.valid_of_mem_made)
        (sameNodes_of_nodesOf looks)

/-- An update leaves the marks it has made. -/
theorem leaves_eq (update : TopologyUpdate) (task : JsonObject) (data : Json) :
    (update.perform task).leaves data =
      Plan.applyAll marked ((update.plan task data).made (Markable (nodesOr data))) data := by
  rw [perform_leaves]
  rcases attempt_cases update task data with ⟨_, error, raised⟩ | ⟨complete, returned⟩
  · exact Effect.leaves_of_error raised
  · rw [(Plan.made_of_not_fails complete).1]
    exact Effect.leaves_of_ok returned

/-- Every mark that the update makes is there already. -/
def MarksThere (update : TopologyUpdate) (task : JsonObject) (data : Json) : Prop :=
  ∀ place value, update.lastMark task data place = some value → fieldAt data place = some value

theorem leaves_of_marksThere {update : TopologyUpdate} {task : JsonObject} {data : Json}
    (there : update.MarksThere task data) : (update.perform task).leaves data = data :=
  (leaves_eq update task data).trans ((unchanged_iff update task data).mpr there)

/-- What is marked last in a field is what it holds in the end. -/
theorem fieldAt_leaves {update : TopologyUpdate} {task : JsonObject} {data : Json}
    {place : String × String} {value : Json}
    (last : update.lastMark task data place = some value) :
    fieldAt ((update.perform task).leaves data) place = some value := by
  rw [leaves_eq]
  unfold lastMark at last
  cases looks : nodesOf data with
  | error error =>
      obtain ⟨unmarked, _⟩ := plan_without_nodes update task looks
      simp [Plan.made, unmarked, Plan.lastAt] at last
  | ok nodes =>
      rw [nodesOr_eq looks] at last ⊢
      rw [(marks_assign nodes).read_applyAll (fun _ => Plan.valid_of_mem_made)
        (sameNodes_of_nodesOf looks), last]
      rfl

/-- A mark changes the nodes only. -/
theorem marked_frame (mark : Mark) (fields : JsonObject) :
    ∃ after, marked mark (.obj fields) = .obj after ∧
      ∀ field, field ≠ "nodes" → Fields.get? after field = Fields.get? fields field := by
  unfold marked
  split
  · next given key same _ =>
      obtain rfl := Json.obj.inj same
      split
      · split
        · exact ⟨_, rfl, fun field other => by rw [Fields.get?_set, if_neg (Ne.symm other)]⟩
        · exact ⟨_, rfl, fun _ _ => rfl⟩
      · exact ⟨_, rfl, fun _ _ => rfl⟩
  · exact ⟨_, rfl, fun _ _ => rfl⟩

theorem applyAll_marked_frame (marks : List Mark) (fields : JsonObject) :
    ∃ after, Plan.applyAll marked marks (.obj fields) = .obj after ∧
      ∀ field, field ≠ "nodes" → Fields.get? after field = Fields.get? fields field := by
  induction marks generalizing fields with
  | nil => exact ⟨fields, rfl, fun _ _ => rfl⟩
  | cons mark rest inductionHypothesis =>
      obtain ⟨middle, first, same⟩ := marked_frame mark fields
      obtain ⟨after, later, same'⟩ := inductionHypothesis middle
      refine ⟨after, ?_, fun field other => (same' field other).trans (same field other)⟩
      exact (congrArg (Plan.applyAll marked rest) first).trans later

/-- An update changes the nodes only. -/
theorem leaves_frame (update : TopologyUpdate) (task fields : JsonObject) :
    ∃ after, (update.perform task).leaves (.obj fields) = .obj after ∧
      ∀ field, field ≠ "nodes" → Fields.get? after field = Fields.get? fields field := by
  rw [leaves_eq]
  exact applyAll_marked_frame _ fields

/-- And if it does not change them either, its marks were there. -/
theorem marksThere_of_nodes {update : TopologyUpdate} {task fields after : JsonObject}
    (left : (update.perform task).leaves (.obj fields) = .obj after)
    (same : Fields.get? after "nodes" = Fields.get? fields "nodes") :
    update.MarksThere task (.obj fields) := by
  intro place value last
  have marks := fieldAt_leaves last
  have looks : nodesOf (.obj after) = nodesOf (.obj fields) := by
    simp [nodesOf, Json.subscript, same]
  rw [left] at marks
  unfold fieldAt at marks ⊢
  rwa [looks] at marks

/-- The marks of an update that is not interrupted are there in the end just if none of them
differ in one field. -/
theorem implied_there_iff {update : TopologyUpdate} {task : JsonObject} {data : Json}
    (complete : ¬ update.Interrupted task data) :
    (∀ mark, update.Implies task data mark → fieldAt
        (Plan.applyAll marked (update.plan task data).writes data) mark.place = some mark.value) ↔
      ∀ first second, update.Implies task data first → update.Implies task data second →
        first.place = second.place → first.value = second.value := by
  obtain ⟨_, all, _, ends⟩ := Plan.made_of_not_fails complete
  have implied (mark : Mark) :
      mark ∈ (update.plan task data).writes ↔ update.Implies task data mark :=
    ⟨implies_of_mem_plan, mem_plan_of_implies ends⟩
  cases looks : nodesOf data with
  | error error =>
      obtain ⟨_, error', raised⟩ := plan_without_nodes update task looks
      cases ends.symm.trans raised
  | ok nodes =>
      rw [nodesOr_eq looks] at all
      have there := (marks_assign nodes).all_there_iff all (sameNodes_of_nodesOf looks)
      simp only [implied] at there
      refine there.trans ⟨fun agree first second one other => agree first one second other, ?_⟩
      exact fun agree first one second other => agree first second one other

/-- An update does all or nothing just if it is undisturbed. -/
theorem update_atomic_iff (update : TopologyUpdate) (task : JsonObject) (data : Json) :
    update.Atomic task data ↔ update.Undisturbed task data := by
  unfold Atomic Undisturbed
  rw [perform_leaves, Effect.leaves]
  rcases attempt_cases update task data with ⟨interrupted, error, raised⟩ | ⟨complete, returned⟩
  · rw [raised]
    have unchanged := unchanged_iff update task data
    exact ⟨fun same => ⟨fun _ => unchanged.mp same, absurd interrupted⟩,
      fun both => unchanged.mpr (both.1 interrupted)⟩
  · rw [returned]
    have there := implied_there_iff complete
    exact ⟨fun all => ⟨fun interrupted => absurd interrupted complete, fun _ => there.mp all⟩,
      fun both => there.mpr (both.2 complete)⟩

/-- A host without a datapath id, as the stored topologies have them. -/
def storedHost : Json :=
  .obj [("nodes", .obj [("h1", .obj [("id", .str "h1"), ("node_type", .str "host"),
    ("ip", .str "10.0.0.1")])])]

/-- The update marks the host of the defender, and then asks it for a datapath id. -/
theorem interrupted_after_mark :
    ¬ TopologyUpdate.host.Atomic
      [("player", .str "defender"), ("client_ip", .str "10.0.0.1"), ("switch_dpid", .number 1)]
      storedHost := by
  intro atomic
  have same : (TopologyUpdate.host.perform [("player", .str "defender"),
      ("client_ip", .str "10.0.0.1"), ("switch_dpid", .number 1)]).leaves storedHost =
        storedHost := atomic
  have marks := congrArg (fun data => (fieldAt data ("h1", "defend_source")).isSome) same
  exact absurd marks (by decide +kernel)

end TopologyUpdate
end NetworkAdapter.TaskService
