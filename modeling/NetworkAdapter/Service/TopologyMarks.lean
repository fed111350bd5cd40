import NetworkAdapter.Service.TopologyUpdate

/-!
# What a host task should mark

In a topology as it is stored, hosts have an address and switches need not have one, and
neither need have a datapath id. The loops of the update read both of every node they come
to, so they often stop early. `host_marks_iff` says when the marks a task asks for are
nevertheless the marks that are set.
-/

namespace NetworkAdapter.TaskService

/-- Nodes as they are stored: each under its id and with a type, hosts with an address. -/
structure Stored (nodes : JsonObject) : Prop where
  distinct : (nodes.map Prod.fst).Nodup
  named : ∀ {key node}, Fields.get? nodes key = some node → node.subscript "id" = .ok (.str key)
  typed : ∀ {key node}, Fields.get? nodes key = some node →
    ∃ kind, node.subscript "node_type" = .ok kind
  addressed : ∀ {key node}, Fields.get? nodes key = some node →
    node.subscript "node_type" = .ok (.str "host") → ∃ ip, node.subscript "ip" = .ok ip

/-- The node under a key has an address. -/
def NodeAt (nodes : JsonObject) (key : String) (address : Json) : Prop :=
  ∃ node, Fields.get? nodes key = some node ∧ Matches (node.subscript "ip") (.ok address)

/-- The node under a key is a host and has an address. -/
def HostAt (nodes : JsonObject) (key : String) (address : Json) : Prop :=
  ∃ node, Fields.get? nodes key = some node ∧ node.subscript "node_type" = .ok (.str "host") ∧
    Matches (node.subscript "ip") (.ok address)

/-- The id of a node with the address, and the empty text if there is none. -/
def IdOf (nodes : JsonObject) (address nodeId : Json) : Prop :=
  (∃ key, NodeAt nodes key address ∧ nodeId = .str key) ∨
    (∀ key, ¬ NodeAt nodes key address) ∧ nodeId = .str ""

/-- An attacker's task, from a client to a target. -/
structure Attacks (task : JsonObject) (client target : Json) : Prop where
  player : (Json.obj task).subscript "player" = .ok (.str "attacker")
  comes : (Json.obj task).subscript "client_ip" = .ok client
  goes : targetIp (.obj task) = .ok target

/-- A defender's task from a client. -/
structure Defends (task : JsonObject) (client : Json) : Prop where
  player : (Json.obj task).subscript "player" = .ok (.str "defender")
  comes : (Json.obj task).subscript "client_ip" = .ok client

/-- The attacker's host names the target's node and the target's host the attacker's, and no
other field of a node has changed. -/
structure AttackShown (nodes : JsonObject) (client target before after : Json) : Prop where
  attacker : ∀ key, HostAt nodes key client →
    ∃ nodeId, IdOf nodes target nodeId ∧ fieldAt after (key, "attack_source") = some nodeId
  victim : ∀ key, HostAt nodes key target →
    ∃ nodeId, IdOf nodes client nodeId ∧ fieldAt after (key, "victim_source") = some nodeId
  others : ∀ key field, ¬ (field = "attack_source" ∧ HostAt nodes key client) →
    ¬ (field = "victim_source" ∧ HostAt nodes key target) →
      fieldAt after (key, field) = fieldAt before (key, field)

/-- The defender's host names its own address, and no other field of a node has changed. -/
structure DefenceShown (nodes : JsonObject) (client before after : Json) : Prop where
  defender : ∀ key, HostAt nodes key client →
    fieldAt after (key, "defend_source") = some client
  others : ∀ key field, ¬ (field = "defend_source" ∧ HostAt nodes key client) →
    fieldAt after (key, field) = fieldAt before (key, field)

/-- Every node has an address. -/
def AllAddressed (nodes : JsonObject) : Prop :=
  ∀ key node, Fields.get? nodes key = some node → ∃ ip, node.subscript "ip" = .ok ip

/-- A host at which the loop of a defender's task ends: the host has no datapath id, or the
task none to compare it with. -/
def Stops (task : JsonObject) (nodes : JsonObject) (key : String) : Prop :=
  ∃ node, Fields.get? nodes key = some node ∧
    node.subscript "node_type" = .ok (.str "host") ∧
      ¬ ((∃ dpid, node.subscript "dpid" = .ok dpid) ∧
        ∃ dpid, (Json.obj task).subscript "switch_dpid" = .ok dpid)

/-- No host before this one in the map stops the loop. -/
def Reached (task : JsonObject) (nodes : JsonObject) (key : String) : Prop :=
  ∃ earlier later, nodes.map Prod.fst = earlier ++ key :: later ∧
    ∀ other ∈ earlier, ¬ Stops task nodes other

/-- The host under a key has the datapath id of the task's switch. -/
def Guards (task : JsonObject) (nodes : JsonObject) (key : String) (dpid : Json) : Prop :=
  ∃ node, Fields.get? nodes key = some node ∧
    node.subscript "node_type" = .ok (.str "host") ∧
      (Json.obj task).subscript "switch_dpid" = .ok dpid ∧
        Matches (node.subscript "dpid") (.ok dpid)

/-- The defender's host is reached or was marked before, and a datapath id written to a
reached host is the address it is to show or what was there before. -/
structure DefenceFits (task : JsonObject) (nodes : JsonObject) (client data : Json) : Prop where
  reached : ∀ key, HostAt nodes key client → Reached task nodes key ∨
    fieldAt data (key, "defend_source") = some client
  own : ∀ key dpid, Reached task nodes key → Guards task nodes key dpid →
    HostAt nodes key client → dpid = client
  foreign : ∀ key dpid, Reached task nodes key → Guards task nodes key dpid →
    ¬ HostAt nodes key client → fieldAt data (key, "defend_source") = some dpid

theorem markIf_result {found wanted : Except PyError Json} {planned : Except PyError Mark} :
    (markIf found wanted planned).result = .ok () ↔
      ∃ value other, found = .ok value ∧ wanted = .ok other ∧
        (value.equals other = true → ∃ mark, planned = .ok mark) := by
  unfold markIf
  rw [Plan.result_bind_eq_ok]
  simp only [Plan.result_bind_eq_ok, Plan.result_ofExcept]
  constructor
  · rintro ⟨value, read, other, read', ends⟩
    refine ⟨value, other, read, read', fun equal => ?_⟩
    rw [if_pos equal] at ends
    obtain ⟨mark, made, _⟩ := (Plan.result_bind_eq_ok _ _ _).mp ends
    exact ⟨mark, made⟩
  · rintro ⟨value, other, read, read', ends⟩
    refine ⟨value, read, other, read', ?_⟩
    split
    · next equal =>
        obtain ⟨mark, made⟩ := ends equal
        exact (Plan.result_bind_eq_ok _ _ _).mpr ⟨mark, made, rfl⟩
    · rfl

/-- A turn of an attacker's task ends well where the host has an address. -/
theorem markAttack_result {task nodeId node : Json} {sources : Json × Json}
    {ip client target : Json} (address : node.subscript "ip" = .ok ip)
    (comes : task.subscript "client_ip" = .ok client)
    (goes : targetIp task = .ok target) :
    (markAttack task sources nodeId node).result = .ok () := by
  rw [markAttack, Plan.result_bind_eq_ok]
  exact ⟨(), markIf_result.mpr ⟨ip, client, address, comes, fun _ => ⟨_, rfl⟩⟩,
    markIf_result.mpr ⟨ip, target, address, goes, fun _ => ⟨_, rfl⟩⟩⟩

/-- A turn of a defender's task ends well where the host has a datapath id, and the task. -/
theorem markDefence_result {task nodeId node : Json} {ip client : Json}
    (address : node.subscript "ip" = .ok ip) (comes : task.subscript "client_ip" = .ok client) :
    (markDefence task nodeId node).result = .ok () ↔
      (∃ dpid, node.subscript "dpid" = .ok dpid) ∧
        ∃ dpid, task.subscript "switch_dpid" = .ok dpid := by
  rw [markDefence, Plan.result_bind_eq_ok]
  constructor
  · rintro ⟨_, _, second⟩
    obtain ⟨own, given, has, tells, _⟩ := markIf_result.mp second
    exact ⟨⟨own, has⟩, given, tells⟩
  · rintro ⟨⟨own, has⟩, given, tells⟩
    exact ⟨(), markIf_result.mpr ⟨ip, client, address, comes, fun _ => ⟨_, by rw [comes]; rfl⟩⟩,
      markIf_result.mpr ⟨own, given, has, tells, fun _ => ⟨_, by rw [tells]; rfl⟩⟩⟩

theorem markIf_writes_of_matches {found wanted : Except PyError Json} {mark : Mark}
    (equal : Matches found wanted) : (markIf found wanted (.ok mark)).writes = [mark] := by
  obtain ⟨value, other, rfl, rfl, same⟩ := equal
  simp [markIf, Plan.bind_of_ok, Plan.ofExcept, Plan.write, same]

theorem markIf_writes_of_differs {found wanted : Except PyError Json}
    {planned : Except PyError Mark} (differs : ¬ Matches found wanted) :
    (markIf found wanted planned).writes = [] :=
  List.eq_nil_iff_forall_not_mem.mpr fun _ written => differs (mem_markIf.mp written).1

/-- A mark is set in the node of the id it was read from. -/
theorem HostImplies.nodeId {task : Json} {nodes : JsonObject} {node : Json} {mark : Mark}
    (implied : HostImplies task nodes node mark) : node.subscript "id" = .ok mark.nodeId := by
  cases implied <;> assumption

section Topology

variable {nodes : JsonObject} {data : Json}

theorem nodeNow_eq (looks : nodesOf data = .ok nodes) (key : String) :
    nodeNow key data = (Json.obj nodes).subscript key := by
  simp [nodeNow, looks, bind, Except.bind]

theorem nodeNow_eq_ok (looks : nodesOf data = .ok nodes) {key : String} {node : Json} :
    nodeNow key data = .ok node ↔ Fields.get? nodes key = some node := by
  rw [nodeNow_eq looks, Json.subscript_obj_eq_ok]

/-- The turn of a key in the second loop. -/
def turn (task : JsonObject) (sources : Json × Json) (data : Json) (key : String) :
    Plan PyError Mark Unit :=
  Plan.ofExcept (nodeNow key data) >>= markHost (.obj task) sources

theorem planNodes_eq (looks : nodesOf data = .ok nodes) (task : JsonObject)
    (sources : Json × Json) :
    planNodes (markHost (.obj task) sources) data =
      forM (nodes.map Prod.fst) (turn task sources data) := by
  rw [planNodes,
    Plan.bind_of_ok (show (Plan.ofExcept (nodesOf data)).result = .ok nodes from looks)]
  rfl

/-- The turn of a key marks its own node only. -/
theorem turn_owned (looks : nodesOf data = .ok nodes) (stored : Stored nodes) {task : JsonObject}
    {sources : Json × Json} (found : Sources (.obj task) nodes sources) (key : String)
    (mark : Mark) (written : mark ∈ (turn task sources data key).writes) :
    mark.nodeId = .str key ∧ ∃ node, Fields.get? nodes key = some node ∧
      HostImplies (.obj task) nodes node mark := by
  unfold turn at written
  simp only [Plan.mem_writes_bind, Plan.mem_writes_ofExcept, Plan.result_ofExcept, false_or]
    at written
  obtain ⟨node, there, written⟩ := written
  have there := (nodeNow_eq_ok looks).mp there
  have implied := implies_of_mem found written
  exact ⟨Except.ok.inj (implied.nodeId.symm.trans (stored.named there)), node, there, implied⟩

theorem turn_place (looks : nodesOf data = .ok nodes) (stored : Stored nodes) {task : JsonObject}
    {sources : Json × Json} (found : Sources (.obj task) nodes sources) (key : String)
    (mark : Mark) (written : mark ∈ (turn task sources data key).writes) :
    mark.place.1 = key := by
  rw [Mark.place, (turn_owned looks stored found key mark written).1]
  rfl

/-- Every mark of such a topology can be set. -/
theorem turn_markable (looks : nodesOf data = .ok nodes) (stored : Stored nodes)
    {task : JsonObject} {sources : Json × Json} (found : Sources (.obj task) nodes sources)
    {mark : Mark}
    (written : mark ∈ (forM (nodes.map Prod.fst) (turn task sources data)).writes) :
    Markable nodes mark = true := by
  obtain ⟨_, key, _, _, _, written⟩ := Plan.mem_forM_writes written
  obtain ⟨names, node, there, _⟩ := turn_owned looks stored found key mark written
  obtain ⟨fields, rfl, _⟩ := Json.subscript_eq_ok.mp (stored.named there)
  simp [Markable, names, there]

theorem hostPlan_eq (looks : nodesOf data = .ok nodes) {task : JsonObject}
    {sources : Json × Json} (returned : sourceIds (.obj task) data = .ok sources) :
    hostPlan (.obj task) data = forM (nodes.map Prod.fst) (turn task sources data) := by
  rw [hostPlan, Plan.bind_of_ok (show (Plan.ofExcept (sourceIds (.obj task) data)).result =
    .ok sources from returned), planNodes_eq looks]
  rfl

/-- What a field holds after the update: the last mark of the loop there, or what it held. -/
theorem fieldAt_after (looks : nodesOf data = .ok nodes) (stored : Stored nodes)
    {task : JsonObject} {sources : Json × Json}
    (returned : sourceIds (.obj task) data = .ok sources)
    (found : Sources (.obj task) nodes sources) (place : String × String) :
    fieldAt ((updateNetworkTopoDynamicHost task).leaves data) place =
      (Plan.lastAt Mark.place Mark.value
        (forM (nodes.map Prod.fst) (turn task sources data)).writes place).or
          (fieldAt data place) := by
  have planned : TopologyUpdate.host.plan task data = _ := hostPlan_eq looks returned
  have valid : ∀ mark ∈ (forM (nodes.map Prod.fst) (turn task sources data)).writes,
      Markable nodes mark = true := fun _ => turn_markable looks stored found
  have made : (TopologyUpdate.host.plan task data).made (Markable (TopologyUpdate.nodesOr data)) =
      (forM (nodes.map Prod.fst) (turn task sources data)).writes := by
    rw [TopologyUpdate.nodesOr_eq looks, planned]
    exact List.takeWhile_eq_self_iff.mpr valid
  have left : (updateNetworkTopoDynamicHost task).leaves data = Plan.applyAll marked
      (forM (nodes.map Prod.fst) (turn task sources data)).writes data := by
    refine (TopologyUpdate.host.perform_leaves task data).trans ?_
    rcases TopologyUpdate.host.attempt_cases task data with ⟨_, error, raised⟩ | ⟨_, ends⟩
    · rw [Effect.leaves_of_error raised, made]
    · rw [Effect.leaves_of_ok ends, planned]
  rw [left]
  exact (marks_assign nodes).read_applyAll valid (sameNodes_of_nodesOf looks) place

/-- What a task of a defender finds before the loop. -/
theorem Defends.sourceIds {task : JsonObject} {client : Json} (defends : Defends task client)
    (data : Json) : sourceIds (.obj task) data = .ok (.str "", .str "") := by
  have other : (Json.str "defender").equals (.str "attacker") = false := by decide
  simp [TaskService.sourceIds, defends.player, other, bind, Except.bind, pure, Except.pure]

theorem Defends.sources {task : JsonObject} {client : Json} (defends : Defends task client)
    (nodes : JsonObject) (sources : Json × Json) : Sources (.obj task) nodes sources := by
  intro player
  have same := Except.ok.inj (defends.player.symm.trans player)
  simp at same

/-- The turn of a key, as what its node asks for. -/
theorem turn_eq (looks : nodesOf data = .ok nodes) (stored : Stored nodes) {task : JsonObject}
    {sources : Json × Json} {key : String} {node : Json}
    (there : Fields.get? nodes key = some node) :
    turn task sources data key = whenIs node "node_type" "host" (do
      whenIs (.obj task) "player" "attacker" (markAttack (.obj task) sources (.str key) node)
      whenIs (.obj task) "player" "defender" (markDefence (.obj task) (.str key) node)) := by
  rw [turn, Plan.bind_of_ok (show (Plan.ofExcept (nodeNow key data)).result = .ok node from
    (nodeNow_eq_ok looks).mpr there), markHost,
    Plan.bind_of_ok (show (Plan.ofExcept (node.subscript "id")).result = .ok (.str key) from
      stored.named there)]
  rfl

/-- A turn of a defender's task does not end well at the hosts that stop it. -/
theorem turn_result_iff (looks : nodesOf data = .ok nodes) (stored : Stored nodes)
    {task : JsonObject} {client : Json} (defends : Defends task client) {sources : Json × Json}
    {key : String} (member : key ∈ nodes.map Prod.fst) :
    (turn task sources data key).result = .ok () ↔ ¬ Stops task nodes key := by
  obtain ⟨node, there⟩ := Option.isSome_iff_exists.mp (Fields.isSome_get?_iff.mpr member)
  obtain ⟨kind, typed⟩ := stored.typed there
  have attacked : (whenIs (.obj task) "player" "attacker"
      (markAttack (.obj task) sources (.str key) node)).result = .ok () :=
    whenIs_result_iff.mpr ⟨_, defends.player, fun same => by simp at same⟩
  have outcome : (turn task sources data key).result = .ok () ↔
      (kind = .str "host" → (markDefence (.obj task) (.str key) node).result = .ok ()) := by
    rw [turn_eq looks stored there, whenIs_result_iff]
    simp only [typed, Except.ok.injEq, exists_eq_left']
    refine imp_congr_right fun _ => ?_
    rw [Plan.bind_of_ok attacked]
    simp only [whenIs_result_iff, defends.player, Except.ok.injEq, exists_eq_left', forall_const]
  rw [outcome]
  unfold Stops
  constructor
  · rintro ends ⟨node', there', host, stops⟩
    obtain rfl := Option.some.inj (there.symm.trans there')
    obtain rfl := Except.ok.inj (typed.symm.trans host)
    obtain ⟨ip, address⟩ := stored.addressed there host
    exact stops ((markDefence_result address defends.comes).mp (ends rfl))
  · rintro goes rfl
    obtain ⟨ip, address⟩ := stored.addressed there typed
    refine (markDefence_result address defends.comes).mpr ?_
    by_contra stops
    exact goes ⟨node, there, typed, stops⟩

/-- The marks that the turn of a host makes for a defender. -/
theorem turn_defence (looks : nodesOf data = .ok nodes) (stored : Stored nodes)
    {task : JsonObject} {client : Json} (defends : Defends task client) {sources : Json × Json}
    {key : String} {node : Json} (there : Fields.get? nodes key = some node)
    (host : node.subscript "node_type" = .ok (.str "host")) :
    (turn task sources data key).writes =
      (markIf (node.subscript "ip") (.ok client) (.ok ⟨.str key, .defendSource, client⟩)).writes ++
        (markIf (node.subscript "dpid") ((Json.obj task).subscript "switch_dpid")
          (do pure ⟨.str key, .defendSource,
            ← (Json.obj task).subscript "switch_dpid"⟩)).writes := by
  have attacked : whenIs (.obj task) "player" "attacker"
      (markAttack (.obj task) sources (.str key) node) = ⟨[], .ok ()⟩ := by
    have other : (Json.str "defender").equals (.str "attacker") = false := by decide
    simp [whenIs, defends.player, Plan.bind_of_ok, Plan.ofExcept, other]
  have selected (value : Json) (field text : String) (body : Plan PyError Mark Unit)
      (same : value.subscript field = .ok (.str text)) :
      (whenIs value field text body).writes = body.writes := by
    simp [whenIs, same, Plan.bind_of_ok, Plan.ofExcept, Json.str_equals_self]
  obtain ⟨ip, address⟩ := stored.addressed there host
  have first : (markIf (node.subscript "ip") (.ok client)
      (.ok ⟨.str key, .defendSource, client⟩)).result = .ok () :=
    markIf_result.mpr ⟨ip, client, address, rfl, fun _ => ⟨_, rfl⟩⟩
  rw [turn_eq looks stored there, selected _ _ _ _ host, attacked, Plan.bind_of_ok rfl]
  refine (selected _ _ _ _ defends.player).trans ?_
  rw [markDefence, defends.comes]
  exact congrArg Plan.writes (Plan.bind_of_ok first _)

/-- The datapath id is written last. -/
theorem lastAt_turn_guarded (looks : nodesOf data = .ok nodes) (stored : Stored nodes)
    {task : JsonObject} {client : Json} (defends : Defends task client) {sources : Json × Json}
    {key : String} {dpid : Json} (guards : Guards task nodes key dpid) :
    Plan.lastAt Mark.place Mark.value (turn task sources data key).writes (key, "defend_source") =
      some dpid := by
  obtain ⟨node, there, host, given, matched⟩ := guards
  have mark : (do pure ⟨.str key, .defendSource, ← (Json.obj task).subscript "switch_dpid"⟩ :
      Except PyError Mark) = .ok ⟨.str key, .defendSource, dpid⟩ := by
    rw [given]
    rfl
  rw [turn_defence looks stored defends there host, mark, given,
    markIf_writes_of_matches matched, Plan.lastAt_append]
  simp [Plan.lastAt, Mark.place, Json.keyText, MarkField.name]

theorem lastAt_turn_unguarded (looks : nodesOf data = .ok nodes) (stored : Stored nodes)
    {task : JsonObject} {client : Json} (defends : Defends task client) {sources : Json × Json}
    {key : String} (unguarded : ∀ dpid, ¬ Guards task nodes key dpid)
    (here : HostAt nodes key client) :
    Plan.lastAt Mark.place Mark.value (turn task sources data key).writes (key, "defend_source") =
      some client := by
  obtain ⟨node, there, host, matched⟩ := here
  have differs : ¬ Matches (node.subscript "dpid") ((Json.obj task).subscript "switch_dpid") := by
    rintro ⟨own, dpid, has, given, equal⟩
    exact unguarded dpid ⟨node, there, host, given, own, dpid, has, rfl, equal⟩
  rw [turn_defence looks stored defends there host, markIf_writes_of_matches matched,
    markIf_writes_of_differs differs]
  simp [Plan.lastAt, Mark.place, Json.keyText, MarkField.name]

/-- A defender's task marks the hosts of its client and of its switch only. -/
theorem lastAt_turn_none (looks : nodesOf data = .ok nodes) (stored : Stored nodes)
    {task : JsonObject} {client : Json} (defends : Defends task client) {sources : Json × Json}
    {place : String × String}
    (foreign : place.2 = "defend_source" → (∀ dpid, ¬ Guards task nodes place.1 dpid) ∧
      ¬ HostAt nodes place.1 client) (key : String) :
    Plan.lastAt Mark.place Mark.value (turn task sources data key).writes place = none := by
  refine Plan.lastAt_eq_none ?_
  rintro mark written rfl
  obtain ⟨names, node, there, implied⟩ :=
    turn_owned looks stored (defends.sources nodes sources) key mark written
  have own : mark.place.1 = key := turn_place looks stored (defends.sources nodes sources) key mark
    written
  rw [own] at foreign
  cases implied with
  | attacker _ _ player => simp [defends.player] at player
  | victim _ _ player => simp [defends.player] at player
  | defender _ host _ address =>
      rw [defends.comes] at address
      exact (foreign rfl).2 ⟨node, there, host, address⟩
  | guarded _ host _ guards given =>
      rw [given] at guards
      exact (foreign rfl).1 _ ⟨node, there, host, given, guards⟩

/-- A field of a host that the loop reaches holds what its turn puts there last. -/
theorem defence_after_reached (looks : nodesOf data = .ok nodes) (stored : Stored nodes)
    {task : JsonObject} {client : Json} (defends : Defends task client) {key : String}
    (reached : Reached task nodes key) (field : String) :
    fieldAt ((updateNetworkTopoDynamicHost task).leaves data) (key, field) =
      (Plan.lastAt Mark.place Mark.value (turn task (.str "", .str "") data key).writes
        (key, field)).or (fieldAt data (key, field)) := by
  have found := defends.sources nodes (.str "", .str "")
  obtain ⟨earlier, later, split, passed⟩ := reached
  rw [fieldAt_after looks stored (defends.sourceIds data) found]
  refine congrArg (Option.or · _) ?_
  refine Plan.lastAt_forM stored.distinct (turn_place looks stored found) split
    fun other member => ?_
  refine (turn_result_iff looks stored defends ?_).mpr (passed other member)
  rw [split]
  exact List.mem_append_left _ member

/-- A host that the loop does not reach keeps its fields. -/
theorem defence_after_unreached (looks : nodesOf data = .ok nodes) (stored : Stored nodes)
    {task : JsonObject} {client : Json} (defends : Defends task client) {key : String}
    (unreached : ¬ Reached task nodes key) (field : String) :
    fieldAt ((updateNetworkTopoDynamicHost task).leaves data) (key, field) =
      fieldAt data (key, field) := by
  have found := defends.sources nodes (.str "", .str "")
  rw [fieldAt_after looks stored (defends.sourceIds data) found]
  rw [Plan.lastAt_forM_of_unreached (turn_place looks stored found)]
  · rfl
  · intro earlier later split passed
    refine unreached ⟨earlier, later, split, fun other member => ?_⟩
    refine (turn_result_iff looks stored defends ?_).mp (passed other member)
    rw [split]
    exact List.mem_append_left _ member

/-- A defender's task shows as it should just if its host is reached or was marked before, and
the datapath ids written on the way change nothing of that. -/
theorem defence_shown_iff (looks : nodesOf data = .ok nodes) (stored : Stored nodes)
    {task : JsonObject} {client : Json} (defends : Defends task client) :
    DefenceShown nodes client data ((updateNetworkTopoDynamicHost task).leaves data) ↔
      DefenceFits task nodes client data := by
  constructor
  · intro shown
    constructor
    · intro key here
      by_cases reached : Reached task nodes key
      · exact .inl reached
      · right
        rw [← defence_after_unreached looks stored defends reached]
        exact shown.defender key here
    · intro key dpid reached guards here
      have after := defence_after_reached looks stored defends reached "defend_source"
      rw [lastAt_turn_guarded looks stored defends guards, shown.defender key here] at after
      exact (Option.some.inj after).symm
    · intro key dpid reached guards elsewhere
      have after := defence_after_reached looks stored defends reached "defend_source"
      rw [lastAt_turn_guarded looks stored defends guards,
        shown.others key "defend_source" fun both => elsewhere both.2] at after
      exact after
  · intro fits
    constructor
    · intro key here
      by_cases reached : Reached task nodes key
      · rw [defence_after_reached looks stored defends reached]
        by_cases guarded : ∃ dpid, Guards task nodes key dpid
        · obtain ⟨dpid, guards⟩ := guarded
          rw [lastAt_turn_guarded looks stored defends guards,
            fits.own key dpid reached guards here]
          rfl
        · rw [lastAt_turn_unguarded looks stored defends (not_exists.mp guarded) here]
          rfl
      · rw [defence_after_unreached looks stored defends reached]
        exact (fits.reached key here).resolve_left reached
    · intro key field elsewhere
      by_cases reached : Reached task nodes key
      · rw [defence_after_reached looks stored defends reached]
        by_cases guarded : field = "defend_source" ∧ ∃ dpid, Guards task nodes key dpid
        · obtain ⟨rfl, dpid, guards⟩ := guarded
          rw [lastAt_turn_guarded looks stored defends guards]
          exact (fits.foreign key dpid reached guards fun here => elsewhere ⟨rfl, here⟩).symm
        · rw [lastAt_turn_none looks stored defends (fun named => ⟨fun dpid guards =>
            guarded ⟨named, dpid, guards⟩, fun here => elsewhere ⟨named, here⟩⟩)]
          rfl
      · exact defence_after_unreached looks stored defends reached field

/-- The search for an id reads one more node. -/
theorem lastIdStep_cases (stored : Stored nodes) (address found : Json) {entry : String × Json}
    (member : entry ∈ nodes) :
    (NodeAt nodes entry.1 address ∧ lastIdStep address found entry.2 = .str entry.1) ∨
      (¬ NodeAt nodes entry.1 address ∧ lastIdStep address found entry.2 = found) := by
  have there := Fields.get?_of_mem stored.distinct member
  have named := stored.named there
  unfold lastIdStep
  rw [named]
  by_cases matched : NodeAt nodes entry.1 address
  · obtain ⟨node, there', ip, _, has, given, equal⟩ := id matched
    obtain rfl := Option.some.inj (there.symm.trans there')
    obtain rfl := Except.ok.inj given
    exact .inl ⟨matched, by simp [has, equal]⟩
  · refine .inr ⟨matched, ?_⟩
    cases has : entry.2.subscript "ip" with
    | error error => rfl
    | ok ip =>
        have differs : ip.equals address = false :=
          Bool.eq_false_iff.mpr fun equal => matched ⟨entry.2, there, ip, address, has, rfl, equal⟩
        simp [differs]

/-- A search ends with the id of a node with the address, or where it began if it met none. -/
theorem lastId_cases (stored : Stored nodes) (address : Json) {entries : JsonObject}
    (within : ∀ entry ∈ entries, entry ∈ nodes) (found : Json) :
    (∃ key, NodeAt nodes key address ∧
        entries.foldl (fun found entry => lastIdStep address found entry.2) found = .str key) ∨
      ((∀ entry ∈ entries, ¬ NodeAt nodes entry.1 address) ∧
        entries.foldl (fun found entry => lastIdStep address found entry.2) found = found) := by
  induction entries generalizing found with
  | nil => exact .inr ⟨nofun, rfl⟩
  | cons entry rest inductionHypothesis =>
      obtain ⟨member, others⟩ := List.forall_mem_cons.mp within
      rw [List.foldl_cons]
      rcases lastIdStep_cases stored address found member with ⟨here, step⟩ | ⟨elsewhere, step⟩
      · rw [step]
        rcases inductionHypothesis others (.str entry.1) with ends | ⟨_, ends⟩
        · exact .inl ends
        · exact .inl ⟨entry.1, here, ends⟩
      · rw [step]
        exact (inductionHypothesis others found).imp id fun both =>
          ⟨List.forall_mem_cons.mpr ⟨elsewhere, both.1⟩, both.2⟩

/-- The id found for an address is that of a node there, and empty if there is none. -/
theorem idOf_idAt (stored : Stored nodes) (address : Json) :
    IdOf nodes address (idAt nodes address) := by
  refine (lastId_cases stored address (fun _ member => member) (.str "")).imp id fun both => ?_
  refine ⟨fun key here => ?_, both.2⟩
  obtain ⟨node, there, _⟩ := id here
  exact both.1 (key, node) (Fields.mem_of_get? there) here

/-- The first loop gets past a node just if that has an address. -/
theorem findSources_ok_iff (stored : Stored nodes) {task : JsonObject} {client target : Json}
    (attacks : Attacks task client target) {key : String} {node : Json}
    (there : Fields.get? nodes key = some node) (sources : Json × Json) :
    (∃ after, findSources (.obj task) sources node = .ok after) ↔
      ∃ ip, node.subscript "ip" = .ok ip := by
  rw [findSources, stored.named there, attacks.comes, attacks.goes]
  cases node.subscript "ip" <;> simp [bind, Except.bind, pure, Except.pure]

theorem foldlM_findSources_ok_iff (stored : Stored nodes) {task : JsonObject}
    {client target : Json} (attacks : Attacks task client target) {entries : JsonObject}
    (within : ∀ entry ∈ entries, entry ∈ nodes) (sources : Json × Json) :
    (∃ after, entries.foldlM (fun sources entry => findSources (.obj task) sources entry.2)
      sources = .ok after) ↔ ∀ entry ∈ entries, ∃ ip, entry.2.subscript "ip" = .ok ip := by
  induction entries generalizing sources with
  | nil => exact ⟨fun _ => nofun, fun _ => ⟨sources, rfl⟩⟩
  | cons entry rest inductionHypothesis =>
      obtain ⟨member, others⟩ := List.forall_mem_cons.mp within
      have here := findSources_ok_iff stored attacks (Fields.get?_of_mem stored.distinct member)
        sources
      rw [List.foldlM_cons, List.forall_mem_cons, ← here]
      constructor
      · rintro ⟨after, returned⟩
        obtain ⟨middle, first, later⟩ := ok_of_bind returned
        exact ⟨⟨middle, first⟩, (inductionHypothesis others middle).mp ⟨after, later⟩⟩
      · rintro ⟨⟨middle, first⟩, later⟩
        obtain ⟨after, returned⟩ := (inductionHypothesis others middle).mpr later
        exact ⟨after, by rw [first]; exact returned⟩

theorem Attacks.sourceIds (looks : nodesOf data = .ok nodes) {task : JsonObject}
    {client target : Json} (attacks : Attacks task client target) :
    sourceIds (.obj task) data =
      nodes.foldlM (fun sources entry => findSources (.obj task) sources entry.2)
        (.str "", .str "") := by
  rw [TaskService.sourceIds, attacks.player, looks]
  rfl

/-- An attacker's task finds its sources just if every node has an address. -/
theorem sourceIds_ok_iff (looks : nodesOf data = .ok nodes) (stored : Stored nodes)
    {task : JsonObject} {client target : Json} (attacks : Attacks task client target) :
    (∃ sources, sourceIds (.obj task) data = .ok sources) ↔ AllAddressed nodes := by
  rw [attacks.sourceIds looks,
    foldlM_findSources_ok_iff stored attacks (fun _ member => member)]
  constructor
  · exact fun all key node there => all (key, node) (Fields.mem_of_get? there)
  · exact fun all entry member => all entry.1 entry.2 (Fields.get?_of_mem stored.distinct member)

theorem Attacks.sources (looks : nodesOf data = .ok nodes) {task : JsonObject}
    {client target : Json} (attacks : Attacks task client target) {sources : Json × Json}
    (returned : TaskService.sourceIds (.obj task) data = .ok sources) :
    Sources (.obj task) nodes sources := by
  intro _
  refine ⟨client, target, attacks.comes, attacks.goes, ?_⟩
  rw [attacks.sourceIds looks] at returned
  rcases foldlM_findSources returned with ⟨rfl, rfl⟩ | ⟨client', target', comes, goes, rfl⟩
  · rfl
  · obtain rfl := Except.ok.inj (attacks.comes.symm.trans comes)
    obtain rfl := Except.ok.inj (attacks.goes.symm.trans goes)
    rfl

/-- Where every node has an address, every turn of an attacker's task ends well. -/
theorem attack_turns (looks : nodesOf data = .ok nodes) (stored : Stored nodes)
    {task : JsonObject} {client target : Json} (attacks : Attacks task client target)
    (addressed : AllAddressed nodes) (sources : Json × Json) :
    (forM (nodes.map Prod.fst) (turn task sources data)).result = .ok () := by
  refine (Plan.forM_result _ _).mpr fun key member => ?_
  obtain ⟨node, there⟩ := Option.isSome_iff_exists.mp (Fields.isSome_get?_iff.mpr member)
  obtain ⟨kind, typed⟩ := stored.typed there
  obtain ⟨ip, address⟩ := addressed key node there
  have attacked : (whenIs (.obj task) "player" "attacker"
      (markAttack (.obj task) sources (.str key) node)).result = .ok () :=
    whenIs_result_iff.mpr ⟨_, attacks.player, fun _ =>
      markAttack_result address attacks.comes attacks.goes⟩
  rw [turn_eq looks stored there, whenIs_result_iff]
  refine ⟨kind, typed, fun _ => ?_⟩
  rw [Plan.bind_of_ok attacked]
  exact whenIs_result_iff.mpr ⟨_, attacks.player, fun same => by simp at same⟩

/-- The marks an attacker's task makes where every node has an address. -/
theorem attack_written_iff (looks : nodesOf data = .ok nodes) (stored : Stored nodes)
    {task : JsonObject} {client target : Json} (attacks : Attacks task client target)
    (addressed : AllAddressed nodes) {sources : Json × Json}
    (found : Sources (.obj task) nodes sources) (mark : Mark) :
    mark ∈ (forM (nodes.map Prod.fst) (turn task sources data)).writes ↔
      (∃ key, HostAt nodes key client ∧ mark = ⟨.str key, .attackSource, idAt nodes target⟩) ∨
        ∃ key, HostAt nodes key target ∧ mark = ⟨.str key, .victimSource, idAt nodes client⟩ := by
  have ends := attack_turns looks stored attacks addressed sources
  have made {key : String} {node : Json} (there : Fields.get? nodes key = some node) {mark : Mark}
      (implied : HostImplies (.obj task) nodes node mark) :
      mark ∈ (forM (nodes.map Prod.fst) (turn task sources data)).writes := by
    have member := Fields.isSome_get?_iff.mp (Option.isSome_iff_exists.mpr ⟨node, there⟩)
    refine Plan.mem_forM_writes_of_ok ends member ?_
    have turned := (Plan.forM_result _ _).mp ends key member
    have body : turn task sources data key = markHost (.obj task) sources node := by
      rw [turn, Plan.bind_of_ok (show (Plan.ofExcept (nodeNow key data)).result = .ok node from
        (nodeNow_eq_ok looks).mpr there)]
      rfl
    rw [body] at turned ⊢
    exact mem_of_implies found turned implied
  constructor
  · intro written
    obtain ⟨_, key, _, _, _, written⟩ := Plan.mem_forM_writes written
    obtain ⟨names, node, there, implied⟩ := turn_owned looks stored found key mark written
    cases implied with
    | attacker _ host _ comes goes =>
        obtain rfl := Except.ok.inj (attacks.goes.symm.trans goes)
        rw [attacks.comes] at comes
        exact .inl ⟨key, ⟨node, there, host, comes⟩, by rw [← names]⟩
    | victim _ host _ comes goes =>
        obtain rfl := Except.ok.inj (attacks.comes.symm.trans comes)
        rw [attacks.goes] at goes
        exact .inr ⟨key, ⟨node, there, host, goes⟩, by rw [← names]⟩
    | defender _ _ player => simp [attacks.player] at player
    | guarded _ _ player => simp [attacks.player] at player
  · rintro (⟨key, ⟨node, there, host, address⟩, rfl⟩ | ⟨key, ⟨node, there, host, address⟩, rfl⟩)
    · rw [← attacks.comes] at address
      exact made there (.attacker (stored.named there) host attacks.player address attacks.goes)
    · rw [← attacks.goes] at address
      exact made there (.victim (stored.named there) host attacks.player attacks.comes address)

/-- What the marks of an attacker's task leave, where every node has an address. -/
theorem attack_shown_of_addressed (looks : nodesOf data = .ok nodes) (stored : Stored nodes)
    {task : JsonObject} {client target : Json} (attacks : Attacks task client target)
    (addressed : AllAddressed nodes) :
    AttackShown nodes client target data ((updateNetworkTopoDynamicHost task).leaves data) := by
  obtain ⟨sources, returned⟩ := (sourceIds_ok_iff looks stored attacks).mpr addressed
  have found := attacks.sources looks returned
  have written := attack_written_iff looks stored attacks addressed found
  have after := fieldAt_after looks stored returned found
  constructor
  · intro key here
    obtain ⟨other, member, place, last⟩ := Plan.exists_lastAt
      ((written _).mpr (.inl ⟨key, here, rfl⟩)) Mark.place Mark.value
    refine ⟨_, idOf_idAt stored target, (after (key, "attack_source")).trans ?_⟩
    rw [show (key, "attack_source") = Mark.place ⟨.str key, .attackSource, idAt nodes target⟩ from
      rfl, last]
    rcases (written other).mp member with ⟨_, _, rfl⟩ | ⟨_, _, rfl⟩
    · rfl
    · simp [Mark.place, MarkField.name] at place
  · intro key here
    obtain ⟨other, member, place, last⟩ := Plan.exists_lastAt
      ((written _).mpr (.inr ⟨key, here, rfl⟩)) Mark.place Mark.value
    refine ⟨_, idOf_idAt stored client, (after (key, "victim_source")).trans ?_⟩
    rw [show (key, "victim_source") = Mark.place ⟨.str key, .victimSource, idAt nodes client⟩ from
      rfl, last]
    rcases (written other).mp member with ⟨_, _, rfl⟩ | ⟨_, _, rfl⟩
    · simp [Mark.place, MarkField.name] at place
    · rfl
  · intro key field notAttacker notVictim
    refine (after (key, field)).trans ?_
    rw [Plan.lastAt_eq_none, Option.none_or]
    intro mark member place
    rcases (written mark).mp member with ⟨_, here, rfl⟩ | ⟨_, here, rfl⟩
    · obtain ⟨rfl, rfl⟩ := Prod.mk.inj place
      exact notAttacker ⟨rfl, here⟩
    · obtain ⟨rfl, rfl⟩ := Prod.mk.inj place
      exact notVictim ⟨rfl, here⟩

/-- An attacker's task marks nothing where a node has no address. -/
theorem attack_unaddressed (looks : nodesOf data = .ok nodes) (stored : Stored nodes)
    {task : JsonObject} {client target : Json} (attacks : Attacks task client target)
    (unaddressed : ¬ AllAddressed nodes) :
    (updateNetworkTopoDynamicHost task).leaves data = data := by
  have raises := mt (sourceIds_ok_iff looks stored attacks).mp unaddressed
  cases returned : sourceIds (.obj task) data with
  | ok sources => exact absurd ⟨sources, returned⟩ raises
  | error error =>
      have stops : (markHosts (.obj task)).run data = .error error data := by
        simp [markHosts, returned]
      rw [updateNetworkTopoDynamicHost, Effect.leaves, Effect.run_tryCatch, stops]
      rfl

/-- An attacker's task shows as it should just if every node has an address or it showed so
before. -/
theorem attack_shown_iff (looks : nodesOf data = .ok nodes) (stored : Stored nodes)
    {task : JsonObject} {client target : Json} (attacks : Attacks task client target) :
    AttackShown nodes client target data ((updateNetworkTopoDynamicHost task).leaves data) ↔
      AllAddressed nodes ∨ AttackShown nodes client target data data := by
  by_cases addressed : AllAddressed nodes
  · exact iff_of_true (attack_shown_of_addressed looks stored attacks addressed) (.inl addressed)
  · rw [attack_unaddressed looks stored attacks addressed]
    exact ⟨.inr, fun either => either.resolve_left addressed⟩

/-- When the marks of a host task are those it should set. -/
theorem host_marks_iff (looks : nodesOf data = .ok nodes) (stored : Stored nodes)
    (task : JsonObject) :
    (∀ client target, Attacks task client target →
      (AttackShown nodes client target data ((updateNetworkTopoDynamicHost task).leaves data) ↔
        AllAddressed nodes ∨ AttackShown nodes client target data data)) ∧
    ∀ client, Defends task client →
      (DefenceShown nodes client data ((updateNetworkTopoDynamicHost task).leaves data) ↔
        DefenceFits task nodes client data) :=
  ⟨fun _ _ => attack_shown_iff looks stored, fun _ => defence_shown_iff looks stored⟩

end Topology

/-- Two hosts, of which only the second has a datapath id. -/
def pairedHosts : JsonObject :=
  [("h1", .obj [("id", .str "h1"), ("node_type", .str "host"), ("ip", .str "10.0.0.1")]),
    ("h2", .obj [("id", .str "h2"), ("node_type", .str "host"), ("ip", .str "10.0.0.2"),
      ("dpid", .number 2)])]

/-- A switch beside them, without an address as they mostly are. -/
def switchedHosts : JsonObject :=
  pairedHosts ++ [("s1", .obj [("id", .str "s1"), ("node_type", .str "switch"),
    ("dpid", .number 1)])]

def attackTask : JsonObject :=
  [("player", .str "attacker"), ("client_ip", .str "10.0.0.1"),
    ("params", .obj [("target_ip", .str "10.0.0.2")])]

def defenceTask (client : String) : JsonObject :=
  [("player", .str "defender"), ("client_ip", .str client), ("switch_dpid", .number 1)]

theorem stored_of_forall {nodes : JsonObject} (distinct : (nodes.map Prod.fst).Nodup)
    (shaped : ∀ entry ∈ nodes, entry.2.subscript "id" = .ok (.str entry.1) ∧
      ((∃ ip, entry.2.subscript "ip" = .ok ip) ∧
        entry.2.subscript "node_type" = .ok (.str "host") ∨
          entry.2.subscript "node_type" = .ok (.str "switch"))) : Stored nodes where
  distinct := distinct
  named there := (shaped _ (Fields.mem_of_get? there)).1
  typed there := by
    rcases (shaped _ (Fields.mem_of_get? there)).2 with ⟨_, host⟩ | switch
    · exact ⟨_, host⟩
    · exact ⟨_, switch⟩
  addressed there host := by
    rcases (shaped _ (Fields.mem_of_get? there)).2 with ⟨address, _⟩ | switch
    · exact address
    · simp [switch] at host

theorem stored_switchedHosts : Stored switchedHosts := by
  refine stored_of_forall (by decide +kernel) ?_
  simp only [switchedHosts, pairedHosts, List.cons_append, List.nil_append, List.forall_mem_cons]
  exact ⟨⟨rfl, .inl ⟨⟨_, rfl⟩, rfl⟩⟩, ⟨rfl, .inl ⟨⟨_, rfl⟩, rfl⟩⟩, ⟨rfl, .inr rfl⟩, nofun⟩

theorem stored_pairedHosts : Stored pairedHosts := by
  refine stored_of_forall (by decide +kernel) ?_
  simp only [pairedHosts, List.forall_mem_cons]
  exact ⟨⟨rfl, .inl ⟨⟨_, rfl⟩, rfl⟩⟩, ⟨rfl, .inl ⟨⟨_, rfl⟩, rfl⟩⟩, nofun⟩

/-- Both kinds of task on two hosts: the second loop stops at the first host, which it has
marked. -/
theorem paired_hosts_marked :
    AttackShown pairedHosts (.str "10.0.0.1") (.str "10.0.0.2")
        (.obj [("nodes", .obj pairedHosts)])
        ((updateNetworkTopoDynamicHost attackTask).leaves (.obj [("nodes", .obj pairedHosts)])) ∧
      DefenceShown pairedHosts (.str "10.0.0.1") (.obj [("nodes", .obj pairedHosts)])
        ((updateNetworkTopoDynamicHost (defenceTask "10.0.0.1")).leaves
          (.obj [("nodes", .obj pairedHosts)])) := by
  have members {key : String} {node : Json} (there : Fields.get? pairedHosts key = some node) :
      (key = "h1" ∨ key = "h2") ∧ (∃ ip, node.subscript "ip" = .ok ip) ∧
        ¬ Matches (node.subscript "dpid") (.ok (.number 1)) ∧
          (key = "h2" → ¬ Matches (node.subscript "ip") (.ok (.str "10.0.0.1"))) := by
    have member := Fields.mem_of_get? there
    simp only [pairedHosts, List.mem_cons, Prod.mk.injEq, List.not_mem_nil, or_false] at member
    rcases member with ⟨rfl, rfl⟩ | ⟨rfl, rfl⟩
    · refine ⟨.inl rfl, ⟨_, rfl⟩, ?_, fun other => by simp at other⟩
      rintro ⟨_, _, has, _⟩
      simp [Json.subscript, Fields.get?] at has
    · refine ⟨.inr rfl, ⟨_, rfl⟩, ?_, fun _ => ?_⟩
      · rintro ⟨_, _, has, given, equal⟩
        cases has
        cases given
        exact absurd equal (by decide +kernel)
      · rintro ⟨_, _, has, given, equal⟩
        cases has
        cases given
        exact absurd equal (by decide +kernel)
  have unguarded (key : String) (dpid : Json) :
      ¬ Guards (defenceTask "10.0.0.1") pairedHosts key dpid := by
    rintro ⟨node, there, _, given, guards⟩
    cases given
    exact (members there).2.2.1 guards
  refine ⟨((host_marks_iff rfl stored_pairedHosts attackTask).1 _ _ ⟨rfl, rfl, rfl⟩).mpr
    (.inl fun key node there => (members there).2.1),
    ((host_marks_iff rfl stored_pairedHosts (defenceTask "10.0.0.1")).2 _ ⟨rfl, rfl⟩).mpr ⟨?_,
      fun key dpid _ guards => absurd guards (unguarded key dpid),
      fun key dpid _ guards => absurd guards (unguarded key dpid)⟩⟩
  rintro key ⟨node, there, _, address⟩
  obtain ⟨rfl | rfl, _, _, second⟩ := members there
  · exact .inl ⟨[], ["h2"], rfl, by simp⟩
  · exact absurd address (second rfl)

/-- A switch without an address keeps the attacker's host from being marked, and a host without
a datapath id the defender's host after it. -/
theorem hosts_unmarked :
    Stored switchedHosts ∧
      Attacks attackTask (.str "10.0.0.1") (.str "10.0.0.2") ∧
      ¬ AttackShown switchedHosts (.str "10.0.0.1") (.str "10.0.0.2")
        (.obj [("nodes", .obj switchedHosts)])
        ((updateNetworkTopoDynamicHost attackTask).leaves (.obj [("nodes", .obj switchedHosts)])) ∧
      Defends (defenceTask "10.0.0.2") (.str "10.0.0.2") ∧
      ¬ DefenceShown switchedHosts (.str "10.0.0.2") (.obj [("nodes", .obj switchedHosts)])
        ((updateNetworkTopoDynamicHost (defenceTask "10.0.0.2")).leaves
          (.obj [("nodes", .obj switchedHosts)])) := by
  refine ⟨stored_switchedHosts, ⟨rfl, rfl, rfl⟩, fun shown => ?_, ⟨rfl, rfl⟩, fun shown => ?_⟩
  · have unmarked : (fieldAt ((updateNetworkTopoDynamicHost attackTask).leaves
        (.obj [("nodes", .obj switchedHosts)])) ("h1", "attack_source")).isSome = false := by
      decide +kernel
    obtain ⟨_, _, marks⟩ := shown.attacker "h1" ⟨_, rfl, rfl, _, _, rfl, rfl, by decide +kernel⟩
    rw [marks] at unmarked
    cases unmarked
  · have marks := shown.defender "h2" ⟨_, rfl, rfl, _, _, rfl, rfl, by decide +kernel⟩
    exact absurd (congrArg Option.isSome marks) (by decide +kernel)

end NetworkAdapter.TaskService
