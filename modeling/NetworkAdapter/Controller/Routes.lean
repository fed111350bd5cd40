import NetworkAdapter.Controller.ProtocolBans

/-!
# The routes of the controller's interface

`TrafficEngineerController` defines two methods of one name, and a class keeps the
last definition of a name. The framework routes the methods the class has, so the
first of the two, with its POST route, is gone before a request arrives; the one
that is left stores its flag under a text, where no handler looks.
-/

namespace NetworkAdapter.DDoSSimulationAPP

open Execution

variable {K : Type}

/-- The arguments of the `route` decorator. -/
structure RoutingInfo where
  name : String
  path : String
  methods : List String

/-- The functions in the body of `TrafficEngineerController`. -/
inductive EngineerFunction where
  | getDatapathInfo
  | getProtocolCount
  | protocolForbid
  | setIpWhiteTableOfBody
  | setIpWhiteTable
deriving DecidableEq

/-- A request: its method and path, the JSON of its body, its query argument `dpid`. -/
structure EngineerRequest where
  method : String
  path : String
  json : Json
  dpid : Option String

/-- What a client gets: no route, an exception in the handler, or the handler's answer. -/
inductive EngineerResponse where
  | notFound
  | serverError (error : PyError)
  | answered (body : Json)

/-- The body of `TrafficEngineerController`, in order. -/
def engineerDefinitions : List (String × RoutingInfo × EngineerFunction) :=
  [("get_datapath_info", ⟨"get_datapath_info", "/engineer/get_datapath_info", ["GET"]⟩,
      .getDatapathInfo),
    ("get_protocol_count", ⟨"get_protocol_count", "/engineer/get_protocol_count", ["GET"]⟩,
      .getProtocolCount),
    ("protocol_forbid", ⟨"icmp_drop", "/engineer/protocol_forbid", ["POST"]⟩, .protocolForbid),
    ("set_ip_white_table", ⟨"ip_white_table", "/engineer/set_ip_white_table", ["POST"]⟩,
      .setIpWhiteTableOfBody),
    ("set_ip_white_table", ⟨"ip_white_table", "/engineer/set_ip_white_table", ["GET"]⟩,
      .setIpWhiteTable)]

/-- The attributes of a class after its body: a name keeps its last value. -/
def classNamespace {Value : Type} (definitions : List (String × Value)) : Dict String Value :=
  definitions.foldl (fun attributes definition => attributes.set definition.1 definition.2) .empty

/-- The function a request is routed to: `register` connects a route for each method
the class has, and the mapper takes the first whose path and methods fit. -/
def routed (method path : String) : Option EngineerFunction :=
  ((classNamespace engineerDefinitions).values.find? fun route =>
    route.1.path == path && route.1.methods.contains method).map Prod.snd

/-- `protocol_statistic` as JSON. -/
def statisticJson (statistic : ProtocolStatistic) : Json :=
  .obj [("TCP", .number statistic.tcp), ("UDP", .number statistic.udp),
    ("ICMP", .number statistic.icmp), ("other", .number statistic.other)]

/-- The key a decoded value is in the rule map, if it can be hashed and equals one:
numbers and truth values equal the ids, texts themselves. -/
def ruleKey : Json → Except PyError (Option DatapathKey)
  | .str dpid => .ok (some (.text dpid))
  | .number value => .ok (if value.den = 1 ∧ 0 ≤ value then some (.id value.num.toNat) else none)
  | .bool value => .ok (some (.id (if value then 1 else 0)))
  | .null => .ok none
  | .arr _ => .error .typeError
  | .obj _ => .error .typeError

/-- The first definition of `set_ip_white_table`. -/
def setIpWhiteTableOfBody (body : Json) : Effect PyError (DDoSSimulationAPP K) Json := do
  let dpid ← Effect.ofExcept (body.subscript "dpid")
  if dpid.equals .null then pure ()
  else
    let key ← Effect.ofExcept (ruleKey dpid)
    let rulesOf := (← get).trafficEngineerRuleMap.get?
    match key.bind fun key => (rulesOf key).map fun rules => (key, rules) with
    | some (key, rules) =>
        modify fun app => { app with
          trafficEngineerRuleMap :=
            app.trafficEngineerRuleMap.set key (rules.set "ip_white_table" true) }
    | none => throw (.keyError dpid.keyText)
  pure (.obj [("status", .str "success"), ("data", .obj [("dpid", dpid)])])

/-- A call of one of the functions. `datapathInfoMapStr` stays the empty dictionary. -/
def callEngineer (request : EngineerRequest) :
    EngineerFunction → Effect PyError (DDoSSimulationAPP K) Json
  | .getDatapathInfo => pure (.obj [("status", .str "success"), ("data", .obj [])])
  | .getProtocolCount => do
      let app ← get
      pure (.obj [("status", .str "success"), ("data", statisticJson app.protocolStatistic)])
  | .protocolForbid => protocolForbid request.json
  | .setIpWhiteTableOfBody => setIpWhiteTableOfBody request.json
  | .setIpWhiteTable => setIpWhiteTable request.dpid

/-- The response to a request and the application after it. -/
def respond (request : EngineerRequest) (app : DDoSSimulationAPP K) :
    EngineerResponse × DDoSSimulationAPP K :=
  match routed request.method request.path with
  | none => (.notFound, app)
  | some function =>
      match (callEngineer request function).run app with
      | .ok answer after => (.answered answer, after)
      | .error error after => (.serverError error, after)

/-- The path of both definitions. -/
def whiteTablePath : String := "/engineer/set_ip_white_table"

/-- The class lost its POST route and kept the GET one. -/
theorem routed_whiteTable :
    routed "POST" whiteTablePath = none ∧ routed "GET" whiteTablePath = some .setIpWhiteTable := by
  decide

/-- The requests that name a switch: with its id in decimal digits in the query, or as a
number in the body, as `SwitchTaskService.ip_white_table` sends it. -/
inductive NamesSwitch (datapath : Nat) : EngineerRequest → Prop where
  | query (json : Json) :
      NamesSwitch datapath ⟨"GET", whiteTablePath, json, some datapath.repr⟩
  | body (dpid : Option String) :
      NamesSwitch datapath ⟨"POST", whiteTablePath, .obj [("dpid", .number datapath)], dpid⟩

/-- The answer says 'success'. -/
def Succeeds : EngineerResponse → Prop
  | .answered body => body.subscript "status" = .ok (.str "success")
  | _ => False

/-- A successful request that names the switch sets the flag its packet-ins consult. -/
def TakesEffect (datapath : Nat) (app : DDoSSimulationAPP K) : Prop :=
  ∀ request, NamesSwitch datapath request → Succeeds (respond request app).1 →
    (respond request app).2.ruleSet datapath "ip_white_table" = true

/-- The rule map has the ids of the registered switches as its keys, and no others. -/
def KeysAreSwitches (app : DDoSSimulationAPP K) : Prop :=
  ∀ key, (app.trafficEngineerRuleMap.get? key).isSome = true ↔
    ∃ datapath, key = .id datapath ∧ (app.datapathInfoMap.get? datapath).isSome = true

/-- What is claimed of the whitelist's switch: it takes effect in the state a run reaches,
both methods are routed, and the keys of the rule map are switches all along. -/
structure WhitelistSwitchWorks [EntropyArithmetic K] (app : DDoSSimulationAPP K)
    (events : List Event) : Prop where
  takesEffect : ∀ datapath,
    ((run step app events).datapathInfoMap.get? datapath).isSome = true →
      TakesEffect datapath (run step app events)
  isRouted : ∀ method ∈ ["POST", "GET"], (routed method whiteTablePath).isSome = true
  keys : Along step KeysAreSwitches app events

/-- A GET request stores its flag under a text, and the flags under ids are as before. -/
theorem ruleSet_respond_query (app : DDoSSimulationAPP K) (json : Json) (dpid : Option String)
    (datapath : Nat) (name : String) :
    (respond ⟨"GET", whiteTablePath, json, dpid⟩ app).2.ruleSet datapath name =
      app.ruleSet datapath name := by
  unfold respond
  rw [routed_whiteTable.2]
  cases dpid with
  | none => rfl
  | some text =>
      simp [callEngineer, setIpWhiteTable, ruleSet]

/-- The request for a switch takes effect only where the flag is set already. -/
theorem takesEffect_iff (datapath : Nat) (app : DDoSSimulationAPP K) :
    TakesEffect datapath app ↔ app.ruleSet datapath "ip_white_table" = true := by
  constructor
  · intro effect
    have answered :
        Succeeds (respond ⟨"GET", whiteTablePath, .null, some datapath.repr⟩ app).1 := by
      unfold respond
      rw [routed_whiteTable.2]
      simp [callEngineer, setIpWhiteTable, Succeeds, Json.subscript, Fields.get?]
    rw [← ruleSet_respond_query app .null (some datapath.repr)]
    exact effect _ (.query .null) answered
  · intro set request names succeeds
    cases names with
    | query json => rw [ruleSet_respond_query, set]
    | body dpid =>
        unfold respond at succeeds
        rw [routed_whiteTable.1] at succeeds
        exact succeeds.elim

/-- Where switches are registered with their rules, the keys are right without texts. -/
theorem keysAreSwitches_iff {app : DDoSSimulationAPP K} (registers : Registers app) :
    KeysAreSwitches app ↔
      ∀ text, (app.trafficEngineerRuleMap.get? (.text text)).isSome = false := by
  constructor
  · intro keys text
    cases stored : (app.trafficEngineerRuleMap.get? (.text text)).isSome with
    | false => rfl
    | true =>
        obtain ⟨datapath, same, _⟩ := (keys (.text text)).mp stored
        cases same
  · intro noText key
    cases key with
    | text text => simp [noText text]
    | id datapath => simp [registers datapath]

variable [EntropyArithmetic K]

/-- No event but a GET request that names a switch stores anything under a text. -/
theorem step_textKey (app : DDoSSimulationAPP K) (event : Event) (text : String)
    (quiet : ∀ dpid, event ≠ .setIpWhiteTable (some dpid)) :
    ((step app event).trafficEngineerRuleMap.get? (.text text)).isSome =
      (app.trafficEngineerRuleMap.get? (.text text)).isSome := by
  cases event with
  | packetIn message => exact (packetIn_sameSwitches message app).ruleKeys (.text text)
  | protocolForbid body =>
      rw [step, protocolForbid_rules]
      cases forbids? body <;> simp
  | setIpWhiteTable dpid =>
      cases dpid with
      | none => rfl
      | some dpid => exact absurd rfl (quiet dpid)
  | trafficEntropy => rfl
  | switchFeatures datapath =>
      rw [step, switchFeaturesHandler_eq]
      simp [addFlowMissRule, addFlow, sendMsg]

/-- The request does not name a switch in its query. -/
def NamesNone (event : Event) : Prop := ∀ dpid, event ≠ .setIpWhiteTable (some dpid)

theorem step_keysAreSwitches_iff {app : DDoSSimulationAPP K} (event : Event)
    (registers : Registers app) (keys : KeysAreSwitches app) :
    KeysAreSwitches (step app event) ↔ NamesNone event := by
  rw [keysAreSwitches_iff (step_registers app event registers)]
  constructor
  · rintro noText dpid rfl
    have stored : ((step app (.setIpWhiteTable (some dpid))).trafficEngineerRuleMap.get?
        (.text dpid)).isSome = true := by
      refine (congrArg Option.isSome (Dict.get?_set _ _ _ _)).trans ?_
      simp
    rw [noText dpid] at stored
    cases stored
  · intro quiet text
    rw [step_textKey app event text quiet]
    exact (keysAreSwitches_iff registers).mp keys text

theorem along_keysAreSwitches_iff (events : List Event) :
    Along step KeysAreSwitches (init : DDoSSimulationAPP K) events ↔
      Each step (fun _ event => NamesNone event) (init : DDoSSimulationAPP K) events := by
  have exactly : ∀ (app : DDoSSimulationAPP K) (event : Event), Registers app →
      KeysAreSwitches app → (KeysAreSwitches (step app event) ↔ NamesNone event) :=
    fun _ event registers keys => step_keysAreSwitches_iff event registers keys
  have registers : Registers (init : DDoSSimulationAPP K) := run_registers []
  have keys : KeysAreSwitches (init : DDoSSimulationAPP K) :=
    (keysAreSwitches_iff registers).mpr fun _ => rfl
  exact along_iff_each step_registers exactly registers keys events

/-- In no run does the whitelist's switch work as a whole: the POST route is gone. As for
the rest, a request takes effect only where the flag was set before, and the keys are the
registered switches exactly until a GET request names one. -/
theorem whitelist_switch_never_works (events : List Event) :
    ¬ WhitelistSwitchWorks (init : DDoSSimulationAPP K) events ∧
      (∀ datapath, TakesEffect datapath (run step (init : DDoSSimulationAPP K) events) ↔
        (run step (init : DDoSSimulationAPP K) events).ruleSet datapath "ip_white_table" = true) ∧
      (routed "POST" whiteTablePath = none ∧
        routed "GET" whiteTablePath = some .setIpWhiteTable) ∧
      (Along step KeysAreSwitches (init : DDoSSimulationAPP K) events ↔
        Each step (fun _ event => NamesNone event) (init : DDoSSimulationAPP K) events) := by
  refine ⟨fun works => ?_, fun datapath => takesEffect_iff datapath _, routed_whiteTable,
    along_keysAreSwitches_iff events⟩
  have post := works.isRouted "POST" (by simp)
  rw [routed_whiteTable.1] at post
  cases post

/-- Switch 1 is registered and its whitelist switched on by GET: the answer says
'success', the flag is where it was, and a key is no switch; by POST there is no route. -/
theorem whitelist_request_misses :
    let app := run step (init : DDoSSimulationAPP Rat) [.switchFeatures 1]
    let query : EngineerRequest := ⟨"GET", whiteTablePath, .null, some "1"⟩
    let body : EngineerRequest := ⟨"POST", whiteTablePath, .obj [("dpid", .number 1)], none⟩
    Succeeds (respond query app).1 ∧
      (respond query app).2.ruleSet 1 "ip_white_table" = false ∧
      ¬ KeysAreSwitches (respond query app).2 ∧
      (respond body app).1 = .notFound := by
  refine ⟨rfl, rfl, fun keys => ?_, rfl⟩
  obtain ⟨datapath, same, _⟩ := (keys (.text "1")).mp rfl
  cases same

end NetworkAdapter.DDoSSimulationAPP
