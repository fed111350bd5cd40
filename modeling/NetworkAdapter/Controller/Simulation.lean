import NetworkAdapter.Controller.Sampling

/-!
# Detection, defence and the controller's interface

`ddos_simulation_app.py`: the rules it installs, the handlers of a switch's
handshake and of a packet-in, and the requests that change the application. An
exception ends its handler with the writes made so far; the framework logs it
and goes on with the next event.
-/

namespace NetworkAdapter.DDoSSimulationAPP

open EntropyArithmetic

variable {K : Type} [EntropyArithmetic K]

/-- The application after `__init__`. -/
def init : DDoSSimulationAPP K where
  whiteIpTable := .empty
  sampleQueue := []
  packetCount := 0
  sampleCount := 0
  sampleStaticCount := 0
  macToPort := .empty
  sourceIps := .empty
  destinationPorts := .empty
  sourceIpsEntropyQueue := []
  destinationPortsEntropyQueue := []
  protocolRateQueue := []
  sourceIpsEntropyQueueRemote := []
  destinationPortsEntropyQueueRemote := []
  protocolCount := .empty
  protocolStatistic := ⟨0, 0, 0, 0⟩
  currentSourceIpsEntropy := []
  currentDestinationPortsEntropy := []
  currentProtocolRate := .empty
  isDDoSAttacking := false
  ddosingCount := 0
  datapathInfoMap := .empty
  trafficEngineerRuleMap := .empty
  sent := []
  windows := []
  defence := []

/-- The flow modification of `del_flow`. -/
def flowDeletion (priority : Nat) (fields : OFPMatch) : Message :=
  .flowMod {
    command := .delete, priority := priority, fields := fields, actions := [],
    idleTimeout := 0, hardTimeout := 0, flags := 0,
    bufferId := ofpNoBuffer, outPort := ofppAny, outGroup := ofpgAny }

/-- `del_flow`. -/
def delFlow (datapath : Nat) (fields : OFPMatch) (priority : Nat) (app : DDoSSimulationAPP K) :
    DDoSSimulationAPP K :=
  sendMsg datapath (flowDeletion priority fields) app

/-- The action list that hands whole packets to the controller. -/
def toController : List OFPAction := [⟨ofppController, ofpcmlNoBuffer⟩]

/-- `_add_flow_miss_rule`. -/
def addFlowMissRule (datapath : Nat) (app : DDoSSimulationAPP K) : DDoSSimulationAPP K :=
  addFlow datapath 0 {} toController app

/-- `_request_sampling_packets`. -/
def requestSamplingPackets (datapath : Nat) (app : DDoSSimulationAPP K) : DDoSSimulationAPP K :=
  addFlow datapath 99 {} toController app

/-- The match of an allowed address. -/
def whiteMatch (ip : String) : OFPMatch := { ethType := some ethTypeIp, ipv4Dst := some ip }

/-- The match of a protocol over IPv4. -/
def protocolMatch (ipProto : Nat) : OFPMatch :=
  { ethType := some ethTypeIp, ipProto := some ipProto }

/-- `add_flow_white_table`. -/
def addFlowWhiteTable (event : PacketIn) (app : DDoSSimulationAPP K) : DDoSSimulationAPP K :=
  let allowed := app.whiteIpTable.keys.foldl
    (fun app ip => addFlow event.datapath 4 (whiteMatch ip) (outputTo ofppNormal) app) app
  addFlow event.datapath 2 {} [] allowed

/-- `self.ip_white_list`: no statement sets an attribute of this name. -/
def ipWhiteList (_ : DDoSSimulationAPP K) : Except PyError (List String) :=
  .error (.attributeError "ip_white_list")

/-- `clear_white_table`. -/
def clearWhiteTable (event : PacketIn) : Effect PyError (DDoSSimulationAPP K) Unit := do
  let ips ← Effect.ofExcept (ipWhiteList (← get))
  modify fun app =>
    delFlow event.datapath {} 2
      (ips.foldl (fun app ip => delFlow event.datapath (whiteMatch ip) 4 app) app)

/-- The body the three protocol bans share. -/
def addFlowDrop (ipProto : Nat) (event : PacketIn) (app : DDoSSimulationAPP K) :
    DDoSSimulationAPP K :=
  addFlow event.datapath 3 (protocolMatch ipProto) [] app

/-- `add_flow_ICMP_drop`. -/
def addFlowIcmpDrop (event : PacketIn) (app : DDoSSimulationAPP K) : DDoSSimulationAPP K :=
  addFlowDrop ipprotoIcmp event app

/-- `add_flow_TCP_drop`. -/
def addFlowTcpDrop (event : PacketIn) (app : DDoSSimulationAPP K) : DDoSSimulationAPP K :=
  addFlowDrop ipprotoTcp event app

/-- `add_flow_UDP_drop`. -/
def addFlowUdpDrop (event : PacketIn) (app : DDoSSimulationAPP K) : DDoSSimulationAPP K :=
  addFlowDrop ipprotoUdp event app

/-- `clear_flow_ICMP_drop`. -/
def clearFlowIcmpDrop (event : PacketIn) (app : DDoSSimulationAPP K) : DDoSSimulationAPP K :=
  delFlow event.datapath (protocolMatch ipprotoIcmp) 3 app

/-- The rules `create_defense_flow_rule` sends. -/
def installDefense (event : PacketIn) (app : DDoSSimulationAPP K) : DDoSSimulationAPP K :=
  let allowed := addFlowWhiteTable event app
  if threeTenths < (app.currentProtocolRate.get? .icmp).getD 0 then addFlowIcmpDrop event allowed
  else allowed

/-- `create_defense_flow_rule`. -/
def createDefenseFlowRule (event : PacketIn) (app : DDoSSimulationAPP K) : DDoSSimulationAPP K :=
  let installed := installDefense event app
  { installed with defence := installed.sent.drop app.sent.length }

/-- `clear_defense_flow_rule`. -/
def clearDefenseFlowRule (event : PacketIn) : Effect PyError (DDoSSimulationAPP K) Unit := do
  clearWhiteTable event
  modify (clearFlowIcmpDrop event)

/-- `sampling_switch_id_list`. -/
def samplingSwitchIdList : List String := ["1", "3", "5", "6", "10", "12", "13"]

/-- `if datapath.id == dpid: ...`, for one id of the list; the one side is a number
and the other a text. -/
def sampleIfListed (datapath : Nat) (app : DDoSSimulationAPP K) (dpid : String) :
    DDoSSimulationAPP K :=
  if DatapathKey.id datapath = .text dpid then
    { requestSamplingPackets datapath app with
      datapathInfoMap := app.datapathInfoMap.set datapath ⟨true⟩ }
  else app

/-- The rules a switch starts with. -/
def initialRules : Dict String Bool :=
  (((Dict.empty.set "ip_white_table" false).set "ICMP" false).set "TCP" false).set "UDP" false

/-- `switch_features_handler`. -/
def switchFeaturesHandler (datapath : Nat) (app : DDoSSimulationAPP K) : DDoSSimulationAPP K :=
  let registered := { app with
    datapathInfoMap := app.datapathInfoMap.set datapath ⟨false⟩
    trafficEngineerRuleMap := app.trafficEngineerRuleMap.set (.id datapath) initialRules }
  samplingSwitchIdList.foldl (sampleIfListed datapath) (addFlowMissRule datapath registered)

/-- The change of `DDoSing_count` after a verdict. -/
def countVerdict (anomalous : Bool) (count : Int) : Int :=
  if anomalous then count + 1 else if count > 20 then 20 else count - 1

/-- The first statement of `ip_white_table`: a verdict is taken and counted. -/
def judge (app : DDoSSimulationAPP K) : DDoSSimulationAPP K :=
  let (anomalous, taken) := detectDdosByEntropy app
  { taken with ddosingCount := countVerdict anomalous taken.ddosingCount }

/-- `ip_white_table`. -/
def ipWhiteTable (event : PacketIn) : Effect PyError (DDoSSimulationAPP K) Unit := do
  modify judge
  let app ← get
  if app.ddosingCount > 10 then
    if app.isDDoSAttacking then pure ()
    else modify fun app => { createDefenseFlowRule event app with isDDoSAttacking := true }
  else if app.isDDoSAttacking then
    let (anomalous, taken) := detectDdosByEntropy app
    set taken
    if anomalous then pure ()
    else
      clearDefenseFlowRule event
      modify fun app => { app with isDDoSAttacking := false, ddosingCount := 0 }
  else pure ()

/-- `switch_defend_rule.get(name) == True`, for the rules of a datapath. -/
def ruleSet (app : DDoSSimulationAPP K) (datapath : Nat) (name : String) : Bool :=
  match app.trafficEngineerRuleMap.get? (.id datapath) with
  | some rules => rules.get? name == some true
  | none => false

/-- A pending protocol ban is sent and its flag reset. -/
def enforce (name : String)
    (addFlowDrop : PacketIn → DDoSSimulationAPP K → DDoSSimulationAPP K) (event : PacketIn)
    (app : DDoSSimulationAPP K) : DDoSSimulationAPP K :=
  if app.ruleSet event.datapath name then
    let banned := addFlowDrop event app
    let rules := (banned.trafficEngineerRuleMap.get? (.id event.datapath)).getD .empty
    { banned with
      trafficEngineerRuleMap :=
        banned.trafficEngineerRuleMap.set (.id event.datapath) (rules.set name false) }
  else app

/-- `packet_in_handler`. -/
def packetInHandler (event : PacketIn) : Effect PyError (DDoSSimulationAPP K) Unit := do
  samplePacketIn event
  if (← get).ruleSet event.datapath "ip_white_table" then ipWhiteTable event
  modify (enforce "ICMP" addFlowIcmpDrop event)
  modify (enforce "TCP" addFlowTcpDrop event)
  modify (enforce "UDP" addFlowUdpDrop event)

/-- `self.trafficEngineerRuleMap[key][protocol] = True`, for every key. A protocol
which is no text is stored under a key that no handler reads, and one that cannot
be hashed is refused at the first entry. -/
def forbidEverywhere (protocol : Json) (app : DDoSSimulationAPP K) :
    Except PyError (DDoSSimulationAPP K) :=
  match protocol with
  | .str name =>
      .ok { app with
        trafficEngineerRuleMap := app.trafficEngineerRuleMap.mapValues fun rules =>
          rules.set name true }
  | .arr _ => if app.trafficEngineerRuleMap.entries.isEmpty then .ok app else .error .typeError
  | .obj _ => if app.trafficEngineerRuleMap.entries.isEmpty then .ok app else .error .typeError
  | _ => .ok app

/-- `protocol_forbid`. -/
def protocolForbid (body : Json) : Effect PyError (DDoSSimulationAPP K) Json := do
  let dpid ← Effect.ofExcept (body.subscript "dpid")
  let protocol ← Effect.ofExcept (body.subscript "protocol")
  if dpid.equals .null then
    pure (.obj [("status", .str "error"), ("data", dpid)])
  else
    set (← Effect.ofExcept (forbidEverywhere protocol (← get)))
    pure (.obj [("status", .str "success"), ("data", dpid)])

/-- `set_ip_white_table`, the second definition of the name in its class, which
replaces the first. -/
def setIpWhiteTable (dpid : Option String) : Effect PyError (DDoSSimulationAPP K) Json := do
  match dpid with
  | none => pure (.obj [("status", .str "error"), ("data", .obj [("dpid", .null)])])
  | some dpid =>
      modify fun app =>
        let rules := (app.trafficEngineerRuleMap.get? (.text dpid)).getD .empty
        { app with
          trafficEngineerRuleMap :=
            app.trafficEngineerRuleMap.set (.text dpid) (rules.set "ip_white_table" true) }
      pure (.obj [("status", .str "success"), ("data", .obj [("dpid", .str dpid)])])

/-- `_traffic_entropy`: both remote queues are emptied into the response. -/
def trafficEntropy (app : DDoSSimulationAPP K) : (List K × List K) × DDoSSimulationAPP K :=
  ((app.sourceIpsEntropyQueueRemote, app.destinationPortsEntropyQueueRemote),
    { app with
      sourceIpsEntropyQueueRemote := []
      destinationPortsEntropyQueueRemote := [] })

/-- What reaches the application. -/
inductive Event where
  | switchFeatures (datapath : Nat)
  | packetIn (message : PacketIn)
  | protocolForbid (body : Json)
  | setIpWhiteTable (dpid : Option String)
  | trafficEntropy

/-- One event, handled to its end or to the exception that ends it. -/
def step (app : DDoSSimulationAPP K) : Event → DDoSSimulationAPP K
  | .switchFeatures datapath => switchFeaturesHandler datapath app
  | .packetIn message => (packetInHandler message).leaves app
  | .protocolForbid body => (DDoSSimulationAPP.protocolForbid body).leaves app
  | .setIpWhiteTable dpid => (DDoSSimulationAPP.setIpWhiteTable dpid).leaves app
  | .trafficEntropy => (DDoSSimulationAPP.trafficEntropy app).2

/-- The flow table of a switch after everything sent to it. -/
def flows (app : DDoSSimulationAPP K) (datapath : Nat) : SwitchTable := tableAfter app.sent datapath

end NetworkAdapter.DDoSSimulationAPP
