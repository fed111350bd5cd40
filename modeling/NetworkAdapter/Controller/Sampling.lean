import NetworkAdapter.Controller.Entropy
import NetworkAdapter.OpenFlow.Messages
import NetworkAdapter.Semantics.Effect
import NetworkAdapter.Std.Json
import NetworkAdapter.Std.Queue

/-!
# Sampling, learning and windows

The controller's application object and the methods it inherits from
`sampling_entropy_calculator_app.py`. A datapath is its id; what is sent to one
is logged in `sent`, from which its flow table follows. The parsed form of a
packet comes with it, since the packet library computes it from the data alone.
-/

namespace NetworkAdapter

/-- A protocol header of a parsed packet, with the fields the application reads. -/
inductive Header where
  | ethernet (dst src : String) (ethertype : Nat)
  | ipv4 (src dst : String)
  | tcp (srcPort dstPort offset : Nat)
  | udp (srcPort dstPort : Nat)
  | icmp
  | other
deriving DecidableEq

/-- An `OFPPacketIn` message. `protocols` is `packet.Packet(data).protocols`, or
what parsing raises. -/
structure PacketIn where
  datapath : Nat
  inPort : Nat
  bufferId : Nat
  data : List UInt8
  protocols : Except PyError (List Header)

/-- The protocols of a sample. -/
inductive Protocol where
  | icmp
  | tcp
  | udp
  | other
deriving DecidableEq

/-- An entry of `sample_queue`. -/
structure SampleData where
  srcIp : String
  dstIp : String
  dstPort : Nat
  protocol : Protocol
deriving DecidableEq

/-- `protocol_statistic`. -/
structure ProtocolStatistic where
  tcp : Nat
  udp : Nat
  icmp : Nat
  other : Nat
deriving DecidableEq

/-- What stands for a datapath: the number of its id, or a text, which is never equal to one. -/
inductive DatapathKey where
  | id (datapath : Nat)
  | text (dpid : String)
deriving DecidableEq

/-- An entry of `datapathInfoMap`. -/
structure DatapathInfo where
  trafficSampling : Bool
deriving DecidableEq

/-- A computed window: its two entropies and the sources it counted. -/
structure Window (K : Type) where
  sourceIpsEntropy : K
  destinationPortsEntropy : K
  sources : List String

/-- The attributes of `DDoSSimulationAPP`. The last three fields only record what
happened, no method reads them: the messages sent, the windows computed, and the
flow modifications the latest defence created. -/
structure DDoSSimulationAPP (K : Type) where
  whiteIpTable : Dict String Bool
  sampleQueue : List SampleData
  packetCount : Nat
  sampleCount : Nat
  sampleStaticCount : Nat
  macToPort : Dict String (Dict String Nat)
  sourceIps : Dict String Nat
  destinationPorts : Dict Nat Nat
  sourceIpsEntropyQueue : List K
  destinationPortsEntropyQueue : List K
  protocolRateQueue : List (Dict Protocol K)
  sourceIpsEntropyQueueRemote : List K
  destinationPortsEntropyQueueRemote : List K
  protocolCount : Dict Protocol Nat
  protocolStatistic : ProtocolStatistic
  currentSourceIpsEntropy : List K
  currentDestinationPortsEntropy : List K
  currentProtocolRate : Dict Protocol K
  isDDoSAttacking : Bool
  ddosingCount : Int
  datapathInfoMap : Dict Nat DatapathInfo
  trafficEngineerRuleMap : Dict DatapathKey (Dict String Bool)
  sent : List (Nat × Message)
  windows : List (Window K)
  defence : List (Nat × Message)

namespace Header

/-- The fields of an ethernet header. -/
def ethernet? : Header → Option (String × String × Nat)
  | .ethernet dst src ethertype => some (dst, src, ethertype)
  | _ => none

def ipv4? : Header → Option (String × String)
  | .ipv4 src dst => some (src, dst)
  | _ => none

def tcp? : Header → Option (Nat × Nat × Nat)
  | .tcp srcPort dstPort offset => some (srcPort, dstPort, offset)
  | _ => none

def udp? : Header → Option (Nat × Nat)
  | .udp srcPort dstPort => some (srcPort, dstPort)
  | _ => none

def icmp? : Header → Option Unit
  | .icmp => some ()
  | _ => none

end Header

/-- `text.zfill(width)` for a text without a sign. -/
def zfill (width : Nat) (text : String) : String := String.ofList (text.toList.leftpad width '0')

/-- `format(datapath.id, "d").zfill(16)`. -/
def formatDpid (datapath : Nat) : String := zfill 16 datapath.repr

namespace DDoSSimulationAPP

open EntropyArithmetic

variable {K : Type} [EntropyArithmetic K]

/-- `SAMPLE_RATE`. -/
def sampleRate : Nat := 5

/-- `datapath.send_msg(message)`. -/
def sendMsg (datapath : Nat) (message : Message) (app : DDoSSimulationAPP K) :
    DDoSSimulationAPP K :=
  { app with sent := app.sent ++ [(datapath, message)] }

/-- The flow modification of `add_flow`. Its `buffer_id` argument is not used. -/
def flowAddition (priority : Nat) (fields : OFPMatch) (actions : List OFPAction) : Message :=
  .flowMod {
    command := .add, priority := priority, fields := fields, actions := actions,
    idleTimeout := 0, hardTimeout := 0, flags := ofpffSendFlowRem,
    bufferId := ofpNoBuffer, outPort := ofppAny, outGroup := ofpgAny }

/-- `add_flow`. -/
def addFlow (datapath priority : Nat) (fields : OFPMatch) (actions : List OFPAction)
    (app : DDoSSimulationAPP K) : DDoSSimulationAPP K :=
  sendMsg datapath (flowAddition priority fields actions) app

/-- The ports learned on a datapath, with the default `setdefault` would store. -/
def learnedPorts (app : DDoSSimulationAPP K) (datapath : Nat) : Dict String Nat :=
  (app.macToPort.get? (formatDpid datapath)).getD .empty

/-- `self.mac_to_port[dpid][src] = in_port`, the table of the datapath created if need be. -/
def learn (event : PacketIn) (src : String) (app : DDoSSimulationAPP K) : DDoSSimulationAPP K :=
  { app with
    macToPort := app.macToPort.set (formatDpid event.datapath)
      ((app.learnedPorts event.datapath).set src event.inPort) }

/-- The match of a learned flow. -/
def learnedMatch (inPort : Nat) (dst src : String) : OFPMatch :=
  { inPort := some inPort, ethDst := some dst, ethSrc := some src }

/-- `OFPActionOutput(port)`, with the default `max_len`. -/
def outputTo (port : Nat) : List OFPAction := [⟨port, ofpcmlMax⟩]

/-- The packet-out of `switch_mac_to_port`; a buffered packet is named, not copied. -/
def packetOut (event : PacketIn) (actions : List OFPAction) : Message :=
  .packetOut {
    bufferId := event.bufferId, inPort := event.inPort, actions := actions,
    data := if event.bufferId = ofpNoBuffer then some event.data else none }

/-- `switch_mac_to_port` from `out_port = ...` on: a known destination gets a flow,
and no packet-out follows it if the packet is buffered. -/
def forward (event : PacketIn) (dst src : String) (app : DDoSSimulationAPP K) :
    DDoSSimulationAPP K :=
  let outPort := ((app.learnedPorts event.datapath).get? dst).getD ofppFlood
  let actions := outputTo outPort
  if outPort ≠ ofppFlood then
    let app := addFlow event.datapath 0 (learnedMatch event.inPort dst src) actions app
    if event.bufferId ≠ ofpNoBuffer then app
    else sendMsg event.datapath (packetOut event actions) app
  else sendMsg event.datapath (packetOut event actions) app

/-- `pkt.get_protocols(ethernet.ethernet)[0]`, after parsing. -/
def ethernetHeader (event : PacketIn) : Except PyError (String × String × Nat) := do
  let protocols ← event.protocols
  match protocols.findSome? Header.ethernet? with
  | some header => .ok header
  | none => .error .indexError

/-- `switch_mac_to_port`. -/
def switchMacToPort (event : PacketIn) : Effect PyError (DDoSSimulationAPP K) Unit := do
  let (dst, src, ethertype) ← Effect.ofExcept (ethernetHeader event)
  if ethertype = ethTypeLldp then pure ()
  else modify fun app => forward event dst src (learn event src app)

/-- The body of the `while` loop of `process_sample_queue`. -/
def countSample (app : DDoSSimulationAPP K) (sample : SampleData) : DDoSSimulationAPP K :=
  { app with
    sourceIps := app.sourceIps.set sample.srcIp ((app.sourceIps.get? sample.srcIp).getD 0 + 1)
    destinationPorts := app.destinationPorts.set sample.dstPort
      ((app.destinationPorts.get? sample.dstPort).getD 0 + 1)
    protocolCount := app.protocolCount.set sample.protocol
      ((app.protocolCount.get? sample.protocol).getD 0 + 1) }

/-- The window the histograms make up. -/
def window (app : DDoSSimulationAPP K) : Window K where
  sourceIpsEntropy := calculateEntropy app.sourceIps
  destinationPortsEntropy := calculateEntropy app.destinationPorts
  sources := app.sourceIps.keys

/-- Handing a window's entropies and the protocol ratios to their readers. -/
def publish (computed : Window K) (app : DDoSSimulationAPP K) : DDoSSimulationAPP K :=
  let rate : Dict Protocol K := calculateProtocolRatio app.protocolCount
  let source := computed.sourceIpsEntropy
  let ports := computed.destinationPortsEntropy
  { app with
    sourceIpsEntropyQueue := putUnlessFull 8 app.sourceIpsEntropyQueue source
    destinationPortsEntropyQueue := putUnlessFull 8 app.destinationPortsEntropyQueue ports
    sourceIpsEntropyQueueRemote := putUnlessFull 20 app.sourceIpsEntropyQueueRemote source
    destinationPortsEntropyQueueRemote :=
      putUnlessFull 20 app.destinationPortsEntropyQueueRemote ports
    protocolRateQueue := putUnlessFull 8 app.protocolRateQueue rate
    currentSourceIpsEntropy := app.currentSourceIpsEntropy ++ [source]
    currentDestinationPortsEntropy := app.currentDestinationPortsEntropy ++ [ports]
    currentProtocolRate := rate
    sampleStaticCount := app.sampleStaticCount + 1
    windows := app.windows ++ [computed] }

/-- `for ip in self.source_ips.keys(): self.white_ip_table[ip]=True`, if the entropies are low. -/
def whitelistSources (computed : Window K) (app : DDoSSimulationAPP K) : DDoSSimulationAPP K :=
  if computed.sourceIpsEntropy < half ∧ computed.destinationPortsEntropy < half then
    { app with
      whiteIpTable :=
        app.sourceIps.keys.foldl (fun table ip => table.set ip true) app.whiteIpTable }
  else app

/-- `process_sample_queue`. Nothing in its `try` block raises. -/
def processSampleQueue (app : DDoSSimulationAPP K) : DDoSSimulationAPP K :=
  let counted := app.sampleQueue.foldl countSample { app with sampleQueue := [] }
  let computed := counted.window
  let published := publish computed counted
  if published.sampleStaticCount > 3 then
    { whitelistSources computed { published with sampleStaticCount := 0 } with
      sourceIps := .empty
      destinationPorts := .empty
      currentProtocolRate := .empty }
  else published

/-- `detect_ddos_by_entropy`; an empty queue leaves its entropy at zero. -/
def detectDdosByEntropy (app : DDoSSimulationAPP K) : Bool × DDoSSimulationAPP K :=
  let source := app.currentSourceIpsEntropy.head?.getD 0
  let ports := app.currentDestinationPortsEntropy.head?.getD 0
  (decide (source < 1) || decide (ports < 1),
    { app with
      currentSourceIpsEntropy := app.currentSourceIpsEntropy.tail
      currentDestinationPortsEntropy := app.currentDestinationPortsEntropy.tail })

/-- The counter of `protocol_statistic` a sampled packet goes to. -/
def countProtocol (protocols : List Header) (statistic : ProtocolStatistic) : ProtocolStatistic :=
  if (protocols.findSome? Header.tcp?).isSome then { statistic with tcp := statistic.tcp + 1 }
  else if (protocols.findSome? Header.udp?).isSome then { statistic with udp := statistic.udp + 1 }
  else if (protocols.findSome? Header.icmp?).isSome then
    { statistic with icmp := statistic.icmp + 1 }
  else { statistic with other := statistic.other + 1 }

/-- The protocol of a sample. -/
def sampleProtocol (protocols : List Header) : Protocol :=
  if (protocols.findSome? Header.icmp?).isSome then .icmp
  else if (protocols.findSome? Header.tcp?).isSome then .tcp
  else if (protocols.findSome? Header.udp?).isSome then .udp
  else .other

/-- The `dst_port` of a sample. `tcp_pkt` is false when its length, four times its
data offset, is zero; the port stored is the source port. -/
def samplePort (protocols : List Header) : Except PyError Nat :=
  match protocols.findSome? Header.tcp?, protocols.findSome? Header.udp? with
  | none, none => .ok 0
  | some (srcPort, _, offset), none =>
      if offset * 4 ≠ 0 then .ok srcPort else .error (.attributeError "src_port")
  | some (srcPort, _, offset), some (udpPort, _) =>
      if offset * 4 ≠ 0 then .ok srcPort else .ok udpPort
  | none, some (udpPort, _) => .ok udpPort

/-- The sample of a packet, if it is an IPv4 packet. -/
def sampleOf (protocols : List Header) : Except PyError (Option SampleData) :=
  match protocols.findSome? Header.ipv4? with
  | none => .ok none
  | some (src, dst) => do
      let dstPort ← samplePort protocols
      .ok (some ⟨src, dst, dstPort, sampleProtocol protocols⟩)

/-- `packet_in_handler` of `SamplingEntropyCalculator`. -/
def samplePacketIn (event : PacketIn) : Effect PyError (DDoSSimulationAPP K) Unit := do
  switchMacToPort event
  modify fun app => { app with sampleCount := app.sampleCount + 1 }
  if (← get).sampleCount % sampleRate ≠ 0 then pure ()
  else
    modify fun app => { app with sampleCount := 0 }
    let _ ← Effect.ofExcept (ethernetHeader event)
    let protocols ← Effect.ofExcept event.protocols
    modify fun app => { app with
      protocolStatistic := countProtocol protocols app.protocolStatistic }
    match ← Effect.ofExcept (sampleOf protocols) with
    | some sample =>
        modify fun app => { app with sampleQueue := putUnlessFull 100 app.sampleQueue sample }
    | none => pure ()
    modify fun app => { app with packetCount := app.packetCount + 1 }
    if (← get).packetCount > 50 then
      modify fun app => processSampleQueue { app with packetCount := 0 }

end DDoSSimulationAPP
end NetworkAdapter
