import NetworkAdapter.Controller.Determinism
import NetworkAdapter.Controller.ProtocolBans
import NetworkAdapter.OpenFlow.Lookup

/-!
# What a protocol ban changes

The drop flow of a protocol has a priority that only drop flows share, so it takes over the
frames of the protocol that nothing of a higher priority matches, and leaves every other
frame to the entries that handled it.
-/

namespace NetworkAdapter.DDoSSimulationAPP

open Execution FlowTable

variable {K : Type}

/-- A frame of the protocol over IPv4. -/
def Carries (frame : Frame) (protocol : BannedProtocol) : Prop :=
  frame.ethType = ethTypeIp ∧ frame.ipProto = some protocol.number

theorem protocolMatch_admits {ipProto : Nat} {frame : Frame} :
    (protocolMatch ipProto).admits frame ↔
      frame.ethType = ethTypeIp ∧ frame.ipProto = some ipProto := by
  simp only [OFPMatch.admits, OFPMatch.covers, protocolMatch, fieldCovers, Frame.fields,
    Option.isNone_some, Option.isNone_none, Bool.false_or, Bool.true_or, Bool.true_and,
    Bool.and_true, Bool.and_eq_true, decide_eq_true_eq, Option.some.injEq]
  exact and_congr eq_comm (decide_eq_true_iff.trans eq_comm)

theorem flows_addFlow (datapath priority : Nat) (fields : OFPMatch) (actions : List OFPAction)
    (app : DDoSSimulationAPP K) (other : Nat) :
    (addFlow datapath priority fields actions app).flows other =
      if datapath = other then (app.flows other).add priority fields actions
      else app.flows other := by
  simp [addFlow, sendMsg, flows, flowAddition, Message.apply]

/-- Of the priority of a ban there are only bans. -/
theorem Tables.banned {handshaken : Nat → Prop} {history : List PacketIn}
    {app : DDoSSimulationAPP K} (tables : Tables handshaken history app) {datapath : Nat}
    {fields : OFPMatch} {actions : List OFPAction}
    (found : (app.flows datapath).get? (3, fields) = some actions) : actions = [] := by
  by_cases unlearned : Unlearned fields
  · cases tables.fixed datapath 3 fields actions unlearned found with
    | ban => rfl
  · have learned : ∃ inPort dst src, fields = learnedMatch inPort dst src := by
      simpa [Unlearned] using unlearned
    obtain ⟨inPort, dst, src, rfl⟩ := learned
    cases ((tables.learned.flows ..).mp found).1

/-- What installing the drop flow of a protocol may change for a frame. -/
structure BanScope (protocol : BannedProtocol) (before after : SwitchTable) (frame : Frame) :
    Prop where
  dropped : Carries frame protocol → ¬ Outranked OFPMatch.admits before 3 frame →
    HandledAs OFPMatch.admits after frame []
  outranked : Carries frame protocol → Outranked OFPMatch.admits before 3 frame →
    SameHandling OFPMatch.admits before after frame
  others : ¬ Carries frame protocol → SameHandling OFPMatch.admits before after frame

theorem Tables.banScope {handshaken : Nat → Prop} {history : List PacketIn}
    {app : DDoSSimulationAPP K} (tables : Tables handshaken history app)
    (protocol : BannedProtocol) (event : PacketIn) (frame : Frame) :
    BanScope protocol (app.flows event.datapath)
      ((addFlowDrop protocol.number event app).flows event.datapath) frame := by
  have added : (addFlowDrop protocol.number event app).flows event.datapath =
      (app.flows event.datapath).add 3 (protocolMatch protocol.number) [] := by
    rw [addFlowDrop, flows_addFlow, if_pos rfl]
  rw [added]
  constructor
  · intro carries highest
    exact handledAs_add (protocolMatch_admits.mpr carries) highest
      fun _ _ found _ => tables.banned found
  · exact fun _ outranked => sameHandling_add_of_outranked outranked
  · exact fun other => sameHandling_add_of_unmatched (mt protocolMatch_admits.mp other)

/-- One of the bans is of the protocol and on the switch. -/
def BannedOn (bans : List (BannedProtocol × PacketIn)) (datapath : Nat)
    (protocol : BannedProtocol) : Prop :=
  ∃ event, (protocol, event) ∈ bans ∧ event.datapath = datapath

/-- The slot is that of a drop flow among these bans. -/
def BanSlot (bans : List (BannedProtocol × PacketIn)) (datapath : Nat) (slot : Nat × OFPMatch) :
    Prop :=
  ∃ protocol, BannedOn bans datapath protocol ∧ slot = (3, protocolMatch protocol.number)

theorem banSlot_cons {protocol : BannedProtocol} {event : PacketIn}
    {rest : List (BannedProtocol × PacketIn)} {datapath : Nat} {slot : Nat × OFPMatch} :
    BanSlot ((protocol, event) :: rest) datapath slot ↔
      (event.datapath = datapath ∧ (3, protocolMatch protocol.number) = slot) ∨
        BanSlot rest datapath slot := by
  constructor
  · rintro ⟨_, ⟨_, member, here⟩, rfl⟩
    rcases List.mem_cons.mp member with same | later
    · obtain ⟨rfl, rfl⟩ := Prod.mk.inj same
      exact .inl ⟨here, rfl⟩
    · exact .inr ⟨_, ⟨_, later, here⟩, rfl⟩
  · rintro (⟨here, rfl⟩ | ⟨other, ⟨event', later, here⟩, rfl⟩)
    · exact ⟨protocol, ⟨event, List.mem_cons_self, here⟩, rfl⟩
    · exact ⟨other, ⟨event', List.mem_cons_of_mem _ later, here⟩, rfl⟩

theorem flows_addFlowDrop_eq_some {protocol : BannedProtocol} {event : PacketIn}
    {app : DDoSSimulationAPP K} {datapath : Nat} {slot : Nat × OFPMatch}
    {actions : List OFPAction} :
    ((addFlowDrop protocol.number event app).flows datapath).get? slot = some actions ↔
      ((event.datapath = datapath ∧ (3, protocolMatch protocol.number) = slot) ∧ actions = []) ∨
        (¬ (event.datapath = datapath ∧ (3, protocolMatch protocol.number) = slot) ∧
          (app.flows datapath).get? slot = some actions) := by
  rw [addFlowDrop, flows_addFlow]
  split
  · next here =>
      rw [get?_add_eq_some, eq_comm (a := ([] : List OFPAction))]
      simp only [here, true_and, ne_eq]
  · next elsewhere => simp [elsewhere]

variable [EntropyArithmetic K]

/-- The installation of a ban. -/
def BannedProtocol.installation (protocol : BannedProtocol) (event : PacketIn) :
    Installation K :=
  match protocol with
  | .icmp => .icmpBan event
  | .tcp => .tcpBan event
  | .udp => .udpBan event

theorem install_ban (protocol : BannedProtocol) (event : PacketIn)
    (app : DDoSSimulationAPP K) :
    install app (protocol.installation event) = addFlowDrop protocol.number event app := by
  cases protocol <;> rfl

/-- Bans, each with the packet-in that it is installed on. -/
def installBans (app : DDoSSimulationAPP K) (bans : List (BannedProtocol × PacketIn)) :
    DDoSSimulationAPP K :=
  run install app (bans.map fun ban => ban.1.installation ban.2)

/-- Whatever their order and number, bans fill their own slots. -/
theorem get?_installBans {bans : List (BannedProtocol × PacketIn)} {datapath : Nat}
    {slot : Nat × OFPMatch} {actions : List OFPAction} {app : DDoSSimulationAPP K} :
    ((installBans app bans).flows datapath).get? slot = some actions ↔
      (BanSlot bans datapath slot ∧ actions = []) ∨
        (¬ BanSlot bans datapath slot ∧ (app.flows datapath).get? slot = some actions) := by
  induction bans generalizing app with
  | nil => simp [installBans, BanSlot, BannedOn]
  | cons ban rest inductionHypothesis =>
      obtain ⟨protocol, event⟩ := ban
      have first : installBans app ((protocol, event) :: rest) =
          installBans (addFlowDrop protocol.number event app) rest := by
        rw [← install_ban]
        rfl
      rw [first, inductionHypothesis, flows_addFlowDrop_eq_some, banSlot_cons]
      tauto

/-- A ban takes over the frames of its protocol which nothing above it matches, and no other
frame; and with the same bans, in any order and number, every frame is handled alike. -/
theorem ban_affects_its_protocol (installations : List (Installation K)) :
    (∀ protocol event frame,
      BanScope protocol ((run install init installations).flows event.datapath)
        ((install (run install init installations) (protocol.installation event)).flows
          event.datapath) frame) ∧
    ∀ first second datapath,
      (∀ protocol, BannedOn first datapath protocol ↔ BannedOn second datapath protocol) →
        ∀ frame, SameHandling OFPMatch.admits
          ((installBans (run install init installations) first).flows datapath)
          ((installBans (run install init installations) second).flows datapath) frame := by
  constructor
  · intro protocol event frame
    rw [install_ban]
    exact (run_install_tables installations).banScope protocol event frame
  · intro first second datapath same
    refine sameHandling_of_get? fun slot => Option.ext fun actions => ?_
    have slots : BanSlot second datapath slot ↔ BanSlot first datapath slot :=
      exists_congr fun protocol => and_congr_left fun _ => (same protocol).symm
    rw [get?_installBans, get?_installBans, slots]

end NetworkAdapter.DDoSSimulationAPP
