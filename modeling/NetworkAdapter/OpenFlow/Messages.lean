import NetworkAdapter.OpenFlow.FlowTable

/-!
# The OpenFlow messages the controller sends

The part of the protocol, version 1.3, that the controller uses: matches on six
fields, the output action, flow modifications and packet-outs. A match covers
another if every field it names has the same value there, and it admits a frame
if it covers the frame's own field values.
-/

namespace NetworkAdapter

/-- `OFPMatch`; a field without a value is a wildcard. -/
structure OFPMatch where
  inPort : Option Nat := none
  ethDst : Option String := none
  ethSrc : Option String := none
  ethType : Option Nat := none
  ipProto : Option Nat := none
  ipv4Dst : Option String := none
deriving DecidableEq

/-- `OFPActionOutput(port, max_len)`, the only action used. -/
structure OFPAction where
  port : Nat
  maxLen : Nat
deriving DecidableEq

def ofppNormal : Nat := 0xfffffffa
def ofppFlood : Nat := 0xfffffffb
def ofppController : Nat := 0xfffffffd
def ofppAny : Nat := 0xffffffff
def ofpgAny : Nat := 0xffffffff
def ofpcmlMax : Nat := 0xffe5
def ofpcmlNoBuffer : Nat := 0xffff
def ofpNoBuffer : Nat := 0xffffffff
def ofpffSendFlowRem : Nat := 1

def ethTypeIp : Nat := 0x0800
def ethTypeLldp : Nat := 0x88cc

def ipprotoIcmp : Nat := 1
def ipprotoTcp : Nat := 6
def ipprotoUdp : Nat := 17

/-- The flow modification commands used. -/
inductive FlowModCommand where
  | add
  | delete
deriving DecidableEq

/-- `OFPFlowMod`, its instructions being one apply-actions list or none. -/
structure OFPFlowMod where
  command : FlowModCommand
  priority : Nat
  fields : OFPMatch
  actions : List OFPAction
  idleTimeout : Nat
  hardTimeout : Nat
  flags : Nat
  bufferId : Nat
  outPort : Nat
  outGroup : Nat
deriving DecidableEq

/-- `OFPPacketOut`. -/
structure OFPPacketOut where
  bufferId : Nat
  inPort : Nat
  actions : List OFPAction
  data : Option (List UInt8)
deriving DecidableEq

/-- A message to a switch. -/
inductive Message where
  | flowMod (body : OFPFlowMod)
  | packetOut (body : OFPPacketOut)
deriving DecidableEq

/-- The field values of a frame as it enters a switch; the last two are absent
unless the frame carries such a header. -/
structure Frame where
  inPort : Nat
  ethDst : String
  ethSrc : String
  ethType : Nat
  ipProto : Option Nat
  ipv4Dst : Option String

/-- The most specific match of a frame. -/
def Frame.fields (frame : Frame) : OFPMatch where
  inPort := some frame.inPort
  ethDst := some frame.ethDst
  ethSrc := some frame.ethSrc
  ethType := some frame.ethType
  ipProto := frame.ipProto
  ipv4Dst := frame.ipv4Dst

/-- A wildcard covers everything, a value only itself. -/
def fieldCovers {Value : Type} [DecidableEq Value] (wanted actual : Option Value) : Bool :=
  wanted.isNone || decide (wanted = actual)

namespace OFPMatch

/-- `specific` is equal to `general` or more specific. -/
def covers (general specific : OFPMatch) : Bool :=
  fieldCovers general.inPort specific.inPort && fieldCovers general.ethDst specific.ethDst &&
    fieldCovers general.ethSrc specific.ethSrc && fieldCovers general.ethType specific.ethType &&
    fieldCovers general.ipProto specific.ipProto && fieldCovers general.ipv4Dst specific.ipv4Dst

/-- A frame meets every field the match names. -/
def admits (fields : OFPMatch) (frame : Frame) : Prop := fields.covers frame.fields = true

instance (fields : OFPMatch) (frame : Frame) : Decidable (fields.admits frame) :=
  inferInstanceAs (Decidable (_ = true))

end OFPMatch

/-- A switch's flow table. -/
abbrev SwitchTable := FlowTable OFPMatch (List OFPAction)

/-- What a switch does to its table on a message. -/
def Message.apply (table : SwitchTable) : Message → SwitchTable
  | .flowMod body =>
      match body.command with
      | .add => table.add body.priority body.fields body.actions
      | .delete => FlowTable.delete OFPMatch.covers table body.fields
  | .packetOut _ => table

/-- What a switch makes of a sequence of messages, each with the switch it goes to. -/
def applyAll (datapath : Nat) (table : SwitchTable) (messages : List (Nat × Message)) :
    SwitchTable :=
  messages.foldl (fun current entry =>
    if entry.1 = datapath then entry.2.apply current else current) table

/-- The table of a switch after the messages sent to all of them, in order. -/
def tableAfter (sent : List (Nat × Message)) (datapath : Nat) : SwitchTable :=
  applyAll datapath .empty sent

@[simp] theorem applyAll_nil (datapath : Nat) (table : SwitchTable) :
    applyAll datapath table [] = table := rfl

@[simp] theorem applyAll_cons (datapath : Nat) (table : SwitchTable) (entry : Nat × Message)
    (rest : List (Nat × Message)) :
    applyAll datapath table (entry :: rest) =
      applyAll datapath (if entry.1 = datapath then entry.2.apply table else table) rest := rfl

@[simp] theorem tableAfter_append (earlier later : List (Nat × Message)) (datapath : Nat) :
    tableAfter (earlier ++ later) datapath =
      applyAll datapath (tableAfter earlier datapath) later :=
  List.foldl_append

/-- The message adds an instance of a rule, or it is no flow modification. -/
inductive Message.Adds (rule : Nat → OFPMatch → List OFPAction → Prop) : Message → Prop where
  | flow {body : OFPFlowMod} (isAdd : body.command = .add)
      (holds : rule body.priority body.fields body.actions) : Adds rule (.flowMod body)
  | packet (body : OFPPacketOut) : Adds rule (.packetOut body)

section Rules

variable {rule : Nat → OFPMatch → List OFPAction → Prop}

theorem Message.Adds.mono {weaker : Nat → OFPMatch → List OFPAction → Prop}
    (implies : ∀ priority fields actions, rule priority fields actions →
      weaker priority fields actions) {message : Message} (adds : message.Adds rule) :
    message.Adds weaker := by
  cases adds with
  | packet body => exact .packet body
  | flow isAdd holds => exact .flow isAdd (implies _ _ _ holds)

/-- What one message that adds a rule does to a slot. -/
theorem Message.Adds.get?_apply {message : Message} (adds : message.Adds rule)
    (table : SwitchTable) (slot : Nat × OFPMatch) :
    (message.apply table).get? slot = table.get? slot ∨
      ∃ actions, (message.apply table).get? slot = some actions ∧ rule slot.1 slot.2 actions := by
  cases adds with
  | packet body => exact .inl rfl
  | @flow body isAdd holds =>
      simp only [Message.apply, isAdd, FlowTable.add, Dict.get?_set]
      split
      · next same =>
          subst same
          exact .inr ⟨body.actions, rfl, holds⟩
      · exact .inl rfl

/-- Messages to a switch that add rules leave in a slot what was there or an instance of a rule. -/
theorem get?_applyAll {datapath : Nat} {messages : List (Nat × Message)}
    (adds : ∀ entry ∈ messages, entry.1 = datapath → entry.2.Adds rule) (table : SwitchTable)
    (slot : Nat × OFPMatch) :
    (applyAll datapath table messages).get? slot = table.get? slot ∨
      ∃ actions, (applyAll datapath table messages).get? slot = some actions ∧
        rule slot.1 slot.2 actions := by
  induction messages generalizing table with
  | nil => exact .inl rfl
  | cons entry rest inductionHypothesis =>
      rw [applyAll_cons]
      have later := inductionHypothesis
        (fun other member => adds other (List.mem_cons_of_mem _ member))
        (if entry.1 = datapath then entry.2.apply table else table)
      rcases later with kept | new
      · rw [kept]
        split
        · next same => exact (adds entry List.mem_cons_self same).get?_apply table slot
        · exact .inl rfl
      · exact .inr new

/-- A slot for which the rule allows one action list holds it once it was sent. -/
theorem get?_applyAll_of_sent {datapath : Nat} {messages : List (Nat × Message)}
    (adds : ∀ entry ∈ messages, entry.2.Adds rule) {slot : Nat × OFPMatch}
    {wanted : List OFPAction}
    (only : ∀ actions, rule slot.1 slot.2 actions → actions = wanted) (table : SwitchTable)
    (sent : table.get? slot = some wanted ∨
      ∃ body : OFPFlowMod, (datapath, Message.flowMod body) ∈ messages ∧
        (body.priority, body.fields) = slot) :
    (applyAll datapath table messages).get? slot = some wanted := by
  induction messages generalizing table with
  | nil =>
      obtain held | ⟨body, member, _⟩ := sent
      · exact held
      · cases member
  | cons entry rest inductionHypothesis =>
      have here := adds entry List.mem_cons_self
      rw [applyAll_cons]
      refine inductionHypothesis
        (fun other member => adds other (List.mem_cons_of_mem _ member)) _ ?_
      obtain held | ⟨body, member, fills⟩ := sent
      · left
        split
        · rcases here.get?_apply table slot with kept | ⟨actions, found, holds⟩
          · rw [kept, held]
          · rw [found, only actions holds]
        · exact held
      · rcases List.mem_cons.mp member with rfl | later
        · left
          cases here with
          | flow isAdd holds =>
              subst fills
              simp [Message.apply, isAdd, FlowTable.add, Dict.get?_set, only _ holds]
        · exact .inr ⟨body, later, fills⟩

end Rules

end NetworkAdapter
