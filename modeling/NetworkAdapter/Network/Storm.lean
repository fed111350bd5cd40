import NetworkAdapter.Network.Delivery

/-!
# Storms

Nothing in the controller keeps frames from going round: there is no spanning
tree, and what is flooded once is flooded by every switch it reaches. On a ring
of switches a frame to an address that never sends, as a broadcast is, therefore
stays under way for ever, whatever else happens and in whatever order.
-/

namespace NetworkAdapter.Fabric

open DDoSSimulationAPP Execution

variable {K : Type} {cabling : Cabling} {format : FrameFormat} {nobody : String}
  {ring : Nat → Prop} {data : List UInt8}

/-- No frame names the address as its source, so that no port is known for it. -/
def unclaimed (cabling : Cabling) (format : FrameFormat) (nobody : String) :
    Discipline cabling format where
  rides transit := (format.fields transit.data).ethSrc ≠ nobody
  enters _ _ data := (format.fields data).ethSrc ≠ nobody
  leads _ address _ := address ≠ nobody
  arrives other := other
  leaves other _ := other
  teaches other := other

/-- From every switch of the ring there is a way on to another one, wherever a frame came from. -/
def Ring (cabling : Cabling) (ring : Nat → Prop) : Prop :=
  ∀ datapath, ring datapath → ∀ previous, ∃ next, ring next ∧
    Device.switch next ≠ previous ∧ Device.switch next ∈ cabling.neighbours (.switch datapath)

/-- A copy of the frame is under way on the ring. -/
inductive Circulates (ring : Nat → Prop) (data : List UInt8) (fabric : Fabric K) : Prop where
  | riding {source : Device} {datapath : Nat}
      (member : ⟨source, .switch datapath, data⟩ ∈ fabric.wires) (on : ring datapath)
  | reported {message : PacketIn} (member : message ∈ fabric.packetIns)
      (on : ring message.datapath) (carries : message.data = data)
  | flooding {datapath : Nat} {body : OFPPacketOut}
      (member : (datapath, .packetOut body) ∈ fabric.commands) (on : ring datapath)
      (carries : body.data = some data) (floods : body.actions = outputTo ofppFlood)

/-- What is under way is the item taken, or still under way. -/
theorem eq_or_mem_eraseIdx {Item : Type} {items : List Item} {index : Nat} {taken item : Item}
    (found : items[index]? = some taken) (member : item ∈ items) :
    item = taken ∨ item ∈ items.eraseIdx index := by
  obtain ⟨inside, rfl⟩ := List.getElem?_eq_some_iff.mp found
  have perm := List.getElem_cons_eraseIdx_perm inside
  exact List.mem_cons.mp (perm.mem_iff.mpr member)

theorem Circulates.mono {before after : Fabric K} (circulates : Circulates ring data before)
    (wires : ∀ transit ∈ before.wires, transit ∈ after.wires)
    (packetIns : ∀ message ∈ before.packetIns, message ∈ after.packetIns)
    (commands : ∀ entry ∈ before.commands, entry ∈ after.commands) :
    Circulates ring data after := by
  cases circulates with
  | riding member on => exact .riding (wires _ member) on
  | reported member on carries => exact .reported (packetIns _ member) on carries
  | flooding member on carries floods => exact .flooding (commands _ member) on carries floods

/-- Applying actions takes nothing away. -/
theorem Circulates.apply {fabric : Fabric K} (circulates : Circulates ring data fabric)
    (datapath inPort : Nat) (carried : List UInt8) (normal : List Device)
    (actions : List OFPAction) :
    Circulates ring data
      (Fabric.apply cabling format datapath inPort carried normal actions fabric) := by
  rw [apply_eq]
  exact circulates.mono (fun _ => List.mem_append_left _) (fun _ => List.mem_append_left _)
    fun _ member => member

/-- Flooding a frame on the ring sends it on along the ring. -/
theorem circulates_flood (isRing : Ring cabling ring) {datapath : Nat} (on : ring datapath)
    (inPort : Nat) (normal : List Device) (fabric : Fabric K) :
    Circulates ring data
      (Fabric.apply cabling format datapath inPort data normal (outputTo ofppFlood) fabric) := by
  -- One of two neighbours on the ring is not on the port the frame came in on.
  obtain ⟨next, onRing, linked, other⟩ : ∃ next, ring next ∧
      .switch next ∈ cabling.neighbours (.switch datapath) ∧
        cabling.port datapath (.switch next) ≠ inPort := by
    obtain ⟨first, onFirst, _, linked⟩ := isRing datapath on (.switch datapath)
    by_cases back : cabling.port datapath (.switch first) = inPort
    · obtain ⟨second, onSecond, apart, linked'⟩ := isRing datapath on (.switch first)
      refine ⟨second, onSecond, linked', fun also => apart ?_⟩
      exact cabling.port_injective linked' linked (also.trans back.symm)
    · exact ⟨first, onFirst, linked, back⟩
  suffices sent : ⟨.switch datapath, .switch next, data⟩ ∈
      (Fabric.apply cabling format datapath inPort data normal (outputTo ofppFlood) fabric).wires
    from .riding sent onRing
  rw [apply_eq]
  refine List.mem_append_right _ (List.mem_flatMap.mpr ⟨_, List.mem_singleton.mpr rfl, ?_⟩)
  have onward : Device.switch next ∈ egress cabling datapath inPort normal ofppFlood :=
    List.mem_filter.mpr ⟨linked, decide_eq_true ⟨other, .inl rfl⟩⟩
  simpa [ofppFlood, ofppController] using onward

/-- A switch that carries out a message takes nothing away but the message. -/
theorem Circulates.execute {fabric : Fabric K} (circulates : Circulates ring data fabric)
    (datapath : Nat) (message : Message) (normal : List Device) :
    Circulates ring data (Fabric.execute cabling format datapath message normal fabric) := by
  have updated (tables : Nat → SwitchTable) :
      Circulates ring data { fabric with tables := tables } :=
    circulates.mono (fun _ member => member) (fun _ member => member) fun _ member => member
  unfold Fabric.execute
  split
  · exact updated _
  · split
    · exact updated _
    · exact (updated _).apply _ _ _ _ _

/-- A switch of the ring hands the frame over. -/
theorem circulates_arrive {fabric : Fabric K}
    (working : Working (unclaimed cabling format nobody) ring fabric)
    (addressed : (format.fields data).ethDst = nobody) {source : Device} {datapath : Nat}
    (on : ring datapath) (entry : Nat) (normal : List Device) (wires : List Transit) :
    Circulates ring data (arrive cabling format ⟨source, .switch datapath, data⟩ entry normal
      { fabric with wires := wires }) := by
  obtain handed | ⟨port, _, leads⟩ := handler_working (working.disciplined.tables datapath)
    (working.ready datapath on) (format.received (cabling.port datapath source) data) entry
  · suffices given : ⟨datapath, cabling.port datapath source, ofpNoBuffer, data,
        format.protocols data⟩ ∈ (arrive cabling format ⟨source, .switch datapath, data⟩ entry
          normal { fabric with wires := wires }).packetIns
      from .reported given on rfl
    simp only [arrive, handed, apply_eq]
    exact List.mem_append_right _ (by simp [toController])
  · exact absurd addressed leads

/-- A frame that may be taken off a link stays on the ring. -/
theorem Circulates.arrive {fabric : Fabric K} (circulates : Circulates ring data fabric)
    (working : Working (unclaimed cabling format nobody) ring fabric)
    (addressed : (format.fields data).ethDst = nobody) {index : Nat} {transit : Transit}
    (found : fabric.wires[index]? = some transit) (entry : Nat) (normal : List Device) :
    Circulates ring data (Fabric.arrive cabling format transit entry normal
      { fabric with wires := fabric.wires.eraseIdx index }) := by
  have passes (still : Circulates ring data { fabric with wires := fabric.wires.eraseIdx index }) :
      Circulates ring data (Fabric.arrive cabling format transit entry normal
        { fabric with wires := fabric.wires.eraseIdx index }) := by
    have reached : Circulates ring data
        { fabric with
          wires := fabric.wires.eraseIdx index
          arrivals := fabric.arrivals ++ [(transit.target, transit.data)] } :=
      still.mono (fun _ member => member) (fun _ member => member) fun _ member => member
    obtain ⟨source, target, carried⟩ := transit
    cases target with
    | host address => exact reached
    | switch datapath => exact reached.apply _ _ _ _ _
  cases circulates with
  | @riding source datapath member on =>
      rcases eq_or_mem_eraseIdx found member with rfl | still
      · exact circulates_arrive working addressed on entry normal _
      · exact passes (.riding still on)
  | reported member on carries => exact passes (.reported member on carries)
  | flooding member on carries floods => exact passes (.flooding member on carries floods)

variable [EntropyArithmetic K]

/-- The controller has the frame flooded. -/
theorem circulates_control {fabric : Fabric K}
    (working : Working (unclaimed cabling format nobody) ring fabric)
    (readable : Readable format data) (addressed : (format.fields data).ethDst = nobody)
    {message : PacketIn} (reported : Reported (unclaimed cabling format nobody) message)
    (on : ring message.datapath) (carries : message.data = data) (packetIns : List PacketIn) :
    Circulates ring data (serve (.packetIn message) { fabric with packetIns := packetIns }) := by
  subst carries
  have same := reported.relayed readable fabric.app
  have ports := (working.disciplined.relay reported).1 message.datapath nobody
  rw [same, forward_eq, addressed] at ports
  have unknown : ((learn message (format.fields message.data).ethSrc fabric.app).learnedPorts
      message.datapath).get? nobody = none := by
    by_contra known
    obtain ⟨port, known⟩ := Option.ne_none_iff_exists'.mp known
    exact ports port known rfl
  obtain ⟨rules, installed, _⟩ := (packetIn_installs_of_rulesOff working.rulesOff message).sent
  rw [same, forward_eq, addressed, unknown] at installed
  have logged : (DDoSSimulationAPP.step fabric.app (.packetIn message)).sent = fabric.app.sent ++
      ((message.datapath, packetOut message (outputTo ofppFlood)) :: rules) := by
    rw [installed]
    simp [forwardMessages_unbuffered reported.unbuffered, learn]
  suffices sent : (message.datapath, packetOut message (outputTo ofppFlood)) ∈
      (serve (.packetIn message) { fabric with packetIns := packetIns }).commands
    from .flooding sent on (if_pos reported.unbuffered) rfl
  simp only [serve, drop_sent logged]
  exact List.mem_append_right _ List.mem_cons_self

/-- The step lemma: no event takes the frame off the ring. -/
theorem Circulates.step (isRing : Ring cabling ring) {fabric : Fabric K}
    (circulates : Circulates ring data fabric)
    (working : Working (unclaimed cabling format nobody) ring fabric)
    (readable : Readable format data) (addressed : (format.fields data).ethDst = nobody)
    (event : FabricEvent) : Circulates ring data (Fabric.step cabling format fabric event) := by
  cases event with
  | inject address carried =>
      exact circulates.mono (fun _ => List.mem_append_left _) (fun _ => id) fun _ => id
  | arrive index entry normal =>
      cases found : fabric.wires[index]? with
      | none => simpa [Fabric.step, found] using circulates
      | some transit =>
          simpa [Fabric.step, found] using circulates.arrive working addressed found entry normal
  | control index =>
      cases found : fabric.packetIns[index]? with
      | none => simpa [Fabric.step, found] using circulates
      | some message =>
          simp only [Fabric.step, found]
          have served (still : Circulates ring data
              { fabric with packetIns := fabric.packetIns.eraseIdx index }) :
              Circulates ring data (serve (.packetIn message)
                { fabric with packetIns := fabric.packetIns.eraseIdx index }) :=
            still.mono (fun _ member => member) (fun _ member => member)
              fun _ => List.mem_append_left _
          cases circulates with
          | riding member on => exact served (.riding member on)
          | flooding member on carries floods => exact served (.flooding member on carries floods)
          | reported member on carries =>
              rcases eq_or_mem_eraseIdx found member with rfl | still
              · exact circulates_control working readable addressed
                  (working.disciplined.packetIns _ member) on carries _
              · exact served (.reported still on carries)
  | execute index normal =>
      cases found : fabric.commands[index]? with
      | none => simpa [Fabric.step, found] using circulates
      | some command =>
          simp only [Fabric.step, found]
          have passes (still : Circulates ring data
              { fabric with commands := fabric.commands.eraseIdx index }) :
              Circulates ring data (Fabric.execute cabling format command.1 command.2 normal
                { fabric with commands := fabric.commands.eraseIdx index }) :=
            still.execute command.1 command.2 normal
          cases circulates with
          | riding member on => exact passes (.riding member on)
          | reported member on carries => exact passes (.reported member on carries)
          | flooding member on carries floods =>
              rcases eq_or_mem_eraseIdx found member with rfl | still
              · simp only [Fabric.execute, carries, floods]
                exact circulates_flood isRing on _ _ _
              · exact passes (.flooding still on carries floods)
  | request event =>
      have served : Circulates ring data (serve event fabric) :=
        circulates.mono (fun _ member => member) (fun _ member => member)
          fun _ => List.mem_append_left _
      cases event with
      | packetIn message => exact circulates
      | _ => exact served

/-- The hosts send no frame with the address as its source. -/
def Disclaims (format : FrameFormat) (nobody : String) : FabricEvent → Prop
  | .inject _ data => (format.fields data).ethSrc ≠ nobody
  | _ => True

omit [EntropyArithmetic K] in
theorem Disclaims.abides {event : FabricEvent} (disclaims : Disclaims format nobody event) :
    Abides (unclaimed cabling format nobody) event := by
  cases event with
  | inject address data => exact fun _ _ => disclaims
  | _ => trivial

/-- On a ring of switches in operation a frame to an address that never sends, once a host of the
ring has injected it, is under way for ever: in every run without bans, whatever is injected,
taken off the links, handled and carried out, and in whatever order. -/
theorem storm_never_ends (isRing : Ring cabling ring) {boot events : List FabricEvent}
    (allowed : ∀ event ∈ boot ++ events, Disclaims format nobody event ∧ Unbanned event)
    (ready : Ready ring (run (step cabling format) (init : Fabric K) boot))
    (readable : Readable format data) (addressed : (format.fields data).ethDst = nobody)
    (claimed : (format.fields data).ethSrc ≠ nobody) {address : String} {datapath : Nat}
    (linked : Device.switch datapath ∈ cabling.neighbours (.host address)) (on : ring datapath) :
    let fabric := run (step cabling format) (init : Fabric K)
      (boot ++ .inject address data :: events)
    Circulates ring data fabric ∧ ¬ Quiescent fabric := by
  intro fabric
  have booted : Working (unclaimed cabling format nobody) ring
      (run (step cabling format) (init : Fabric K) boot) := by
    have known : Disciplined MissRule (unclaimed cabling format nobody)
          (run (step cabling format) (init : Fabric K) boot) ∧
        RulesOff (run (step cabling format) (init : Fabric K) boot).app :=
      run_invariant_of_mem (fun fabric : Fabric K =>
          Disciplined MissRule (unclaimed cabling format nobody) fabric ∧ RulesOff fabric.app)
        (fun fabric event member known =>
          have ⟨disclaims, unbanned⟩ := allowed event (List.mem_append_left _ member)
          ⟨known.1.step disclaims.abides (within_miss known.2 event),
            rulesOff_step known.2 unbanned⟩)
        ⟨disciplined_init, rulesOff_init⟩
    exact ⟨known.1, known.2, ready⟩
  have injected : Circulates ring data
      (step cabling format (run (step cabling format) (init : Fabric K) boot)
        (.inject address data)) :=
    .riding (List.mem_append_right _ (List.mem_map.mpr ⟨_, linked, rfl⟩)) on
  have working : Working (unclaimed cabling format nobody) ring
      (step cabling format (run (step cabling format) (init : Fabric K) boot)
        (.inject address data)) :=
    booted.step (fun _ _ => claimed) trivial
  have circulates : Circulates ring data fabric := by
    have known : Working (unclaimed cabling format nobody) ring
          (run (step cabling format) _ events) ∧
        Circulates ring data (run (step cabling format) _ events) :=
      run_invariant_of_mem (fun fabric : Fabric K =>
          Working (unclaimed cabling format nobody) ring fabric ∧ Circulates ring data fabric)
        (fun fabric event member known =>
          have ⟨disclaims, unbanned⟩ := allowed event (List.mem_append_right _ member)
          ⟨known.1.step disclaims.abides unbanned,
            known.2.step isRing known.1 readable addressed event⟩)
        ⟨working, injected⟩
    simpa [fabric] using known.2
  refine ⟨circulates, ?_⟩
  rintro ⟨noWire, noPacketIn, noCommand⟩
  cases circulates with
  | riding member on => simp [noWire] at member
  | reported member on carries => simp [noPacketIn] at member
  | flooding member on carries floods => simp [noCommand] at member

/-- Three switches, each linked to the others, and a host on the first. -/
def triangle : Cabling :=
  .ofTable [(.switch 1, [.switch 2, .switch 3, .host "a"]), (.switch 2, [.switch 1, .switch 3]),
    (.switch 3, [.switch 1, .switch 2]), (.host "a", [.switch 1])] (by decide)

/-- All three switches are on a ring. -/
def triangular (datapath : Nat) : Prop := datapath = 1 ∨ datapath = 2 ∨ datapath = 3
deriving Decidable

theorem triangle_ring : Ring triangle triangular := by
  intro datapath on previous
  have other (first second : Nat) (apart : Device.switch first ≠ .switch second) :
      Device.switch first ≠ previous ∨ Device.switch second ≠ previous := by
    by_cases back : Device.switch first = previous
    · exact .inr (back ▸ apart.symm)
    · exact .inl back
  rcases on with rfl | rfl | rfl
  · rcases other 2 3 (by decide) with apart | apart
    · exact ⟨2, by decide, apart, by decide⟩
    · exact ⟨3, by decide, apart, by decide⟩
  · rcases other 1 3 (by decide) with apart | apart
    · exact ⟨1, by decide, apart, by decide⟩
    · exact ⟨3, by decide, apart, by decide⟩
  · rcases other 1 2 (by decide) with apart | apart
    · exact ⟨1, by decide, apart, by decide⟩
    · exact ⟨2, by decide, apart, by decide⟩

/-- The three switches connect. -/
def handshakes : List FabricEvent :=
  [.request (.switchFeatures 1), .request (.switchFeatures 2), .request (.switchFeatures 3),
    .execute 0 [], .execute 0 [], .execute 0 []]

theorem triangle_ready :
    Ready triangular (run (step triangle oneFrame) (init : Fabric Rat) handshakes) := by
  rintro datapath (rfl | rfl | rfl) <;> decide +kernel

/-- A frame of the host to one that is not there goes round. -/
theorem triangle_storm :
    let fabric := run (step triangle oneFrame) (init : Fabric Rat)
      (handshakes ++ .inject "a" [0] :: [.arrive 0 0 [], .control 0, .execute 0 []])
    Circulates triangular [0] fabric ∧ ¬ Quiescent fabric := by
  have linked : Device.switch 1 ∈ triangle.neighbours (.host "a") := by decide
  have allowed : ∀ event ∈ handshakes ++ [.arrive 0 0 [], .control 0, .execute 0 []],
      Disclaims oneFrame "b" event ∧ Unbanned event := by
    simp [handshakes, Disclaims, Unbanned]
  exact storm_never_ends triangle_ring allowed triangle_ready ⟨_, _, _, _, rfl, rfl, by decide⟩
    rfl (by decide) linked (.inl rfl)

end NetworkAdapter.Fabric
