import NetworkAdapter.Client.Receiving

/-!
# The tasks a host client executes

`execute_task` with the three things it can do: a scan, an attack and a deception server.
How the world answers them is a `Platform`, and `performed` keeps the actions that were
actually carried out; no function reads it.
-/

namespace NetworkAdapter

/-- What becomes of the calls of `execute_task` that leave the program. An error is the text
of the exception. -/
structure Platform where
  /-- `str(e)`. -/
  text : PyError → String
  /-- What an f-string makes of a value. -/
  format : Json → String
  /-- `int(text)`. -/
  intOfText : String → Except String Int
  /-- `int((1000000/500)*duration)`, a product of floats. -/
  totalPacketNum : Int → Except String Int
  /-- `scanHost.start_scan`, its list of open ports. -/
  startScan : Json → Except String Json
  /-- `subprocess.Popen`. -/
  popen : String → Except String Unit
  /-- `asyncio.start_server` on a port. -/
  startServer : Int → Except String Unit

/-- An action that was carried out. -/
inductive Action where
  | scan (target : Json)
  | command (cmd : String)
  | deception (port delayMinTime delayMaxTime : Int)

/-- The delays of a deception server. -/
structure Delays where
  delayMinTime : Int
  delayMaxTime : Int

/-- `TaskController` with the state of its `HostServer`. -/
structure TaskController where
  socketServerMap : Option (Dict Int Delays)
  performed : List Action

namespace Platform

/-- `value[key]`, with the text of what it raises. -/
def subscript (platform : Platform) (value : Json) (key : String) : Except String Json :=
  (value.subscript key).mapError platform.text

/-- `task_data['params'][key]`. -/
def param (platform : Platform) (task : Json) (key : String) : Except String Json := do
  let params ← platform.subscript task "params"
  platform.subscript params key

/-- `int(value)`. -/
def int (platform : Platform) : Json → Except String Int
  | .bool value => .ok (if value then 1 else 0)
  | .number value => .ok (if 0 ≤ value then value.floor else value.ceil)
  | .str value => platform.intOfText value
  | _ => .error (platform.text .typeError)

end Platform

namespace TaskController

/-- Record an action. -/
def perform (action : Action) (controller : TaskController) : TaskController :=
  { controller with performed := controller.performed ++ [action] }

/-- `execute_cmd_nowait`: a command that cannot be started is only printed. -/
def executeCmdNowait (platform : Platform) (cmd : String) : Effect String TaskController Unit :=
  match platform.popen cmd with
  | .ok _ => modify (perform (.command cmd))
  | .error _ => pure ()

/-- The command line of an attack. -/
def floodCommand (platform : Platform) (options : String) (totalPacketNum : Int)
    (targetIp : Json) : String :=
  let target := platform.format targetIp
  s!"nohup hping3 {options} -c {totalPacketNum} {target} > /dev/null 2>&1 &"

/-- What `icmp_flood`, `syn_flood` and `udp_flood` do, which differ in the options. -/
def flood (platform : Platform) (options : String) (targetIp : Json) (duration : Int) :
    Effect String TaskController Bool := do
  let totalPacketNum ← Effect.ofExcept (platform.totalPacketNum duration)
  executeCmdNowait platform (floodCommand platform options totalPacketNum targetIp)
  return true

def icmpFlood (platform : Platform) := flood platform "--icmp -q -i u500 "

def synFlood (platform : Platform) := flood platform "-S -q -i u500"

def udpFlood (platform : Platform) := flood platform "-u -q -i u500"

def ddosAttack (platform : Platform) (targetIp attackType : Json) (duration : Int) :
    Effect String TaskController Bool :=
  if attackType.equals (.str "ICMP") then icmpFlood platform targetIp duration
  else if attackType.equals (.str "SYN") then synFlood platform targetIp duration
  else if attackType.equals (.str "UDP") then udpFlood platform targetIp duration
  else pure false

/-- `start_server_on_port_delay_response`: a port that is served already gets the new
delays. -/
def startServerOnPortDelayResponse (platform : Platform)
    (port delayMinTime delayMaxTime : Int) : Effect String TaskController Json := do
  let socketServerMap := (← get).socketServerMap.getD Dict.empty
  modify fun controller => { controller with socketServerMap := some socketServerMap }
  match socketServerMap.get? port with
  | some _ => pure ()
  | none => Effect.ofExcept (platform.startServer port)
  modify fun controller => { controller with
    socketServerMap := some (socketServerMap.set port ⟨delayMinTime, delayMaxTime⟩) }
  modify (perform (.deception port delayMinTime delayMaxTime))
  return .str "success"

/-- `task_result['result']=result` and `task_result['status']='success'`. -/
def succeed (platform : Platform) (task result : Json) : Except String Json :=
  match task with
  | .obj fields =>
      .ok (.obj (Fields.set (Fields.set fields "result" result) "status" (.str "success")))
  | _ => .error (platform.text .typeError)

/-- The `host_scan` branch. -/
def hostScan (platform : Platform) (task : Json) : Effect String TaskController Json := do
  let targetIp ← Effect.ofExcept (platform.param task "target_ip")
  if targetIp.equals .null then return task
  else
    let result ← Effect.ofExcept (platform.startScan targetIp)
    modify (perform (.scan targetIp))
    Effect.ofExcept (succeed platform task result)

/-- The `host_attack` branch. -/
def hostAttack (platform : Platform) (task : Json) : Effect String TaskController Json := do
  let targetIp ← Effect.ofExcept (platform.param task "target_ip")
  if targetIp.equals .null then return task
  else
    let attackType ← Effect.ofExcept (platform.param task "attack_type")
    let duration ← Effect.ofExcept (platform.param task "duration")
    let duration ← Effect.ofExcept (platform.int duration)
    let result ← ddosAttack platform targetIp attackType duration
    Effect.ofExcept (succeed platform task (.bool result))

/-- The `host_deception` branch. What `int` returns is never `None`. -/
def hostDeception (platform : Platform) (task : Json) : Effect String TaskController Json := do
  let requestDelayMin ← Effect.ofExcept (platform.param task "request_delay_min")
  let requestDelayMin ← Effect.ofExcept (platform.int requestDelayMin)
  let requestDelayMax ← Effect.ofExcept (platform.param task "request_delay_max")
  let requestDelayMax ← Effect.ofExcept (platform.int requestDelayMax)
  let targetPort ← Effect.ofExcept (platform.param task "port")
  let targetPort ← Effect.ofExcept (platform.int targetPort)
  let result ← startServerOnPortDelayResponse platform targetPort requestDelayMin requestDelayMax
  Effect.ofExcept (succeed platform task result)

/-- `execute_task`. Where no branch returns, the function returns `None`. -/
def executeTask (platform : Platform) (task : Json) : Effect String TaskController Json := do
  let player ← Effect.ofExcept (platform.subscript task "player")
  if player.equals (.str "attacker") then
    let taskName ← Effect.ofExcept (platform.subscript task "task_name")
    if taskName.equals (.str "host_scan") then hostScan platform task
    else if taskName.equals (.str "host_attack") then hostAttack platform task
    else return .null
  else if player.equals (.str "defender") then
    let taskName ← Effect.ofExcept (platform.subscript task "task_name")
    if taskName.equals (.str "host_deception") then hostDeception platform task
    else return .null
  else return .null

/-- What `execute_task` returns, or the text of what it raises. -/
def outcome (platform : Platform) (task : Json) (controller : TaskController) :
    Except String Json :=
  match (executeTask platform task).run controller with
  | .ok processed _ => .ok processed
  | .error text _ => .error text

/-- The attack types there are, with their options. -/
def attackTypes : List (String × String) :=
  [("ICMP", "--icmp -q -i u500 "), ("SYN", "-S -q -i u500"), ("UDP", "-u -q -i u500")]

def FloodOptions (kind : Json) (options : String) : Prop :=
  ∃ name, kind = .str name ∧ Fields.get? attackTypes name = some options

/-- The task has the player and the name of an action. -/
def Asks (fields : JsonObject) (player taskName : String) : Prop :=
  Fields.get? fields "player" = some (.str player) ∧
    Fields.get? fields "task_name" = some (.str taskName)

/-- The task has parameters, this one among them. -/
def Gives (fields : JsonObject) (key : String) (value : Json) : Prop :=
  ∃ params : JsonObject, Fields.get? fields "params" = some (.obj params) ∧
    Fields.get? params key = some value

/-- The actions a task asks for. -/
inductive Requested (platform : Platform) (fields : JsonObject) : Action → Prop where
  | scan {target : Json} (asks : Asks fields "attacker" "host_scan")
      (gives : Gives fields "target_ip" target) : Requested platform fields (.scan target)
  | attack {target kind : Json} {duration packets : Int} {options : String} {given : Json}
      (asks : Asks fields "attacker" "host_attack") (gives : Gives fields "target_ip" target)
      (kinds : Gives fields "attack_type" kind) (supported : FloodOptions kind options)
      (lasts : Gives fields "duration" given) (converts : platform.int given = .ok duration)
      (counts : platform.totalPacketNum duration = .ok packets) :
      Requested platform fields (.command (floodCommand platform options packets target))
  | deception {low high port : Json} {delayMin delayMax targetPort : Int}
      (asks : Asks fields "defender" "host_deception")
      (lows : Gives fields "request_delay_min" low) (least : platform.int low = .ok delayMin)
      (highs : Gives fields "request_delay_max" high) (most : platform.int high = .ok delayMax)
      (ports : Gives fields "port" port) (converts : platform.int port = .ok targetPort) :
      Requested platform fields (.deception targetPort delayMin delayMax)

/-- The tasks that `execute_task` lets through without serving them. -/
inductive Unserved (platform : Platform) (fields : JsonObject) : Prop where
  /-- Of no known player. -/
  | player {player : Json} (asks : Fields.get? fields "player" = some player)
      (attacker : player ≠ .str "attacker") (defender : player ≠ .str "defender")
  /-- Of no task name of its player. -/
  | attackerTask {taskName : Json} (attacks : Fields.get? fields "player" = some (.str "attacker"))
      (asks : Fields.get? fields "task_name" = some taskName)
      (scan : taskName ≠ .str "host_scan") (attack : taskName ≠ .str "host_attack")
  | defenderTask {taskName : Json} (defends : Fields.get? fields "player" = some (.str "defender"))
      (asks : Fields.get? fields "task_name" = some taskName)
      (deception : taskName ≠ .str "host_deception")
  /-- A scan or an attack of a null target, unless the task came as failed. -/
  | target (asks : Asks fields "attacker" "host_scan" ∨ Asks fields "attacker" "host_attack")
      (gives : Gives fields "target_ip" .null)
      (status : Fields.get? fields "status" ≠ some (.str "error"))
  /-- An attack of no known type. -/
  | attackType {target kind given : Json} {duration : Int}
      (asks : Asks fields "attacker" "host_attack") (gives : Gives fields "target_ip" target)
      (present : target ≠ .null) (kinds : Gives fields "attack_type" kind)
      (unsupported : ∀ options, ¬ FloodOptions kind options)
      (lasts : Gives fields "duration" given) (converts : platform.int given = .ok duration)
  /-- An attack whose command cannot be started. -/
  | command {target kind given : Json} {duration packets : Int} {options text : String}
      (asks : Asks fields "attacker" "host_attack") (gives : Gives fields "target_ip" target)
      (present : target ≠ .null) (kinds : Gives fields "attack_type" kind)
      (supported : FloodOptions kind options)
      (lasts : Gives fields "duration" given) (converts : platform.int given = .ok duration)
      (counts : platform.totalPacketNum duration = .ok packets)
      (fails : platform.popen (floodCommand platform options packets target) = .error text)

/-- The attacks that report success and do nothing. -/
inductive Pretends (platform : Platform) (fields : JsonObject) : Prop where
  /-- One of no known type. -/
  | attackType {kind : Json} (asks : Asks fields "attacker" "host_attack")
      (kinds : Gives fields "attack_type" kind)
      (unsupported : ∀ options, ¬ FloodOptions kind options)
  /-- One whose command cannot be started. -/
  | command {target kind given : Json} {duration packets : Int} {options text : String}
      (asks : Asks fields "attacker" "host_attack") (gives : Gives fields "target_ip" target)
      (kinds : Gives fields "attack_type" kind) (supported : FloodOptions kind options)
      (lasts : Gives fields "duration" given) (converts : platform.int given = .ok duration)
      (counts : platform.totalPacketNum duration = .ok packets)
      (fails : platform.popen (floodCommand platform options packets target) = .error text)

/-- What a task with `result` and `status` written looks like. -/
def succeeded (fields : JsonObject) (result : Json) : JsonObject :=
  Fields.set (Fields.set fields "result" result) "status" (.str "success")

/-- What an execution comes to. -/
inductive Comes (platform : Platform) (fields : JsonObject) (controller : TaskController) :
    EStateM.Result String TaskController Json → Prop where
  | raised {text : String} {after : TaskController}
      (idle : after.performed = controller.performed) (served : ¬ Unserved platform fields) :
      Comes platform fields controller (.error text after)
  | nothing (unserved : Unserved platform fields) :
      Comes platform fields controller (.ok .null controller)
  | untouched (status : Unserved platform fields ↔
      Fields.get? fields "status" ≠ some (.str "error")) :
      Comes platform fields controller (.ok (.obj fields) controller)
  | pretended {result : Json} (pretends : Pretends platform fields)
      (unserved : Unserved platform fields) :
      Comes platform fields controller (.ok (.obj (succeeded fields result)) controller)
  | performed {result : Json} {after : TaskController} {action : Action}
      (requested : Requested platform fields action)
      (performs : after.performed = controller.performed ++ [action])
      (served : ¬ Unserved platform fields) :
      Comes platform fields controller (.ok (.obj (succeeded fields result)) after)

variable {platform : Platform} {fields : JsonObject} {controller : TaskController}

theorem subscript_eq_ok {key : String} {value : Json} :
    platform.subscript (.obj fields) key = .ok value ↔ Fields.get? fields key = some value := by
  cases found : Fields.get? fields key <;>
    simp [Platform.subscript, Json.subscript, found, Except.mapError]

/-- A parameter is read just if the task gives it. -/
theorem param_eq_ok {key : String} {value : Json} :
    platform.param (.obj fields) key = .ok value ↔ Gives fields key value := by
  constructor
  · intro returned
    obtain ⟨params, given, inside⟩ := ok_of_bind returned
    cases params with
    | obj params => exact ⟨params, subscript_eq_ok.mp given, subscript_eq_ok.mp inside⟩
    | _ => cases inside
  · rintro ⟨params, given, found⟩
    rw [Platform.param, subscript_eq_ok.mpr given]
    exact subscript_eq_ok.mpr found

/-- A read that an unserved task gets past may end the task. -/
theorem reads_comes {Value : Type} {read : Except String Value}
    {next : Value → Effect String TaskController Json}
    (needed : Unserved platform fields → ∃ value, read = .ok value)
    (continues : ∀ value, read = .ok value →
      Comes platform fields controller ((next value).run controller)) :
    Comes platform fields controller ((do
      let value ← Effect.ofExcept read
      next value).run controller) := by
  cases returned : read with
  | error text =>
      refine .raised rfl fun unserved => ?_
      obtain ⟨value, found⟩ := needed unserved
      rw [returned] at found
      cases found
  | ok value => exact continues value returned

theorem Gives.unique {key : String} {first second : Json} (gives : Gives fields key first)
    (again : Gives fields key second) : first = second := by
  obtain ⟨params, given, found⟩ := gives
  obtain ⟨others, given', found'⟩ := again
  rw [given] at given'
  cases given'
  exact Option.some.inj (found.symm.trans found')

theorem FloodOptions.unique {kind : Json} {first second : String}
    (options : FloodOptions kind first) (again : FloodOptions kind second) : first = second := by
  obtain ⟨name, rfl, found⟩ := options
  obtain ⟨other, same, found'⟩ := again
  cases same
  exact Option.some.inj (found.symm.trans found')

/-- A scan is unserved just if its target is null and it did not come as failed. -/
theorem unserved_scan_iff (asks : Asks fields "attacker" "host_scan") :
    Unserved platform fields ↔ Gives fields "target_ip" .null ∧
      Fields.get? fields "status" ≠ some (.str "error") := by
  obtain ⟨player, name⟩ := asks
  refine ⟨fun unserved => ?_, fun ⟨gives, status⟩ => .target (.inl ⟨player, name⟩) gives status⟩
  cases unserved with
  | target asks gives status => exact ⟨gives, status⟩
  | player => simp_all
  | attackerTask => simp_all
  | defenderTask => simp_all
  | attackType asks => simp_all [Asks]
  | command asks => simp_all [Asks]

theorem served_deception (asks : Asks fields "defender" "host_deception") :
    ¬ Unserved platform fields := by
  obtain ⟨player, name⟩ := asks
  intro unserved
  cases unserved with
  | target asks => simp_all [Asks]
  | player => simp_all
  | attackerTask => simp_all
  | defenderTask => simp_all
  | attackType asks => simp_all [Asks]
  | command asks => simp_all [Asks]

/-- An attack is unserved only if its target is null and it did not come as failed, or if it
gets to an unknown type, or to a command that cannot be started. -/
theorem unserved_attack (asks : Asks fields "attacker" "host_attack")
    (unserved : Unserved platform fields) :
    (Gives fields "target_ip" .null ∧ Fields.get? fields "status" ≠ some (.str "error")) ∨
    ∃ target kind given duration, Gives fields "target_ip" target ∧ target ≠ .null ∧
      Gives fields "attack_type" kind ∧ Gives fields "duration" given ∧
        platform.int given = .ok duration ∧ ∀ options, FloodOptions kind options →
          ∃ packets text, platform.totalPacketNum duration = .ok packets ∧
            platform.popen (floodCommand platform options packets target) = .error text := by
  obtain ⟨player, name⟩ := asks
  cases unserved with
  | target asks gives status => exact .inl ⟨gives, status⟩
  | player => simp_all
  | attackerTask => simp_all
  | defenderTask => simp_all
  | attackType _ gives present kinds unsupported lasts converts =>
      exact .inr ⟨_, _, _, _, gives, present, kinds, lasts, converts, fun options supported =>
        absurd supported (unsupported options)⟩
  | command _ gives present kinds supported lasts converts counts fails =>
      refine .inr ⟨_, _, _, _, gives, present, kinds, lasts, converts, fun options other => ?_⟩
      rw [other.unique supported]
      exact ⟨_, _, counts, fails⟩

/-- An attack type has its options, or the attack does nothing. -/
theorem ddosAttack_eq (platform : Platform) (target kind : Json) (duration : Int) :
    (∃ options, FloodOptions kind options ∧
      ddosAttack platform target kind duration = flood platform options target duration) ∨
    ((∀ options, ¬ FloodOptions kind options) ∧
      ddosAttack platform target kind duration = pure false) := by
  unfold ddosAttack
  by_cases icmp : kind.equals (.str "ICMP") = true
  · refine .inl ⟨_, ⟨"ICMP", (Json.equals_str_right _ _).mp icmp, rfl⟩, ?_⟩
    rw [if_pos icmp, icmpFlood]
  by_cases syn : kind.equals (.str "SYN") = true
  · refine .inl ⟨_, ⟨"SYN", (Json.equals_str_right _ _).mp syn, rfl⟩, ?_⟩
    rw [if_neg icmp, if_pos syn, synFlood]
  by_cases udp : kind.equals (.str "UDP") = true
  · refine .inl ⟨_, ⟨"UDP", (Json.equals_str_right _ _).mp udp, rfl⟩, ?_⟩
    rw [if_neg icmp, if_neg syn, if_pos udp, udpFlood]
  · refine .inr ⟨?_, by rw [if_neg icmp, if_neg syn, if_neg udp]⟩
    rintro options ⟨name, rfl, found⟩
    simp only [Json.equals_str_right, Json.str.injEq] at icmp syn udp
    have apart : Fields.get? attackTypes name = none := by
      simp [attackTypes, Fields.get?, Ne.symm icmp, Ne.symm syn, Ne.symm udp]
    rw [apart] at found
    cases found

/-- An attack raises where the packets cannot be counted, and else says it was carried out,
whether its command started or not. -/
theorem flood_run (platform : Platform) (options : String) (target : Json) (duration : Int)
    (controller : TaskController) :
    (∃ text, (flood platform options target duration).run controller = .error text controller ∧
      platform.totalPacketNum duration = .error text) ∨
    ∃ packets, platform.totalPacketNum duration = .ok packets ∧
      ((∃ text, platform.popen (floodCommand platform options packets target) = .error text ∧
        (flood platform options target duration).run controller = .ok true controller) ∨
      (∃ started, platform.popen (floodCommand platform options packets target) = .ok started ∧
        (flood platform options target duration).run controller = .ok true
          (controller.perform (.command (floodCommand platform options packets target))))) := by
  unfold flood executeCmdNowait
  cases counts : platform.totalPacketNum duration with
  | error text => exact .inl ⟨text, by simp, rfl⟩
  | ok packets =>
      refine .inr ⟨packets, rfl, ?_⟩
      cases starts : platform.popen (floodCommand platform options packets target) with
      | error text => exact .inl ⟨text, rfl, by simp [starts]⟩
      | ok started => exact .inr ⟨started, rfl, by simp [starts]⟩

theorem hostScan_comes (asks : Asks fields "attacker" "host_scan") :
    Comes platform fields controller ((hostScan platform (.obj fields)).run controller) := by
  unfold hostScan
  have inversion := fun unserved : Unserved platform fields =>
    (unserved_scan_iff asks).mp unserved
  refine reads_comes (fun unserved => ⟨_, param_eq_ok.mpr (inversion unserved).1⟩)
    fun target returned => ?_
  have gives := param_eq_ok.mp returned
  by_cases none : target = .null
  · subst none
    refine .untouched ((unserved_scan_iff asks).trans ?_)
    exact ⟨fun both => both.2, fun status => ⟨gives, status⟩⟩
  · rw [if_neg (mt (Json.equals_null target).mp none)]
    have served : ¬ Unserved platform fields := fun unserved =>
      none (gives.unique (inversion unserved).1)
    refine reads_comes (fun unserved => absurd unserved served) fun result _ => ?_
    exact .performed (.scan asks gives) rfl served

/-- Where the reads of an attack succeed, it comes down to the attack itself. -/
theorem attack_comes (asks : Asks fields "attacker" "host_attack") {target kind given : Json}
    {duration : Int} (gives : Gives fields "target_ip" target) (present : target ≠ .null)
    (kinds : Gives fields "attack_type" kind) (lasts : Gives fields "duration" given)
    (converts : platform.int given = .ok duration) :
    Comes platform fields controller ((do
      let result ← ddosAttack platform target kind duration
      Effect.ofExcept (succeed platform (.obj fields) (.bool result))).run controller) := by
  rcases ddosAttack_eq platform target kind duration with
    ⟨options, supported, attacks⟩ | ⟨unsupported, attacks⟩
  · rw [attacks, EStateM.run_bind]
    have starts : Unserved platform fields →
        ∃ packets text, platform.totalPacketNum duration = .ok packets ∧
          platform.popen (floodCommand platform options packets target) = .error text := by
      intro unserved
      obtain ⟨nulls, _⟩ | ⟨target', kind', given', duration', gives', _, kinds', lasts',
        converts', fails⟩ := unserved_attack asks unserved
      · exact absurd (gives.unique nulls) present
      · cases gives.unique gives'
        cases kinds.unique kinds'
        cases lasts.unique lasts'
        rw [converts] at converts'
        cases converts'
        exact fails options supported
    rcases flood_run platform options target duration controller with
      ⟨text, raises, uncounted⟩ |
      ⟨packets, counts, ⟨text, fails, returns⟩ | ⟨started, succeeds, returns⟩⟩
    · rw [raises]
      refine .raised rfl fun unserved => ?_
      obtain ⟨packets, _, counts, _⟩ := starts unserved
      rw [uncounted] at counts
      cases counts
    · rw [returns]
      exact .pretended (.command asks gives kinds supported lasts converts counts fails)
        (.command asks gives present kinds supported lasts converts counts fails)
    · rw [returns]
      refine .performed (.attack asks gives kinds supported lasts converts counts) rfl
        fun unserved => ?_
      obtain ⟨packets', text, counts', fails⟩ := starts unserved
      rw [counts] at counts'
      cases counts'
      rw [succeeds] at fails
      cases fails
  · rw [attacks]
    exact .pretended (.attackType asks kinds unsupported)
      (.attackType asks gives present kinds unsupported lasts converts)

theorem hostAttack_comes (asks : Asks fields "attacker" "host_attack") :
    Comes platform fields controller ((hostAttack platform (.obj fields)).run controller) := by
  unfold hostAttack
  have inversion := fun unserved : Unserved platform fields => unserved_attack asks unserved
  refine reads_comes (fun unserved => ?_) fun target returned => ?_
  · obtain ⟨nulls, _⟩ | ⟨target, _, _, _, gives, _⟩ := inversion unserved
    · exact ⟨_, param_eq_ok.mpr nulls⟩
    · exact ⟨_, param_eq_ok.mpr gives⟩
  have gives := param_eq_ok.mp returned
  by_cases none : target = .null
  · subst none
    refine .untouched ⟨fun unserved => ?_, fun status => .target (.inr asks) gives status⟩
    obtain ⟨_, status⟩ | ⟨target, _, _, _, again, present, _⟩ := inversion unserved
    · exact status
    · exact absurd (again.unique gives) present
  rw [if_neg (mt (Json.equals_null target).mp none)]
  -- What an unserved attack of a target has, and so what the other reads find.
  have reaches : Unserved platform fields → ∃ kind given duration,
      Gives fields "attack_type" kind ∧ Gives fields "duration" given ∧
        platform.int given = .ok duration := by
    intro unserved
    obtain ⟨nulls, _⟩ | ⟨_, kind, given, duration, _, _, kinds, lasts, converts, _⟩ :=
      inversion unserved
    · exact absurd (gives.unique nulls) none
    · exact ⟨kind, given, duration, kinds, lasts, converts⟩
  refine reads_comes (fun unserved => ?_) fun kind returned => ?_
  · obtain ⟨kind, _, _, kinds, _⟩ := reaches unserved
    exact ⟨kind, param_eq_ok.mpr kinds⟩
  have kinds := param_eq_ok.mp returned
  refine reads_comes (fun unserved => ?_) fun given returned => ?_
  · obtain ⟨_, given, _, _, lasts, _⟩ := reaches unserved
    exact ⟨given, param_eq_ok.mpr lasts⟩
  have lasts := param_eq_ok.mp returned
  refine reads_comes (fun unserved => ?_) fun duration converts => ?_
  · obtain ⟨_, given', duration, _, lasts', converts⟩ := reaches unserved
    exact ⟨duration, lasts.unique lasts' ▸ converts⟩
  exact attack_comes asks gives none kinds lasts converts

/-- A deception server is started or gets its delays, or the task raises. -/
theorem startServer_run (platform : Platform) (port delayMin delayMax : Int)
    (controller : TaskController) :
    (∃ text after, (startServerOnPortDelayResponse platform port delayMin delayMax).run controller =
      .error text after ∧ after.performed = controller.performed) ∨
    ∃ result after, (startServerOnPortDelayResponse platform port delayMin delayMax).run
      controller = .ok result after ∧
        after.performed = controller.performed ++ [.deception port delayMin delayMax] := by
  unfold startServerOnPortDelayResponse
  simp only [EStateM.run_bind, EStateM.run_get, EStateM.run_modify]
  cases (controller.socketServerMap.getD Dict.empty).get? port with
  | some delays => exact .inr ⟨_, _, rfl, rfl⟩
  | none =>
      cases platform.startServer port with
      | error text => exact .inl ⟨text, _, rfl, rfl⟩
      | ok started => exact .inr ⟨_, _, rfl, rfl⟩

theorem hostDeception_comes (asks : Asks fields "defender" "host_deception") :
    Comes platform fields controller ((hostDeception platform (.obj fields)).run controller) := by
  have served : ¬ Unserved platform fields := served_deception asks
  have reads : ∀ {Value : Type} {read : Except String Value}, Unserved platform fields →
      ∃ value, read = .ok value := fun unserved => absurd unserved served
  unfold hostDeception
  refine reads_comes reads fun low lows => ?_
  refine reads_comes reads fun delayMin least => ?_
  refine reads_comes reads fun high highs => ?_
  refine reads_comes reads fun delayMax most => ?_
  refine reads_comes reads fun port ports => ?_
  refine reads_comes reads fun targetPort converts => ?_
  rw [param_eq_ok] at lows highs ports
  rw [EStateM.run_bind]
  rcases startServer_run platform targetPort delayMin delayMax controller with
    ⟨text, after, raises, idle⟩ | ⟨result, after, starts, performs⟩
  · rw [raises]
    exact .raised idle served
  · rw [starts]
    exact .performed (.deception asks lows least highs most ports converts) performs served

/-- A task without a player, or of a known player without a name, raises. -/
theorem Unserved.named (unserved : Unserved platform fields) :
    Fields.get? fields "player" ≠ none ∧
      ((Fields.get? fields "player" = some (.str "attacker") ∨
        Fields.get? fields "player" = some (.str "defender")) →
          Fields.get? fields "task_name" ≠ none) := by
  cases unserved with
  | player asks attacker defender => simp [asks, attacker, defender]
  | attackerTask attacks asks => simp [attacks, asks]
  | defenderTask defends asks => simp [defends, asks]
  | target asks => rcases asks with ⟨player, name⟩ | ⟨player, name⟩ <;> simp [player, name]
  | attackType asks => simp [asks.1, asks.2]
  | command asks => simp [asks.1, asks.2]

/-- What an execution comes to, for every task. -/
theorem executeTask_comes (platform : Platform) (fields : JsonObject)
    (controller : TaskController) :
    Comes platform fields controller ((executeTask platform (.obj fields)).run controller) := by
  unfold executeTask
  refine reads_comes (fun unserved => ?_) fun player returned => ?_
  · obtain ⟨player, plays⟩ := Option.ne_none_iff_exists'.mp unserved.named.1
    exact ⟨player, subscript_eq_ok.mpr plays⟩
  have plays := subscript_eq_ok.mp returned
  have taskName (known : Fields.get? fields "player" = some (.str "attacker") ∨
      Fields.get? fields "player" = some (.str "defender")) (unserved : Unserved platform fields) :
      ∃ taskName, platform.subscript (.obj fields) "task_name" = .ok taskName := by
    obtain ⟨name, named⟩ := Option.ne_none_iff_exists'.mp (unserved.named.2 known)
    exact ⟨name, subscript_eq_ok.mpr named⟩
  by_cases attacker : player.equals (.str "attacker") = true
  · rw [if_pos attacker]
    rw [Json.equals_str_right] at attacker
    subst attacker
    refine reads_comes (taskName (.inl plays)) fun name returned => ?_
    have named := subscript_eq_ok.mp returned
    by_cases scan : name.equals (.str "host_scan") = true
    · rw [if_pos scan]
      rw [Json.equals_str_right] at scan
      exact hostScan_comes ⟨plays, scan ▸ named⟩
    rw [if_neg scan]
    by_cases attack : name.equals (.str "host_attack") = true
    · rw [if_pos attack]
      rw [Json.equals_str_right] at attack
      exact hostAttack_comes ⟨plays, attack ▸ named⟩
    · rw [if_neg attack]
      rw [Json.equals_str_right] at scan attack
      exact .nothing (.attackerTask plays named scan attack)
  rw [if_neg attacker]
  by_cases defender : player.equals (.str "defender") = true
  · rw [if_pos defender]
    rw [Json.equals_str_right] at defender
    subst defender
    refine reads_comes (taskName (.inr plays)) fun name returned => ?_
    have named := subscript_eq_ok.mp returned
    by_cases deception : name.equals (.str "host_deception") = true
    · rw [if_pos deception]
      rw [Json.equals_str_right] at deception
      exact hostDeception_comes ⟨plays, deception ▸ named⟩
    · rw [if_neg deception]
      rw [Json.equals_str_right] at deception
      exact .nothing (.defenderTask plays named deception)
  · rw [if_neg defender]
    rw [Json.equals_str_right] at attacker defender
    exact .nothing (.player plays attacker defender)

end TaskController

namespace Client

open TaskController

/-- The requested action was carried out between two states of the controller. -/
def CarriedOut (platform : Platform) (fields : JsonObject) (before after : TaskController) :
    Prop :=
  ∃ action, Requested platform fields action ∧ after.performed = before.performed ++ [action]

/-- One message was put into `taskResultQueue`. Its data is an object with the id of the task,
and its status tells whether the requested action was carried out. -/
def OneUsableResult (platform : Platform) (fields : JsonObject) (now : Nat)
    (controllers : TaskController × TaskController) (before after : Client) : Prop :=
  ∃ data : JsonObject,
    after.taskResultQueue =
      before.taskResultQueue ++ [⟨before.produced, taskResult (.obj data) now⟩] ∧
    Fields.get? data "task_id" = Fields.get? fields "task_id" ∧
    (CarriedOut platform fields controllers.1 controllers.2 →
      Fields.get? data "status" = some (.str "success")) ∧
    (¬ CarriedOut platform fields controllers.1 controllers.2 →
      Fields.get? data "status" = some (.str "error"))

variable {platform : Platform} {fields : JsonObject}

theorem not_carriedOut {before after : TaskController}
    (idle : after.performed = before.performed) : ¬ CarriedOut platform fields before after := by
  rintro ⟨action, _, performs⟩
  rw [idle] at performs
  simpa using congrArg List.length performs

/-- The result of a queue that got one message is usable just if its data are. -/
theorem oneUsableResult_iff {now : Nat} {controllers : TaskController × TaskController}
    {before after : Client} {data : Json}
    (queue : after.taskResultQueue =
      before.taskResultQueue ++ [⟨before.produced, taskResult data now⟩]) :
    OneUsableResult platform fields now controllers before after ↔
      ∃ object : JsonObject, data = .obj object ∧
        Fields.get? object "task_id" = Fields.get? fields "task_id" ∧
        (CarriedOut platform fields controllers.1 controllers.2 →
          Fields.get? object "status" = some (.str "success")) ∧
        (¬ CarriedOut platform fields controllers.1 controllers.2 →
          Fields.get? object "status" = some (.str "error")) := by
  refine exists_congr fun object => and_congr_left fun _ => ?_
  rw [queue]
  constructor
  · intro same
    simpa [taskResult] using same
  · rintro rfl
    rfl

/-- A received task gets one usable result just if it is none of those `execute_task` lets
through. -/
theorem usable_iff (codec : TextCodec) (platform : Platform) (fields : JsonObject) (now : Nat)
    (controller : TaskController) (client : Client) (gathering : client.running = .gathering)
    (executing : client.processing = .executing (.obj fields)) :
    OneUsableResult platform fields now
        (controller, (executeTask platform (.obj fields)).leaves controller) client
        (step codec client (.executed (outcome platform (.obj fields) controller) now)) ↔
      ¬ Unserved platform fields := by
  have finishes : step codec client (.executed (outcome platform (.obj fields) controller) now) =
      finishTask (.obj fields) (outcome platform (.obj fields) controller) now client := by
    simp only [step, if_pos gathering, advance, executing]
  rw [finishes]
  have comes := executeTask_comes platform fields controller
  unfold outcome Effect.leaves
  generalize (executeTask platform (.obj fields)).run controller = result at comes
  cases comes with
  | @raised text after idle served =>
      refine iff_of_true ((oneUsableResult_iff rfl).mpr ⟨_, rfl, ?_, ?_, ?_⟩) served
      · simp
      · exact fun carried => absurd carried (not_carriedOut idle)
      · simp
  | nothing unserved =>
      refine iff_of_false (fun usable => ?_) (not_not_intro unserved)
      obtain ⟨object, same, _⟩ := (oneUsableResult_iff rfl).mp usable
      cases same
  | untouched status =>
      rw [oneUsableResult_iff rfl, status, not_not]
      constructor
      · rintro ⟨object, same, _, _, failed⟩
        cases same
        exact failed (not_carriedOut rfl)
      · intro failed
        exact ⟨fields, rfl, rfl, fun carried => absurd carried (not_carriedOut rfl),
          fun _ => failed⟩
  | pretended _ unserved =>
      refine iff_of_false (fun usable => ?_) (not_not_intro unserved)
      obtain ⟨object, same, _, _, failed⟩ := (oneUsableResult_iff rfl).mp usable
      cases same
      simpa [succeeded] using failed (not_carriedOut rfl)
  | performed requested performs served =>
      refine iff_of_true ((oneUsableResult_iff rfl).mpr ⟨_, rfl, ?_, ?_, ?_⟩) served
      · simp [succeeded]
      · simp [succeeded]
      · exact fun idle => absurd ⟨_, requested, performs⟩ idle

/-- A platform on which every action succeeds. -/
def idealPlatform : Platform where
  text _ := ""
  format
    | .str text => text
    | _ => ""
  intOfText _ := .error "invalid literal for int()"
  totalPacketNum duration := .ok (2000 * duration)
  startScan _ := .ok (.arr [])
  popen _ := .ok ()
  startServer _ := .ok ()

/-- The client with a task it has received and taken. -/
def working (fields : JsonObject) : Client :=
  step plainCodec { connected with taskQueue := [.obj fields] } .taskTaken

def idleController : TaskController := ⟨none, []⟩

def scanTask : JsonObject :=
  [("task_id", .number 7), ("player", .str "attacker"), ("task_name", .str "host_scan"),
    ("params", .obj [("target_ip", .str "10.0.0.2")])]

theorem scan_usable :
    OneUsableResult idealPlatform scanTask 60
      (idleController, (executeTask idealPlatform (.obj scanTask)).leaves idleController)
      (working scanTask) (step plainCodec (working scanTask)
        (.executed (outcome idealPlatform (.obj scanTask) idleController) 60)) := by
  refine (usable_iff plainCodec idealPlatform scanTask 60 idleController _ rfl rfl).mpr ?_
  rw [unserved_scan_iff ⟨rfl, rfl⟩]
  rintro ⟨⟨params, given, found⟩, _⟩
  cases given
  cases found

/-- An attack of a type there is not. -/
def unknownAttack : JsonObject :=
  [("task_id", .number 7), ("player", .str "attacker"), ("task_name", .str "host_attack"),
    ("params", .obj [("target_ip", .str "10.0.0.2"), ("attack_type", .str "HTTP"),
      ("duration", .number 10)])]

/-- Nothing was carried out, and the result says `success`. -/
theorem unknownAttack_succeeds :
    ¬ OneUsableResult idealPlatform unknownAttack 60
      (idleController, (executeTask idealPlatform (.obj unknownAttack)).leaves idleController)
      (working unknownAttack) (step plainCodec (working unknownAttack)
        (.executed (outcome idealPlatform (.obj unknownAttack) idleController) 60)) := by
  intro usable
  obtain ⟨object, same, _, _, failed⟩ := (oneUsableResult_iff rfl).mp usable
  have done : Json.obj (succeeded unknownAttack (.bool false)) = .obj object := same
  cases done
  simpa [succeeded] using failed (not_carriedOut rfl)

end Client
end NetworkAdapter
