import NetworkAdapter.System.Custody

/-!
# A task is executed at most once

Between `create_task` and `execute_task` a task passes two queues, two coroutines and a
connection that may go down at any moment, with bytes of the task on their way. Whatever
happens, a client executes only tasks that were created for it, each at most as often as it
was created or put back after a failed send, and in the order of their creation where no
send has failed.
-/

namespace NetworkAdapter

/-- `task_data['task_id']`, when it is a text. -/
def Json.taskId? : Json → Option String
  | .obj fields =>
      match Fields.get? fields "task_id" with
      | some (.str taskId) => some taskId
      | _ => none
  | _ => none

/-- A host task of this id for this client. -/
def QueuedTask.isFor (clientIp taskId : String) (task : QueuedTask) : Bool :=
  decide (task.forSwitch = false ∧ task.clientIp? = some clientIp ∧ task.taskId = taskId)

namespace Pipeline

open Execution

/-- The executions of a task that a client has begun, the one it is at included. -/
def begun (clientIp taskId : String) (pipeline : Pipeline) : Nat :=
  (pipeline.executed.countP fun execution =>
      execution.client = clientIp ∧ execution.task.taskId? = some taskId) +
    (pipeline.clients clientIp).inHand.toList.countP fun task => task.taskId? = some taskId

/-- What clients execute: only what was created for them, nothing more often than it was
created or put back, and, if nothing was put back, in the order of its creation. -/
structure AtMostOnce (pipeline : Pipeline) : Prop where
  own : ∀ execution ∈ pipeline.executed, ∃ task ∈ pipeline.server.enqueued,
    execution.task = .obj task.data ∧ task.forSwitch = false ∧
      task.clientIp? = some execution.client
  few : ∀ clientIp taskId, pipeline.begun clientIp taskId ≤
    (pipeline.server.enqueued ++ pipeline.returned).countP (QueuedTask.isFor clientIp taskId)
  inOrder : pipeline.returned = [] → ∀ clientIp,
    ((pipeline.executed.filter (·.client = clientIp)).map Execution.task).Sublist
      ((pipeline.server.enqueued.filter fun task =>
        decide (task.forSwitch = false ∧ task.clientIp? = some clientIp)).map
          fun task => .obj task.data)

variable {json : JsonText} {pipeline : Pipeline}

theorem carryToClient_sent (lines : List Written) (pipeline : Pipeline) :
    pipeline.sent ⊆ (lines.foldl (carryToClient json) pipeline).sent := by
  induction lines generalizing pipeline with
  | nil => exact List.Subset.refl _
  | cons line rest inductionHypothesis =>
      refine List.Subset.trans ?_ (inductionHypothesis _)
      unfold carryToClient
      split
      · exact List.subset_append_left _ _
      · exact List.Subset.refl _

theorem carryToServer_sent (clientIp : String) (lines : List SentLine) (pipeline : Pipeline) :
    pipeline.sent ⊆ (lines.foldl (carryToServer json clientIp) pipeline).sent := by
  induction lines generalizing pipeline with
  | nil => exact List.Subset.refl _
  | cons line rest inductionHypothesis =>
      exact List.Subset.trans (List.subset_append_left _ _)
        (inductionHypothesis (carryToServer json clientIp pipeline line))

/-- What was sent stays recorded. -/
theorem step_sent (pipeline : Pipeline) (event : Event) :
    pipeline.sent ⊆ (step json pipeline event).sent := by
  have server (event : ClientConnectServer.Event) (before : Pipeline)
      (same : before.sent = pipeline.sent) : pipeline.sent ⊆ (serverStep json event before).sent :=
    same ▸ carryToClient_sent _
      { before with server := ClientConnectServer.step json.codec before.server event }
  have client (clientIp : String) (event : Client.Event) (before : Pipeline)
      (same : before.sent = pipeline.sent) :
      pipeline.sent ⊆ (clientStep json clientIp event before).sent :=
    same ▸ carryToServer_sent clientIp _ { before with
      clients := Function.update before.clients clientIp
        (Client.step json.codec (before.clients clientIp) event) }
  cases event with
  | created => exact server _ _ rfl
  | distributed => exact server _ _ rfl
  | drained result =>
      simp only [step]
      split <;> exact server _ _ rfl
  | accepted =>
      simp only [step]
      split
      · exact server _ _ rfl
      · exact List.Subset.refl _
  | serverRead =>
      simp only [step]
      split
      · split
        · split
          · exact server _ _ rfl
          · exact List.Subset.refl _
        · exact List.Subset.refl _
      · exact List.Subset.refl _
  | serverClosing => exact server _ _ rfl
  | client =>
      simp only [step]
      split
      · exact List.Subset.refl _
      · exact List.Subset.refl _
      · exact client _ _ _ rfl
  | clientRead =>
      simp only [step]
      split
      · split
        · exact client _ _ _ rfl
        · exact List.Subset.refl _
      · exact List.Subset.refl _
  | executed =>
      simp only [step]
      split
      · exact client _ _ _ rfl
      · exact List.Subset.refl _
  | _ => exact List.Subset.refl _

theorem run_sent (pipeline : Pipeline) (events : List Event) :
    pipeline.sent ⊆ (run (step json) pipeline events).sent := by
  induction events generalizing pipeline with
  | nil => exact List.Subset.refl _
  | cons event rest inductionHypothesis =>
      exact List.Subset.trans (step_sent pipeline event) (inductionHypothesis _)

/-- The connections are as both sides believe and custody is sound. -/
def Orderly (json : JsonText) (pipeline : Pipeline) : Prop :=
  Connected json pipeline ∧ Custody.Sound Json.addressee pipeline.custody

theorem init_orderly (table : Table) (controllers : String → TaskController) :
    Orderly json (init table controllers) := by
  refine ⟨⟨fun _ _ => Pipe.empty_flows, fun _ _ => Pipe.empty_flows, ?_, ?_, rfl, List.nodup_nil,
    ?_, ?_, ?_, ?_, fun _ _ _ => rfl⟩, ⟨?_, ?_, ?_, ?_, ?_⟩⟩
  · exact fun _ _ => List.Subset.refl _
  · exact fun _ _ => List.Subset.refl _
  · exact ClientConnectServer.init_ordered table
  · exact ClientConnectServer.init_entriesOwned table
  · exact fun _ _ member => absurd member List.not_mem_nil
  · exact fun _ _ reads => nomatch reads
  · exact fun task member => absurd member List.not_mem_nil
  · exact fun task member => absurd member List.not_mem_nil
  · exact fun party task member => absurd member List.not_mem_nil
  · exact fun party chosen => Nat.le_refl _
  · exact fun _ party => List.Sublist.refl _

/-- Trust in all that is sent in a run keeps all of it orderly. -/
theorem run_orderly (rejects : json.RejectsEmpty) {pipeline : Pipeline}
    (orderly : Orderly json pipeline) {events : List Event}
    (trusted : Trusted json (run (step json) pipeline events)) :
    Orderly json (run (step json) pipeline events) := by
  induction events generalizing pipeline with
  | nil => exact orderly
  | cons event rest inductionHypothesis =>
      have now : Trusted json pipeline := fun message member =>
        trusted message (run_sent pipeline (event :: rest) member)
      have advances := step_advances orderly.1 now rejects event
      obtain ⟨move, proper, moved, _⟩ := advances.moves
      exact inductionHypothesis ⟨advances.connected, moved ▸ orderly.2.step proper⟩ trusted

/-- An id and an addressee are read off the data of a task. -/
theorem theirs_data (clientIp taskId : String) (task : QueuedTask) :
    Custody.theirs Json.addressee clientIp (fun data => decide (data.taskId? = some taskId))
      (.obj task.data) = task.isFor clientIp taskId := by
  have identified : (Json.obj task.data).taskId? = some task.taskId := by
    simp [Json.taskId?, task.identified]
  rw [Custody.theirs, QueuedTask.addressee_data, identified, QueuedTask.isFor]
  cases task.forSwitch <;> simp

/-- A task of the server has its client for addressee. -/
theorem addressee_eq_some {task : QueuedTask} {clientIp : String} :
    (Json.obj task.data).addressee = some clientIp ↔
      task.forSwitch = false ∧ task.clientIp? = some clientIp := by
  rw [QueuedTask.addressee_data]
  cases task.forSwitch <;> simp

/-- The tasks a client has done are the ones it has executed. -/
theorem done_eq (clientIp : String) (pipeline : Pipeline) :
    (pipeline.custody.done.filter (·.1 = clientIp)).map Prod.snd =
      (pipeline.executed.filter (·.client = clientIp)).map Execution.task := by
  simp [custody, List.filter_map, Function.comp_def]

theorem begun_le (clientIp taskId : String) (pipeline : Pipeline) :
    pipeline.begun clientIp taskId ≤
      (pipeline.custody.has clientIp).countP fun data => decide (data.taskId? = some taskId) := by
  have executed : (pipeline.executed.countP fun execution =>
        execution.client = clientIp ∧ execution.task.taskId? = some taskId) =
      ((pipeline.executed.filter (·.client = clientIp)).map Execution.task).countP
        fun data => decide (data.taskId? = some taskId) := by
    rw [List.countP_map, List.countP_filter]
    refine List.countP_congr fun execution _ => ?_
    simp [and_comm]
  rw [Custody.has, done_eq]
  simp only [List.countP_append]
  simp only [begun, executed, custody]
  omega

theorem Orderly.atMostOnce (orderly : Orderly json pipeline) : AtMostOnce pipeline where
  own execution member := by
    have has : execution.task ∈ pipeline.custody.has execution.client := by
      have own : execution ∈ pipeline.executed.filter (·.client = execution.client) :=
        List.mem_filter.mpr ⟨member, by simp⟩
      rw [Custody.has, done_eq]
      simp only [List.mem_append]
      exact .inl (.inl (.inl (List.mem_map_of_mem own)))
    obtain ⟨created, whose⟩ := orderly.2.own execution.client execution.task has
    obtain ⟨task, enqueued, same⟩ := List.mem_map.mp created
    rw [← same, addressee_eq_some] at whose
    exact ⟨task, enqueued, same.symm, whose⟩
  few clientIp taskId := by
    have few := orderly.2.few clientIp fun data => decide (data.taskId? = some taskId)
    have bound := begun_le clientIp taskId pipeline
    have recorded : (pipeline.custody.created ++ pipeline.custody.returned).countP
        (Custody.theirs Json.addressee clientIp fun data => decide (data.taskId? = some taskId)) =
          (pipeline.server.enqueued ++ pipeline.returned).countP
            (QueuedTask.isFor clientIp taskId) := by
      simp [custody, List.countP_append, List.countP_map, Function.comp_def, theirs_data]
    omega
  inOrder none clientIp := by
    have order := orderly.2.inOrder (by simp [custody, none]) clientIp
    have created : Custody.addressed Json.addressee clientIp pipeline.custody.created =
        (pipeline.server.enqueued.filter fun task =>
          decide (task.forSwitch = false ∧ task.clientIp? = some clientIp)).map
            fun task => .obj task.data := by
      simp [Custody.addressed, custody, List.filter_map, Function.comp_def, addressee_eq_some]
    rw [created, Custody.has, done_eq] at order
    simp only [List.append_assoc] at order
    exact (List.sublist_append_left _ _).trans order

/-- However messages arrive and whenever connections go down, from the start on clients execute
their tasks at most once. -/
theorem tasks_executed_at_most_once (rejects : json.RejectsEmpty) (table : Table)
    (controllers : String → TaskController) (events : List Event)
    (trusted : Trusted json (run (step json) (init table controllers) events)) :
    AtMostOnce (run (step json) (init table controllers) events) :=
  (run_orderly rejects (init_orderly table controllers) trusted).atMostOnce

/-- A scan that is asked of host "a". -/
def scan : JsonObject :=
  [("player", .str "attacker"), ("task_name", .str "host_scan"), ("client_ip", .str "a"),
    ("params", .obj [("target_ip", .str "b")])]

/-- It is created under the id "t". -/
def createdScan : JsonObject := ClientConnectServer.createdData scan "t"

/-- The message that is sent to the client, and its text. -/
def scanTask : JsonObject := [("data", .obj createdScan), ("type", .str "task")]
def scanTaskFields : String :=
  "\"data\": \x7b\"player\": \"attacker\", \"task_name\": \"host_scan\", " ++
    "\"client_ip\": \"a\", \"params\": \x7b\"target_ip\": \"b\"\x7d, " ++
      "\"task_id\": \"t\", \"status\": \"running\"\x7d, \"type\": \"task\""
def scanTaskText : String := "\x7b" ++ scanTaskFields ++ "\x7d"

/-- The message that comes back from a scan that finds nothing, and its text. -/
def scanResult : JsonObject :=
  [("type", .str "task_result"),
    ("data", .obj (TaskController.succeeded createdScan (.arr []))), ("timestamp", .number 60)]
def scanResultFields : String :=
  "\"type\": \"task_result\", \"data\": \x7b\"player\": \"attacker\", " ++
    "\"task_name\": \"host_scan\", \"client_ip\": \"a\", " ++
      "\"params\": \x7b\"target_ip\": \"b\"\x7d, \"task_id\": \"t\", \"status\": \"success\", " ++
        "\"result\": []\x7d, \"timestamp\": 60"
def scanResultText : String := "\x7b" ++ scanResultFields ++ "\x7d"

/-- The library on these messages. -/
def scanJson : JsonText where
  dumps
    | .obj (("data", _) :: _) => scanTaskText
    | _ => scanResultText
  loads text :=
    if text = scanTaskText then .ok (.obj scanTask)
    else if text = scanResultText then .ok (.obj scanResult)
    else .error .jsonDecodeError

theorem scanJson_loads (text : String) (message : Json)
    (loads : scanJson.loads text = .ok message) : text ∈ [scanTaskText, scanResultText] := by
  simp only [scanJson] at loads
  split at loads
  · next same => simp [same]
  · split at loads
    · next same => simp [same]
    · cases loads

theorem scanTask_whole : scanJson.Whole (.obj scanTask) := by
  refine .of_texts [scanTaskText, scanResultText] ⟨by simp [scanJson, scanTask],
    ⟨scanTaskFields, rfl⟩, ?_, ?_⟩ scanJson_loads ?_
  · decide +kernel
  · decide +kernel
  · decide +kernel

theorem scanResult_whole : scanJson.Whole (.obj scanResult) := by
  have apart : scanResultText ≠ scanTaskText := by decide
  refine .of_texts [scanTaskText, scanResultText]
    ⟨by simp [scanJson, scanResult, apart], ⟨scanResultFields, rfl⟩, ?_, ?_⟩ scanJson_loads ?_
  · decide +kernel
  · decide +kernel
  · decide +kernel

theorem scanJson_rejectsEmpty : scanJson.RejectsEmpty := ⟨.jsonDecodeError, by rfl⟩

/-- The client connects. -/
def connects : List Event := [.client "a" (.attempted .run true), .accepted "a" 0 40000 1]

/-- The drain of the task times out although its line gets through, and it is sent again. -/
def retried : List Event :=
  [.created scan "t" true, .distributed 2 true, .drained (.error .timeoutError),
    .distributed 3 true, .drained (.ok ()), .arrivedAtClient "a" 0 400, .clientRead "a",
    .clientRead "a", .client "a" .taskTaken, .executed "a" Client.idealPlatform 60,
    .client "a" .taskTaken, .executed "a" Client.idealPlatform 60]

set_option maxRecDepth 100000 in
/-- The scan is executed twice, as often as it was enqueued. -/
theorem retried_scan_executed_twice :
    let pipeline := run (step scanJson) (init [] fun _ => Client.idleController)
      (connects ++ retried)
    AtMostOnce pipeline ∧ pipeline.begun "a" "t" = 2 := by
  intro pipeline
  have evaluated : (pipeline.sent, pipeline.begun "a" "t") =
      ([.obj scanTask, .obj scanTask], 2) := by rfl
  obtain ⟨sent, begun⟩ := Prod.mk.inj evaluated
  have trusted : Trusted scanJson pipeline := by
    intro message member
    rw [sent] at member
    simp only [List.mem_cons, List.not_mem_nil, or_false, or_self] at member
    exact member ▸ scanTask_whole
  exact ⟨tasks_executed_at_most_once scanJson_rejectsEmpty [] _ (connects ++ retried) trusted,
    begun⟩

end Pipeline
end NetworkAdapter
