import NetworkAdapter.System.Settlement

/-!
# A task of a served client is executed once and its outcome filed

From the moment a client is served, and as long as nothing disturbs its connection, every task
that is created for it is executed exactly once, by this client, and what came of it is in the
table under the id of the task as soon as nothing of the client is under way any more.
-/

namespace NetworkAdapter.Pipeline

open Execution

variable {json : JsonText} {pipeline : Pipeline} {clientIp taskId : String}
  {connection number : Nat}

/-- What holds of a task of a served client all along a calm run. -/
structure Completing (json : JsonText) (clientIp : String) (connection number : Nat)
    (taskId : String) (pipeline : Pipeline) : Prop where
  orderly : Orderly json pipeline
  reported : Reported pipeline
  served : Served clientIp connection number pipeline
  unreturned : ∀ task ∈ pipeline.returned, task.taskId ≠ taskId
  complete : Custody.Complete Json.addressee clientIp
    (fun data => decide (data.taskId? = some taskId)) pipeline.custody
  settled : Settled clientIp connection taskId pipeline

/-- Only a failed drain puts a task back. -/
theorem step_returned (json : JsonText) (pipeline : Pipeline) (event : Event) :
    (step json pipeline event).returned = pipeline.returned ∨
      ∃ task error, event = .drained (.error error) ∧
        pipeline.server.distributor = .draining task ∧
          (step json pipeline event).returned = pipeline.returned ++ [task] := by
  have server (event : ClientConnectServer.Event) (before : Pipeline) :
      (serverStep json event before).returned = before.returned := by
    rw [serverStep_eq]
  cases event with
  | created => exact .inl (server _ _)
  | distributed => exact .inl (server _ _)
  | serverClosing => exact .inl (server _ _)
  | drained result =>
      simp only [step]
      split
      · next task error draining => exact .inr ⟨task, error, rfl, draining, rfl⟩
      · exact .inl (server _ _)
  | accepted =>
      simp only [step]
      split
      · exact .inl (server _ _)
      · exact .inl rfl
  | serverRead =>
      simp only [step]
      split
      · split
        · split
          · exact .inl (server _ _)
          · exact .inl rfl
        · exact .inl rfl
      · exact .inl rfl
  | client =>
      simp only [step]
      split
      · exact .inl rfl
      · exact .inl rfl
      · exact .inl (clientStep_returned _ _ _)
  | clientRead =>
      simp only [step]
      split
      · split
        · exact .inl (clientStep_returned _ _ _)
        · exact .inl rfl
      · exact .inl rfl
  | executed =>
      simp only [step]
      split
      · exact .inl (clientStep_returned _ _ _)
      · exact .inl rfl
  | _ => exact .inl rfl

/-- The step lemma. -/
theorem Completing.step (completing : Completing json clientIp connection number taskId pipeline)
    (promised : Promised json clientIp taskId pipeline) (rejects : json.RejectsEmpty)
    {event : Event} (calm : Calm clientIp connection number pipeline event) :
    Completing json clientIp connection number taskId (step json pipeline event) := by
  obtain ⟨orderly, reported, served, unreturned, complete, settled⟩ := completing
  have advances := step_advances orderly.1 promised.trusted rejects event
  have after := served.step orderly reported promised.trusted rejects promised.actionable calm
  obtain ⟨move, proper, moved, keeps⟩ := advances.moves
  refine ⟨⟨advances.connected, moved ▸ orderly.2.step proper⟩, reported.step event, after, ?_,
    ?_, settled.step served orderly reported promised rejects unreturned calm⟩
  · intro task member
    rcases step_returned json pipeline event with same | ⟨drained, error, rfl, draining, added⟩
    · exact unreturned task (same ▸ member)
    · rw [added] at member
      rcases List.mem_append.mp member with earlier | new
      · exact unreturned task earlier
      · obtain rfl := List.mem_singleton.mp new
        intro same
        have enqueued := (orderly.1.ordered.held task draining).1
        exact calm task draining (promised.own task enqueued same).2
  · rw [moved]
    exact complete.step proper (keeps clientIp connection served.linked after.attending.reader)

/-- The run lemma. -/
theorem run_completing (rejects : json.RejectsEmpty) {pipeline : Pipeline}
    (completing : Completing json clientIp connection number taskId pipeline) {events : List Event}
    (calm : Each (step json) (Calm clientIp connection number) pipeline events)
    (promised : Promised json clientIp taskId (run (step json) pipeline events)) :
    Completing json clientIp connection number taskId (run (step json) pipeline events) := by
  induction events generalizing pipeline with
  | nil => exact completing
  | cons event rest inductionHypothesis =>
      have now : Promised json clientIp taskId pipeline :=
        Promised.before (event :: rest) promised
      exact inductionHypothesis (completing.step now rejects calm.1) calm.2 promised

/-- A task that has not been created yet is completed as far as it exists. -/
theorem Served.completing (served : Served clientIp connection number pipeline)
    (orderly : Orderly json pipeline) (reported : Reported pipeline)
    (fresh : ∀ task ∈ pipeline.server.enqueued, task.taskId ≠ taskId) :
    Completing json clientIp connection number taskId pipeline := by
  refine ⟨orderly, reported, served, fun task member same => ?_, ?_,
    fun execution member record outcome => ?_⟩
  · have created : .obj task.data ∈ pipeline.custody.created :=
      orderly.2.returned _ (List.mem_map_of_mem member)
    obtain ⟨other, enqueued, data⟩ := List.mem_map.mp created
    refine fresh other enqueued (same ▸ ?_)
    have named := other.identified
    rw [Json.obj.inj data, task.identified] at named
    exact (Json.str.inj (Option.some.inj named)).symm
  · refine orderly.2.complete fun data created => ?_
    obtain ⟨task, enqueued, rfl⟩ := List.mem_map.mp created
    rw [theirs_data]
    simp [QueuedTask.isFor, fresh task enqueued]
  · obtain ⟨task, enqueued, data, _⟩ := orderly.atMostOnce.own execution member
    refine absurd ?_ (fresh task enqueued)
    simpa [data, Json.taskId?, task.identified] using outcome.named

/-- Nothing of the client is under way: no task of it is queued, both streams are read, and it
has nothing to do and nothing to send. -/
structure AtRest (clientIp : String) (connection : Nat) (pipeline : Pipeline) : Prop where
  unqueued : ∀ task ∈ pipeline.server.taskQueue, task.forSwitch = false →
    task.clientIp? ≠ some clientIp
  down : (pipeline.toClient clientIp connection).inFlight = [] ∧
    (pipeline.toClient clientIp connection).buffer = []
  up : (pipeline.toServer clientIp connection).inFlight = [] ∧
    (pipeline.toServer clientIp connection).buffer = []
  idle : (pipeline.clients clientIp).inHand = none
  waiting : (pipeline.clients clientIp).taskQueue = []
  sent : (pipeline.clients clientIp).taskResultQueue = []

theorem stream_eq_nil {messages : List Json} (empty : Pipe.stream json messages = []) :
    messages = [] := by
  cases messages with
  | nil => rfl
  | cons message rest => simp [Pipe.stream, Lines.stream] at empty

/-- At rest nothing is on its way, and nothing is owed. -/
theorem AtRest.unread (atRest : AtRest clientIp connection pipeline)
    (served : Served clientIp connection number pipeline) (orderly : Orderly json pipeline) :
    pipeline.unread clientIp = [] ∧ pipeline.owed clientIp connection = [] := by
  have down := (orderly.1.down clientIp connection).whole served.down
  have up := (orderly.1.up clientIp connection).whole served.up
  rw [atRest.down.1, atRest.down.2] at down
  rw [atRest.up.1, atRest.up.2] at up
  constructor
  · rw [Pipeline.unread, served.attending.reader]
    exact stream_eq_nil down.symm
  · rw [owed, stream_eq_nil up.symm, atRest.sent]
    rfl

/-- At rest the task has been executed exactly once. -/
theorem Completing.executed_once
    (completing : Completing json clientIp connection number taskId pipeline)
    (promised : Promised json clientIp taskId pipeline)
    (atRest : AtRest clientIp connection pipeline)
    (created : ∃ task ∈ pipeline.server.enqueued, task.taskId = taskId) :
    (pipeline.executed.countP fun execution => execution.task.taskId? = some taskId) = 1 := by
  obtain ⟨orderly, _, served, unreturned, complete, _⟩ := completing
  have done := complete.done (by
      refine List.filter_eq_nil_iff.mpr fun data queued => ?_
      obtain ⟨task, member, rfl⟩ := List.mem_map.mp queued
      rw [decide_eq_true_eq, addressee_eq_some]
      exact fun whose => atRest.unqueued task member whose.1 whose.2)
    (by simp [custody, (atRest.unread served orderly).1]) atRest.waiting atRest.idle
  have none : pipeline.returned.countP (QueuedTask.isFor clientIp taskId) = 0 := by
    rw [List.countP_eq_zero]
    intro task returned counts
    simp only [QueuedTask.isFor, decide_eq_true_eq] at counts
    exact unreturned task returned counts.2.2
  have one : pipeline.server.enqueued.countP (QueuedTask.isFor clientIp taskId) = 1 := by
    have same : pipeline.server.enqueued.countP (QueuedTask.isFor clientIp taskId) =
        pipeline.server.enqueued.countP fun task => task.taskId = taskId := by
      refine List.countP_congr fun task member => ?_
      simp only [QueuedTask.isFor, decide_eq_true_eq]
      exact ⟨fun whose => whose.2.2, fun named =>
        ⟨(promised.own task member named).1, (promised.own task member named).2, named⟩⟩
    have some : 0 < pipeline.server.enqueued.countP fun task => task.taskId = taskId := by
      simpa using created
    have single := promised.single
    omega
  have recorded : (pipeline.custody.created ++ pipeline.custody.returned).countP
      (Custody.theirs Json.addressee clientIp fun data => decide (data.taskId? = some taskId)) =
        1 := by
    simp [custody, List.countP_append, List.countP_map, Function.comp_def, theirs_data, none, one]
  rw [recorded, done_eq, List.countP_map, List.countP_filter] at done
  rw [← done]
  refine List.countP_congr fun execution member => ?_
  simp only [Function.comp_apply, Bool.and_eq_true, decide_eq_true_eq]
  exact ⟨fun named => ⟨named, orderly.ownId promised.own member named⟩, fun both => both.1⟩

/-- Once a client is served and nothing disturbs it, a task created for it from then on under an
id of its own has, when nothing of the client is under way, been executed exactly once, by this
client, and the report of this one execution is in the table under the id. -/
theorem tasks_completed_exactly_once (rejects : json.RejectsEmpty) (table : Table)
    (controllers : String → TaskController) (boot events : List Event) {booted final : Pipeline}
    (boots : run (step json) (init table controllers) boot = booted)
    (runs : run (step json) booted events = final) (trusted : Trusted json final)
    (served : Served clientIp connection number booted)
    (calm : Each (step json) (Calm clientIp connection number) booted events)
    (actionable : Actionable clientIp final) (atRest : AtRest clientIp connection final)
    {task : QueuedTask} (created : task ∈ final.server.enqueued)
    (forHost : task.forSwitch = false) (addressed : task.clientIp? = some clientIp)
    (fresh : ∀ other ∈ booted.server.enqueued, other.taskId ≠ task.taskId)
    (single : (final.server.enqueued.countP fun other => other.taskId = task.taskId) ≤ 1) :
    ∃ execution record,
      (final.executed.filter fun other => other.task.taskId? = some task.taskId) = [execution] ∧
      execution.client = clientIp ∧ execution.task = .obj task.data ∧
      execution.report = some (.obj record) ∧
      final.server.operationTaskData.Files task.taskId record := by
  have sameTask (other : QueuedTask) (member : other ∈ final.server.enqueued)
      (same : other.taskId = task.taskId) : other = task :=
    Occurrences.eq_of_countP_le_one single member created (by simpa using same) (by simp)
  have promised : Promised json clientIp task.taskId final :=
    ⟨trusted, actionable, fun other member same => by
      rw [sameTask other member same]
      exact ⟨forHost, addressed⟩, single⟩
  have completing : Completing json clientIp connection number task.taskId final := by
    have later : Trusted json booted := fun message member =>
      trusted message (runs ▸ run_sent booted events member)
    have orderly : Orderly json booted := by
      rw [← boots] at later ⊢
      exact run_orderly rejects (init_orderly table controllers) later
    have reported : Reported booted :=
      boots ▸ run_invariant Reported (fun _ event known => known.step event)
        (init_reported table controllers) boot
    rw [← runs] at promised ⊢
    exact run_completing rejects (served.completing orderly reported fresh) calm promised
  have once := completing.executed_once promised atRest ⟨task, created, rfl⟩
  rw [List.countP_eq_length_filter, List.length_eq_one_iff] at once
  obtain ⟨execution, only⟩ := once
  obtain ⟨member, named⟩ : execution ∈ final.executed ∧
      execution.task.taskId? = some task.taskId := by
    have among : execution ∈ final.executed.filter fun other =>
        other.task.taskId? = some task.taskId := only ▸ List.mem_singleton_self _
    simpa using List.mem_filter.mp among
  have whose := completing.orderly.ownId promised.own member named
  obtain ⟨own, enqueued, data, record, reports, sameId⟩ :=
    completing.orderly.reports completing.reported promised.actionable member whose
  obtain rfl : own = task := by
    refine sameTask own enqueued ?_
    simpa [data, Json.taskId?, own.identified] using named
  refine ⟨execution, record, only, whose, data, reports, ?_⟩
  rcases completing.settled execution member record ⟨whose, named, reports⟩ with
    ⟨now, waits⟩ | filed
  · rw [(atRest.unread completing.served completing.orderly).2] at waits
    cases waits
  · exact filed

/-- The scan is asked, carried out and reported. -/
def scanned : List Event :=
  [.created scan "t" true, .distributed 2 true, .drained (.ok ()), .arrivedAtClient "a" 0 400,
    .clientRead "a", .client "a" .taskTaken, .executed "a" Client.idealPlatform 60,
    .client "a" .resultTaken, .client "a" (.resultDrained (.ok ())),
    .arrivedAtServer "a" 0 400, .serverRead 0 61 true]

/-- The pipeline once the client is connected, and once the scan is over. -/
def connectedHost : Pipeline :=
  run (step scanJson) (init [] fun _ => Client.idleController) connects
def scannedHost : Pipeline := run (step scanJson) connectedHost scanned

/-- The scan as the server queues it. -/
def queuedScan : QueuedTask := ClientConnectServer.nextTask scan "t" connectedHost.server

theorem connectedHost_enqueued : connectedHost.server.enqueued = [] := by rfl

set_option maxRecDepth 100000 in
theorem connectedHost_served : Served "a" 0 0 connectedHost where
  attending := {
    gathering := by rfl
    receiving := by rfl
    reader := by rfl
    writer := by rfl
    alive := by decide +kernel
    processing := fun error stopped => by
      have waiting : (connectedHost.clients "a").processing = .waiting := by rfl
      rw [waiting] at stopped
      cases stopped
    sending := .inl (by rfl)
    beating := .inl (by rfl) }
  accepted := by rfl
  attends := {
    registered := ⟨_, by rfl, by rfl⟩
    alive := by decide +kernel
    handled := ⟨_, by rfl, by rfl⟩
    alone := by
      have only : connectedHost.server.serving.map (·.connection) = [0] := by rfl
      intro handler member _
      have among := List.mem_map_of_mem (f := (·.connection)) member
      simpa [only] using among }
  down := by rfl
  up := by rfl

/-- The row of the scan. -/
def scannedRow : Row :=
  ⟨1, Fields.merge createdScan
    (Table.timestamped (TaskController.succeeded createdScan (.arr [])) 61)⟩

/-- What a run leaves of host "a". -/
def remainder (pipeline : Pipeline) :=
  ((pipeline.sent, pipeline.server.enqueued, pipeline.server.operationTaskData),
    (pipeline.server.taskQueue, pipeline.toClient "a" 0, pipeline.toServer "a" 0),
    (pipeline.clients "a").inHand, (pipeline.clients "a").taskQueue,
    (pipeline.clients "a").taskResultQueue)

set_option maxRecDepth 100000 in
theorem scannedHost_remainder :
    remainder scannedHost =
      (([.obj scanTask, .obj scanResult], [queuedScan], [scannedRow]),
        ([], Pipe.empty, Pipe.empty), none, [], []) := by rfl

theorem scannedHost_leaves :
    (scannedHost.sent = [.obj scanTask, .obj scanResult] ∧
      scannedHost.server.enqueued = [queuedScan] ∧
        scannedHost.server.operationTaskData = [scannedRow]) ∧
      AtRest "a" 0 scannedHost := by
  have left := scannedHost_remainder
  simp only [remainder, Prod.mk.injEq] at left
  obtain ⟨stored, ⟨unqueued, down, up⟩, idle, waiting, sent⟩ := left
  refine ⟨stored, by simp [unqueued], ?_, ?_, idle, waiting, sent⟩
  · rw [down]
    exact ⟨rfl, rfl⟩
  · rw [up]
    exact ⟨rfl, rfl⟩

theorem scannedHost_trusted : Trusted scanJson scannedHost := by
  intro message member
  rw [scannedHost_leaves.1.1] at member
  rcases List.mem_pair.mp member with rfl | rfl
  · exact scanTask_whole
  · exact scanResult_whole

theorem scanned_calm : Each (step scanJson) (Calm "a" 0 0) connectedHost scanned := by
  simp [scanned, Each, Calm, Client.Undisturbed]

/-- The scan is executed once and its result filed. -/
theorem scan_completed : ∃ execution record,
    (scannedHost.executed.filter fun other => other.task.taskId? = some "t") = [execution] ∧
      execution.client = "a" ∧ execution.task = .obj createdScan ∧
      execution.report = some (.obj record) ∧
      scannedHost.server.operationTaskData.Files "t" record := by
  obtain ⟨⟨_, enqueued, _⟩, atRest⟩ := scannedHost_leaves
  have asks : Actionable "a" scannedHost := by
    intro task member _ _
    rw [enqueued, List.mem_singleton] at member
    subst member
    exact .inl ⟨rfl, rfl⟩
  have created : queuedScan ∈ scannedHost.server.enqueued := by simp [enqueued]
  have data : queuedScan.data = createdScan := by rfl
  have taskId : queuedScan.taskId = "t" := by rfl
  have completed := tasks_completed_exactly_once scanJson_rejectsEmpty [] _ connects scanned
    connectedHost.eq_1.symm scannedHost.eq_1.symm scannedHost_trusted connectedHost_served
    scanned_calm asks atRest created (by rfl) (by rfl) (by simp [connectedHost_enqueued])
    (by simp [enqueued])
  rwa [data, taskId] at completed

end NetworkAdapter.Pipeline
