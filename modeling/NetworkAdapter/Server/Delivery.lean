import NetworkAdapter.Server.Dispatcher

/-!
# No dispatched task is lost

Every host task that was enqueued is accounted for: it is queued, held by the
distributor, on the wire of a transport of its client, or recorded with an
outcome. A task is lost when it is dequeued while the writer registered for its
client is closing, for `_safe_send` then neither writes nor raises, or when its
client IP is not a text, for the loop then ends with the task in hand.
-/

namespace NetworkAdapter.ClientConnectServer

open Execution

/-- A status which says that a task is over. -/
def Terminal (status : Json) : Prop := status = .str "error" ∨ status = .str "success"

/-- The table has a record of the task id with a terminal status. -/
def HasOutcome (table : Table) (taskId : String) : Prop :=
  ∃ row ∈ table, Fields.get? row.fields "task_id" = some (.str taskId) ∧
    ∃ status, Fields.get? row.fields "status" = some status ∧ Terminal status

/-- The line of the task was written to a transport of its client that was not
closing at that moment. -/
def OnWire (server : ClientConnectServer) (task : QueuedTask) : Prop :=
  ∃ line ∈ server.wire, line.task = task ∧ line.transportClosing = false ∧
    ∃ clientIp, task.clientIp? = some clientIp ∧ server.peers[line.connection]? = some clientIp

/-- Where a task can be. -/
def Accounted (server : ClientConnectServer) (task : QueuedTask) : Prop :=
  task ∈ server.taskQueue ∨ server.distributor = .draining task ∨ OnWire server task ∨
    HasOutcome server.operationTaskData task.taskId

/-- Every host task enqueued so far is accounted for. -/
def NoTaskLost (server : ClientConnectServer) : Prop :=
  ∀ task ∈ server.enqueued, task.forSwitch = false → Accounted server task

/-- The database writes of the event succeed, and a result it reports, if any, has
no status or a terminal one. -/
def Reported (codec : TextCodec) : Event → Prop
  | .createTask _ _ writes => writes = true
  | .taskTaken _ writes => writes = true
  | .lineRead _ read _ writes => writes = true ∧
      ∀ result taskId, received codec read = some (.taskResult result taskId) →
        ∀ status, Fields.get? result "status" = some status → Terminal status
  | _ => True

/-- A dequeued host task has a text as its client IP, and if a writer is
registered for that client, it is not closing. -/
def TakesDeliverable (server : ClientConnectServer) : Event → Prop
  | .taskTaken _ _ =>
      ∀ task rest, server.distributor = .waiting → server.taskQueue = task :: rest →
        task.forSwitch = false → ∃ clientIp, task.clientIp? = some clientIp ∧
          ∀ info, server.connectedClients.get? clientIp = some info →
            info.writer ∉ server.closing
  | _ => True

theorem HasOutcome.insert {table : Table} {taskId : String} (outcome : HasOutcome table taskId)
    (data : JsonObject) : HasOutcome (table.insert data) taskId := by
  obtain ⟨row, member, shape⟩ := outcome
  exact ⟨row, Table.mem_insert_of_mem member data, shape⟩

/-- A terminal record stays terminal under an upsert that sets no other status. -/
theorem HasOutcome.upsert {table : Table} {taskId : String} (outcome : HasOutcome table taskId)
    {data : JsonObject} {value : Json} {now : Nat}
    (identified : Fields.get? data "task_id" = some value)
    (terminal : ∀ status, Fields.get? data "status" = some status → Terminal status) :
    HasOutcome (table.asyncUpsertByKey data "task_id" value now) taskId := by
  obtain ⟨row, member, sameId, status, found, ended⟩ := outcome
  obtain ⟨after, afterMember, _, kept⟩ := Table.upsert_keeps member data "task_id" value now
  refine ⟨after, afterMember, ?_⟩
  rcases kept with same | ⟨matched, merged⟩
  · rw [same]
    exact ⟨sameId, status, found, ended⟩
  · have sameValue : value = .str taskId := by
      simpa only [Row.matchesField, sameId, Json.str_equals] using matched
    rw [merged]
    refine ⟨by simp [identified, sameValue], ?_⟩
    cases changed : Fields.get? data "status" with
    | none => exact ⟨status, by simp [changed, found], ended⟩
    | some newer => exact ⟨newer, by simp [changed], terminal newer changed⟩

/-- An upsert of a terminal record makes one. -/
theorem HasOutcome.of_upsert {table : Table} {taskId : String} {data : JsonObject} {now : Nat}
    (identified : Fields.get? data "task_id" = some (.str taskId)) {status : Json}
    (found : Fields.get? data "status" = some status) (ended : Terminal status) :
    HasOutcome (table.asyncUpsertByKey data "task_id" (.str taskId) now) taskId := by
  obtain ⟨after, member, shape⟩ := table.upsert_stores data "task_id" (.str taskId) now
  refine ⟨after, member, ?_⟩
  rcases shape with same | ⟨before, merged⟩
  · rw [same]
    exact ⟨by simp [identified], status, by simp [found], ended⟩
  · rw [merged]
    exact ⟨by simp [identified], status, by simp [found], ended⟩

theorem OnWire.carry {before after : ClientConnectServer} {task : QueuedTask}
    (written : OnWire before task) (wire : ∀ line ∈ before.wire, line ∈ after.wire)
    (peers : before.peers <+: after.peers) : OnWire after task := by
  obtain ⟨line, member, same, alive, clientIp, addressed, peer⟩ := written
  obtain ⟨later, extended⟩ := peers
  refine ⟨line, wire line member, same, alive, clientIp, addressed, ?_⟩
  have bound := (List.getElem?_eq_some_iff.mp peer).1
  rw [← extended, List.getElem?_append_left bound]
  exact peer

/-- What a step has to do with every place a task can be in. -/
structure Carries (before after : ClientConnectServer) : Prop where
  queued : ∀ task ∈ before.taskQueue, task.forSwitch = false → Accounted after task
  held : ∀ task, before.distributor = .draining task → Accounted after task
  written : ∀ task, OnWire before task → OnWire after task
  outcomes : ∀ taskId, HasOutcome before.operationTaskData taskId →
    HasOutcome after.operationTaskData taskId
  enqueued : ∀ task ∈ after.enqueued, task ∈ before.enqueued ∨ task ∈ after.taskQueue

theorem Carries.noTaskLost {before after : ClientConnectServer} (carries : Carries before after)
    (kept : NoTaskLost before) : NoTaskLost after := by
  intro task member forHost
  rcases carries.enqueued task member with earlier | queued
  · rcases kept task earlier forHost with queued | held | written | outcome
    · exact carries.queued task queued forHost
    · exact carries.held task held
    · exact .inr (.inr (.inl (carries.written task written)))
    · exact .inr (.inr (.inr (carries.outcomes task.taskId outcome)))
  · exact .inl queued

/-- No task is lost, and the task being drained is on the wire. -/
structure Delivers (server : ClientConnectServer) : Prop where
  kept : NoTaskLost server
  held : ∀ task, server.distributor = .draining task → OnWire server task

theorem OnWire.of_sameTasks {before after : ClientConnectServer} {task : QueuedTask}
    (written : OnWire before task) (same : SameTasks before after) : OnWire after task :=
  written.carry (fun line member => by rwa [same.wire]) same.peers

/-- A step which moves no task keeps all of them if it keeps the outcomes. -/
theorem Delivers.of_sameTasks {before after : ClientConnectServer} (delivers : Delivers before)
    (same : SameTasks before after)
    (outcomes : ∀ taskId, HasOutcome before.operationTaskData taskId →
      HasOutcome after.operationTaskData taskId) : Delivers after := by
  refine ⟨Carries.noTaskLost ?_ delivers.kept, ?_⟩
  · refine ⟨?_, ?_, fun task written => written.of_sameTasks same, outcomes, ?_⟩
    · intro task queued _
      exact .inl (by rwa [same.taskQueue])
    · intro task held
      exact .inr (.inl (by rw [same.distributor, held]))
    · intro task member
      exact .inl (by rwa [← same.enqueued])
  · intro task held
    rw [same.distributor] at held
    exact (delivers.held task held).of_sameTasks same

theorem Delivers.create {server : ClientConnectServer} (delivers : Delivers server)
    (task : QueuedTask) : Delivers { server with
      taskQueue := server.taskQueue ++ [task]
      enqueued := server.enqueued ++ [task] } := by
  refine ⟨Carries.noTaskLost ?_ delivers.kept, delivers.held⟩
  refine ⟨fun other queued _ => .inl (List.mem_append_left _ queued),
    fun other held => .inr (.inl held), fun other written => written,
    fun taskId outcome => outcome, ?_⟩
  intro other member
  rcases List.mem_append.mp member with earlier | new
  · exact .inl earlier
  · exact .inr (List.mem_append_right _ new)

theorem messageOf_taskResult {fields result : JsonObject} {taskId : Json}
    (delivers : messageOf fields = some (.taskResult result taskId)) :
    Fields.get? result "task_id" = some taskId := by
  unfold messageOf at delivers
  split at delivers
  · simp at delivers
  · split at delivers
    · split at delivers
      · rename_i record _
        cases identified : Fields.get? record "task_id" <;> simp_all
      · simp at delivers
    · simp at delivers

theorem received_taskResult {codec : TextCodec} {read : Readline} {result : JsonObject}
    {taskId : Json} (delivers : received codec read = some (.taskResult result taskId)) :
    Fields.get? result "task_id" = some taskId := by
  unfold received at delivers
  split at delivers
  · exact messageOf_taskResult delivers
  · simp at delivers

/-- A dequeue from an idle distributor has only the dequeued task to account for. -/
theorem Carries.of_taken {server after : ClientConnectServer} {task : QueuedTask}
    {rest : List QueuedTask} (idle : server.distributor = .waiting)
    (queued : server.taskQueue = task :: rest) (remaining : after.taskQueue = rest)
    (enqueued : after.enqueued = server.enqueued)
    (written : ∀ other, OnWire server other → OnWire after other)
    (outcomes : ∀ taskId, HasOutcome server.operationTaskData taskId →
      HasOutcome after.operationTaskData taskId)
    (accounted : task.forSwitch = false → Accounted after task) : Carries server after where
  queued := by
    intro other member forHost
    rw [queued] at member
    rcases List.mem_cons.mp member with rfl | later
    · exact accounted forHost
    · exact .inl (by rwa [remaining])
  held := by simp [idle]
  written := written
  outcomes := outcomes
  enqueued := fun other member => .inl (by rwa [← enqueued])

/-- A dequeue from an idle distributor, the task for a client whose writer, if it
has one, is not closing. -/
theorem takeTask_delivers {server : ClientConnectServer} {task : QueuedTask}
    {rest : List QueuedTask} (delivers : Delivers server) (owned : EntriesOwned server)
    (idle : server.distributor = .waiting) (queued : server.taskQueue = task :: rest)
    (deliverable : task.forSwitch = false → ∃ clientIp, task.clientIp? = some clientIp ∧
      ∀ info, server.connectedClients.get? clientIp = some info → info.writer ∉ server.closing)
    (now : Nat) : Delivers (takeTask task now true { server with taskQueue := rest }) := by
  have taken := takeTask_taken task now true { server with taskQueue := rest }
  generalize takeTask task now true { server with taskQueue := rest } = after at taken
  cases taken with
  | switch forSwitch =>
      refine ⟨Carries.noTaskLost ?_ delivers.kept, by simp⟩
      refine .of_taken idle queued rfl rfl (fun other written => written)
        (fun taskId outcome => outcome) fun forHost => ?_
      simp [forSwitch] at forHost
  | unusable forHost noText =>
      obtain ⟨clientIp, addressed, _⟩ := deliverable forHost
      simp [noText] at addressed
  | skipped forHost addressed found shut =>
      obtain ⟨clientIp, sameAddress, alive⟩ := deliverable forHost
      cases addressed.symm.trans sameAddress
      exact absurd shut (alive _ found)
  | @sent clientIp info forHost addressed found alive =>
      have written : OnWire
          { handedOver info.writer task { server with taskQueue := rest } with
            distributor := .draining task } task :=
        ⟨⟨info.writer, task, false⟩, List.mem_append_right _ (List.mem_singleton_self _), rfl, rfl,
          clientIp, addressed, owned clientIp info found⟩
      refine ⟨Carries.noTaskLost ?_ delivers.kept, ?_⟩
      · refine .of_taken idle queued rfl rfl (fun other earlier => ?_)
          (fun taskId outcome => outcome) fun _ => .inr (.inl rfl)
        exact earlier.carry (fun line => List.mem_append_left _) List.prefix_rfl
      · intro other held
        cases held
        exact written
  | @absent clientIp forHost addressed missing =>
      have identified := undeliverable_identified task.identified clientIp
      have status : Fields.get? (undeliverable task.data clientIp) "status" =
          some (.str "error") := by simp [undeliverable]
      have terminal : Terminal (.str "error") := .inl rfl
      refine ⟨Carries.noTaskLost ?_ delivers.kept, by simp⟩
      refine .of_taken idle queued rfl rfl (fun other written => written) ?_ fun _ =>
        .inr (.inr (.inr (HasOutcome.of_upsert identified status terminal)))
      intro taskId outcome
      refine outcome.upsert identified ?_
      intro found known
      rw [status] at known
      cases known
      exact terminal

/-- An answered drain frees the distributor; its task is on the wire. -/
theorem drainDone_delivers {server : ClientConnectServer} {task : QueuedTask}
    (delivers : Delivers server) (held : server.distributor = .draining task)
    (drained : Except PyError Unit) :
    Delivers { (finishDrain task drained).leaves server with distributor := .waiting } := by
  have written := delivers.held task held
  have isTask : ∀ other, server.distributor = .draining other → other = task := by
    intro other alsoHeld
    rw [held] at alsoHeld
    cases alsoHeld
    rfl
  rw [finishDrain_leaves]
  cases drained with
  | ok value =>
      refine ⟨Carries.noTaskLost ?_ delivers.kept, by simp⟩
      refine ⟨fun other queued _ => .inl queued, ?_, fun other earlier => earlier,
        fun taskId outcome => outcome, fun other member => .inl member⟩
      intro other alsoHeld
      rw [isTask other alsoHeld]
      exact .inr (.inr (.inl written))
  | error error =>
      refine ⟨Carries.noTaskLost ?_ delivers.kept, by simp⟩
      refine ⟨fun other queued _ => .inl (List.mem_append_left _ queued), ?_,
        fun other earlier => earlier, fun taskId outcome => outcome,
        fun other member => .inl member⟩
      intro other alsoHeld
      rw [isTask other alsoHeld]
      exact .inl (List.mem_append_right _ (List.mem_singleton_self _))

/-- A read whose result, if any, has no status or a terminal one erases no outcome. -/
theorem HasOutcome.of_read {codec : TextCodec} {handler : Handler} {read : Readline} {now : Nat}
    {server : ClientConnectServer} {taskId : String}
    (outcome : HasOutcome server.operationTaskData taskId)
    (results : ∀ result resultId, received codec read = some (.taskResult result resultId) →
      ∀ status, Fields.get? result "status" = some status → Terminal status) :
    HasOutcome (readConnection codec handler read now true server).operationTaskData taskId := by
  have done := readConnection_done codec handler read now true server
  generalize readConnection codec handler read now true server = after at done
  obtain ⟨clients, equation, _⟩ := endHandler_eq handler server
  cases done with
  | malformed => rwa [equation]
  | unregistered => rwa [equation]
  | heartbeat => exact outcome
  | taskResult result => exact outcome.upsert (received_taskResult result) (results _ _ result)
  | other => exact outcome

/-- Every reported step which takes a deliverable task keeps all tasks. -/
theorem step_delivers (codec : TextCodec) (server : ClientConnectServer) (event : Event)
    (delivers : Delivers server) (owned : EntriesOwned server) (reported : Reported codec event)
    (deliverable : TakesDeliverable server event) : Delivers (step codec server event) := by
  cases event with
  | createTask taskData taskId writes =>
      obtain rfl : writes = true := reported
      have same : SameTasks server (recorded true (createdData taskData taskId) server) :=
        ⟨rfl, rfl, rfl, rfl, rfl, List.prefix_rfl⟩
      have written := delivers.of_sameTasks same fun _ outcome => outcome.insert _
      simp only [step, createTask_leaves, recorded, if_true]
      split
      · exact written.create (nextTask taskData taskId server)
      · exact written
  | lineRead connection read now writes =>
      obtain ⟨rfl, results⟩ := reported
      simp only [step]
      split
      · rename_i handler found
        refine delivers.of_sameTasks
          (readConnection_sameTasks codec handler read now true server) ?_
        intro taskId outcome
        exact outcome.of_read results
      · exact delivers
  | taskTaken now writes =>
      obtain rfl : writes = true := reported
      simp only [step]
      split
      · rename_i task rest idle queued
        exact takeTask_delivers delivers owned idle queued (deliverable task rest idle queued) now
      · exact delivers
  | drainDone drained =>
      simp only [step]
      split
      · next task held => exact drainDone_delivers delivers held drained
      · exact delivers
  | _ =>
      exact delivers.of_sameTasks (step_sameTasks codec server _ (by simp) (by simp) (by simp))
        fun _ outcome => outcome

theorem init_delivers (table : Table) : Delivers (init table) :=
  ⟨by simp [NoTaskLost, init], by simp [init]⟩

/-- No host task is lost along a run, whatever else happens on it, if its database
writes succeed, results keep to the terminal statuses, and every host task is
dequeued for a text IP whose registered writer, if any, is not closing. -/
theorem no_task_lost (codec : TextCodec) (table : Table) (events : List Event)
    (reported : ∀ event ∈ events, Reported codec event)
    (deliverable : Each (step codec) TakesDeliverable (init table) events) :
    Along (step codec) NoTaskLost (init table) events := by
  have preserved : ∀ server event, Delivers server ∧ EntriesOwned server →
      Reported codec event ∧ TakesDeliverable server event →
        Delivers (step codec server event) ∧ EntriesOwned (step codec server event) := by
    rintro server event ⟨delivers, owned⟩ ⟨reported, deliverable⟩
    exact ⟨step_delivers codec server event delivers owned reported deliverable,
      step_entriesOwned codec server event owned⟩
  have initial : Delivers (init table) ∧ EntriesOwned (init table) :=
    ⟨init_delivers table, init_entriesOwned table⟩
  have both := each_and (each_of_forall reported) deliverable
  exact (along_of_each preserved initial both).mono fun _ sound => sound.1.kept

/-- A client is served, a task for it is written, its drain times out and the
second try succeeds. -/
theorem retried_task_kept :
    Along (step heartbeatCodec) NoTaskLost (init [])
      [.connectionOpened "10.0.0.1" 40000 1,
        .createTask [("player", .str "attacker"), ("client_ip", .str "10.0.0.1")] "00000a" true,
        .taskTaken 2 true, .drainDone (.error .timeoutError), .taskTaken 3 true,
        .drainDone (.ok ())] := by
  refine no_task_lost _ _ _ ?_ ?_
  · simp [Reported]
  · refine ⟨trivial, trivial, ?_, trivial, ?_, trivial, trivial⟩
    all_goals
      intro task rest _ queued _
      cases queued
      exact ⟨"10.0.0.1", rfl, fun _ _ => List.not_mem_nil⟩

/-- The registered writer is closing when its task is dispatched: nothing is
written, nothing is recorded, and the task is gone. -/
theorem closing_writer_loses_task :
    ¬ Along (step heartbeatCodec) NoTaskLost (init [])
      [.connectionOpened "10.0.0.1" 40000 1,
        .createTask [("player", .str "attacker"), ("client_ip", .str "10.0.0.1")] "00000a" true,
        .transportClosing 0, .taskTaken 2 true] := by
  intro along
  rcases along.last _ (List.mem_singleton_self _) rfl with
    queued | held | ⟨line, written, _⟩ | ⟨row, stored, _, status, found, ended⟩
  · cases queued
  · cases held
  · cases written
  · cases List.mem_singleton.mp stored
    cases found
    simp [Terminal] at ended

end NetworkAdapter.ClientConnectServer
