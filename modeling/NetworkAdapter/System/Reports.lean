import NetworkAdapter.Client.Outcomes
import NetworkAdapter.System.Custody

/-!
# Every report is the report of an execution

What a client has to send back are heartbeats and the results of executions that have come
to their end. Results wait in a queue, go back to it when a send fails, and are lost when
the writer is closing; none comes from anywhere else.
-/

namespace NetworkAdapter

/-- The data of the result that is sent back for an execution. -/
def Execution.report (execution : Execution) : Option Json :=
  Client.reportData execution.task execution.outcome

/-- The execution is what `execute_task` makes of its task in some state of the controller. -/
def Execution.Genuine (execution : Execution) : Prop :=
  ∃ controller : TaskController,
    execution = controller.execution execution.client execution.platform execution.task

/-- The message reports an execution of this client. -/
def ReportOf (executed : List Execution) (clientIp : String) (message : Json) : Prop :=
  ∃ execution ∈ executed, execution.client = clientIp ∧
    ∃ data now, execution.report = some data ∧ message = Client.taskResult data now

theorem ReportOf.mono {executed more : List Execution} {clientIp : String} {message : Json}
    (report : ReportOf executed clientIp message) (subset : executed ⊆ more) :
    ReportOf more clientIp message := by
  obtain ⟨execution, member, rest⟩ := report
  exact ⟨execution, subset member, rest⟩

namespace Client

/-- No result is new, and what is written is a heartbeat or a result from the queue. -/
structure SendsBack (before after : Client) : Prop where
  outstanding : after.taskResultQueue ++ after.held ⊆ before.taskResultQueue ++ before.held
  written : ∃ lines, after.wire = before.wire ++ lines ∧ ∀ line ∈ lines,
    (∃ now, line.content = .heartbeat now) ∨
      ∃ result ∈ before.taskResultQueue, line.content = .result result

/-- Nothing is written. -/
theorem SendsBack.unwritten {before after : Client}
    (outstanding : after.taskResultQueue ++ after.held ⊆ before.taskResultQueue ++ before.held)
    (wire : after.wire = before.wire) : SendsBack before after :=
  ⟨outstanding, [], by rw [wire, List.append_nil], nofun⟩

theorem SendsBack.of_same {before after : Client}
    (queue : after.taskResultQueue = before.taskResultQueue) (held : after.held = before.held)
    (wire : after.wire = before.wire) : SendsBack before after :=
  .unwritten (by rw [queue, held]; exact List.Subset.refl _) wire

theorem callConnect_wire (coroutine : Coroutine) (client : Client) :
    (callConnect coroutine client).wire = client.wire := by
  have called : (connectToServer client).2.wire = client.wire := by
    unfold connectToServer
    split <;> rfl
  cases coroutine <;> exact called

theorem callConnect_sendsBack {coroutine : Coroutine} {client : Client}
    (idle : coroutine = .sendResults → client.held = []) :
    SendsBack client (callConnect coroutine client) :=
  have same := callConnect_sameResults coroutine client idle
  .of_same same.taskResultQueue same.held (callConnect_wire coroutine client)

theorem goOn_sendsBack {coroutine : Coroutine} {continued : Connecting → Option (Called × Client)}
    {client : Client} (same : ∀ stands called after, continued stands = some (called, after) →
      SameResults client after ∧ after.wire = client.wire) :
    SendsBack client (goOn coroutine continued client) := by
  have results : SameResults client (goOn coroutine continued client) :=
    goOn_sameResults fun stands called after continues => (same stands called after continues).1
  refine .of_same results.taskResultQueue results.held ?_
  unfold goOn
  split
  · next called after going =>
      obtain ⟨stands, _, continues⟩ := Option.bind_eq_some_iff.mp going
      rw [← (same stands called after continues).2]
      cases coroutine <;> rfl
  · rfl

/-- The result that is taken is written, or dropped. -/
theorem sendResult_sendsBack {client : Client} {result : QueuedResult} {rest : List QueuedResult}
    (queue : client.taskResultQueue = result :: rest) :
    SendsBack client (sendResult result { client with taskResultQueue := rest }) := by
  rcases safeSend_run (.result result) { client with taskResultQueue := rest } with
    ⟨writer, _, _, sends⟩ | ⟨_, skips⟩
  · rw [sendResult, sends]
    refine ⟨?_, _, rfl, fun line member => ?_⟩
    · intro other member
      simp only [held, List.mem_append, List.mem_singleton] at member
      rw [queue]
      rcases member with later | rfl
      · exact List.mem_append_left _ (List.mem_cons_of_mem _ later)
      · exact List.mem_append_left _ List.mem_cons_self
    · obtain rfl := List.mem_singleton.mp member
      exact .inr ⟨result, queue ▸ List.mem_cons_self, rfl⟩
  · rw [sendResult, skips]
    refine .unwritten ?_ rfl
    intro other member
    rw [queue]
    simp only [held, List.append_nil] at member
    exact List.mem_append_left _ (List.mem_cons_of_mem _ member)

theorem sendHeartbeat_sendsBack (now : Nat) (client : Client) :
    SendsBack client (sendHeartbeat now client) := by
  rcases safeSend_run (.heartbeat now) client with ⟨writer, _, _, sends⟩ | ⟨_, skips⟩
  · rw [sendHeartbeat, sends]
    refine ⟨List.Subset.refl _, _, rfl, fun line member => ?_⟩
    obtain rfl := List.mem_singleton.mp member
    exact .inl ⟨now, rfl⟩
  · rw [sendHeartbeat, skips]
    exact .of_same rfl rfl rfl

theorem receive_sendsBack (codec : TextCodec) (read : Except PyError (List UInt8))
    (client : Client) : SendsBack client (receive codec read client) := by
  cases read with
  | ok raw =>
      rw [receive_line]
      exact .of_same rfl rfl rfl
  | error error =>
      rw [receive_failed]
      exact .of_same rfl rfl rfl

theorem advance_sendsBack (codec : TextCodec) (client : Client) {event : Event}
    (noEnd : ∀ outcome now, event ≠ .executed outcome now) :
    SendsBack client (advance codec client event) := by
  have same : SendsBack client client := .of_same rfl rfl rfl
  cases event with
  | executed outcome now => exact absurd rfl (noEnd outcome now)
  | lineRead read =>
      simp only [advance]
      split
      · exact receive_sendsBack codec _ client
      · exact receive_sendsBack codec _ client
      · exact same
  | receivePauseOver =>
      simp only [advance]
      split
      · exact callConnect_sendsBack fun sends => by cases sends
      · exact same
  | taskTaken =>
      simp only [advance]
      split
      · exact .of_same rfl rfl rfl
      · exact same
  | resultTaken =>
      simp only [advance]
      split
      · next queue => exact sendResult_sendsBack queue
      · exact same
  | resultDrained drained =>
      simp only [advance]
      split
      · exact .unwritten (by simp [held]) rfl
      · next draining =>
          refine .unwritten ?_ rfl
          simp [putBack, held, draining]
      · exact same
  | sendPauseOver =>
      simp only [advance]
      split
      · next pausing => exact callConnect_sendsBack fun _ => by simp [held, pausing]
      · exact same
  | heartbeatDue now =>
      simp only [advance]
      split
      · exact sendHeartbeat_sendsBack now client
      · exact same
  | heartbeatDrained drained =>
      simp only [advance]
      split
      · exact .of_same rfl rfl rfl
      · exact callConnect_sendsBack fun sends => by cases sends
      · exact same
  | cancelled =>
      simp only [advance]
      split
      · exact .of_same rfl rfl rfl
      · exact same
  | _ => exact same

/-- Only the end of an execution brings a new result. -/
theorem step_sendsBack (codec : TextCodec) (client : Client) {event : Event}
    (noEnd : ∀ outcome now, event ≠ .executed outcome now) :
    SendsBack client (step codec client event) := by
  have same : SendsBack client client := .of_same rfl rfl rfl
  have others : SendsBack client
      (if client.running = .gathering then advance codec client event else client) := by
    split
    · exact advance_sendsBack codec client noEnd
    · exact same
  cases event with
  | transportClosing connection => exact .of_same rfl rfl rfl
  | attempted coroutine opened =>
      simp only [step]
      split
      · refine goOn_sendsBack fun stands called after continues => ?_
        cases stands with
        | opening retries =>
            have results := connectionAttempted_sameResults retries opened client
            have wire : (connectionAttempted retries opened client).2.wire = client.wire := by
              unfold connectionAttempted
              split <;> rfl
            rw [Option.some.inj continues] at results wire
            exact ⟨results, wire⟩
        | delaying retries => cases continues
      · exact same
  | delayOver coroutine =>
      simp only [step]
      split
      · refine goOn_sendsBack fun stands called after continues => ?_
        cases stands with
        | opening retries => cases continues
        | delaying retries =>
            have results := delayOver_sameResults retries client
            have wire : (Client.delayOver retries client).2.wire = client.wire := by
              unfold Client.delayOver
              split <;> rfl
            rw [Option.some.inj continues] at results wire
            exact ⟨results, wire⟩
      · exact same
  | _ => exact others

/-- The end of an execution puts its report, if there is one. -/
theorem finishTask_reports (execution : Execution) (now : Nat) (client : Client) :
    let after := finishTask execution.task execution.outcome now client
    after.wire = client.wire ∧ after.held = client.held ∧
      after.taskResultQueue = client.taskResultQueue ++
        (execution.report.map fun data => ⟨client.produced, taskResult data now⟩).toList := by
  obtain ⟨clientIp, task, platform, outcome, performed⟩ := execution
  cases outcome with
  | ok processed => exact ⟨rfl, rfl, rfl⟩
  | error text =>
      cases marked : markFailed task text with
      | ok failed =>
          simp [finishTask, Execution.report, reportData, marked, putResult, Except.toOption, held]
      | error error =>
          simp [finishTask, Execution.report, reportData, marked, Except.toOption, held]

end Client

namespace Pipeline

/-- What waits to be sent and what is under way to the server are heartbeats and reports of
what the client has executed. -/
structure Reported (pipeline : Pipeline) : Prop where
  genuine : ∀ execution ∈ pipeline.executed, execution.Genuine
  waiting : ∀ clientIp,
    ∀ result ∈ (pipeline.clients clientIp).taskResultQueue ++ (pipeline.clients clientIp).held,
      ReportOf pipeline.executed clientIp result.message
  underway : ∀ clientIp connection,
    ∀ message ∈ (pipeline.toServer clientIp connection).unread,
      (∃ now, message = (Outgoing.heartbeat now).message) ∨
        ReportOf pipeline.executed clientIp message

variable {json : JsonText} {pipeline : Pipeline}

/-- A read takes from the stream and puts nothing into it. -/
theorem next_unread {pipe rest : Pipe} {read : Readline} (next : pipe.next = some (read, rest)) :
    rest.unread ⊆ pipe.unread := by
  unfold Pipe.next at next
  split at next
  · cases next
    exact List.Subset.refl _
  · split at next
    · cases next
      exact List.tail_subset _
    · split at next
      · cases next
        exact List.tail_subset _
      · cases next

/-- Lines which are heartbeats and reports keep the way to the server to those. -/
theorem carryToServer_reported (clientIp : String) (lines : List SentLine) (pipeline : Pipeline)
    (known : ∀ line ∈ lines, (∃ now, line.content = .heartbeat now) ∨
      ∃ result, ReportOf pipeline.executed clientIp result.message ∧
        line.content = .result result)
    (underway : ∀ client connection, ∀ message ∈ (pipeline.toServer client connection).unread,
      (∃ now, message = (Outgoing.heartbeat now).message) ∨
        ReportOf pipeline.executed client message) :
    ∀ client connection,
      ∀ message ∈ ((lines.foldl (carryToServer json clientIp) pipeline).toServer client
          connection).unread,
        (∃ now, message = (Outgoing.heartbeat now).message) ∨
          ReportOf pipeline.executed client message := by
  induction lines generalizing pipeline with
  | nil => exact underway
  | cons line rest inductionHypothesis =>
      obtain ⟨first, later⟩ := List.forall_mem_cons.mp known
      refine inductionHypothesis (carryToServer json clientIp pipeline line) later ?_
      intro client connection message member
      simp only [carryToServer, changeAt] at member
      split at member
      · next same =>
          rcases List.mem_append.mp (write_unread _ _ _ member) with earlier | new
          · exact underway client connection message earlier
          · obtain rfl := List.mem_singleton.mp new
            rcases first with ⟨now, content⟩ | ⟨result, report, content⟩
            · exact .inl ⟨now, by rw [content]⟩
            · rw [same.1, content]
              exact .inr report
      · exact underway client connection message member

/-- An event of a client which ends no execution. -/
theorem Reported.clientStep (reported : Reported pipeline) (clientIp : String)
    (event : Client.Event) (noEnd : ∀ outcome now, event ≠ .executed outcome now) :
    Reported (clientStep json clientIp event pipeline) := by
  obtain ⟨outstanding, lines, wire, written⟩ :=
    Client.step_sendsBack json.codec (pipeline.clients clientIp) noEnd
  refine ⟨by rw [clientStep_executed]; exact reported.genuine, fun client result member => ?_, ?_⟩
  · rw [clientStep_executed]
    rw [clientStep_clients] at member
    by_cases same : client = clientIp
    · subst same
      rw [Function.update_self] at member
      exact reported.waiting client result (outstanding member)
    · rw [Function.update_of_ne same] at member
      exact reported.waiting client result member
  · rw [clientStep_executed]
    simp only [Pipeline.clientStep, wire, List.drop_left]
    refine carryToServer_reported clientIp lines { pipeline with
      clients := Function.update pipeline.clients clientIp
        (Client.step json.codec (pipeline.clients clientIp) event) }
      (fun line member => ?_) reported.underway
    rcases written line member with heartbeat | ⟨result, waits, content⟩
    · exact .inl heartbeat
    · exact .inr ⟨result, reported.waiting clientIp result (List.mem_append_left _ waits), content⟩

/-- The end of an execution, recorded with it. -/
theorem Reported.executed (reported : Reported pipeline) (execution : Execution)
    (genuine : execution.Genuine) (controllers : String → TaskController) {now : Nat}
    (steps : Client.step json.codec (pipeline.clients execution.client)
        (.executed execution.outcome now) =
      Client.finishTask execution.task execution.outcome now (pipeline.clients execution.client)) :
    Reported { Pipeline.clientStep json execution.client (.executed execution.outcome now)
        pipeline with
      controllers := controllers
      executed := pipeline.executed ++ [execution] } := by
  have more : pipeline.executed ⊆ pipeline.executed ++ [execution] :=
    List.subset_append_left _ _
  obtain ⟨wire, held, queue⟩ :=
    Client.finishTask_reports execution now (pipeline.clients execution.client)
  rw [← steps] at wire held queue
  refine ⟨fun other member => ?_, fun client result member => ?_,
    fun client connection message member => ?_⟩
  · rcases List.mem_append.mp member with earlier | new
    · exact reported.genuine other earlier
    · exact List.mem_singleton.mp new ▸ genuine
  · simp only [clientStep_clients] at member
    by_cases same : client = execution.client
    · subst same
      rw [Function.update_self, held, queue, List.append_assoc, List.mem_append,
        List.mem_append] at member
      rcases member with earlier | new | holds
      · exact (reported.waiting _ _ (List.mem_append_left _ earlier)).mono more
      · obtain ⟨data, report, rfl⟩ := Option.map_eq_some_iff.mp (Option.mem_toList.mp new)
        exact ⟨execution, List.mem_append_right _ (List.mem_singleton_self _), rfl, data, now,
          report, rfl⟩
      · exact (reported.waiting _ _ (List.mem_append_right _ holds)).mono more
    · rw [Function.update_of_ne same] at member
      exact (reported.waiting client result member).mono more
  · have silent : (Pipeline.clientStep json execution.client (.executed execution.outcome now)
        pipeline).toServer = pipeline.toServer := by
      simp [Pipeline.clientStep, wire]
    simp only [silent] at member
    exact (reported.underway client connection message member).imp_right (·.mono more)

/-- What leaves clients and executions alone and puts nothing into a pipe. -/
theorem Reported.of_fewer {after : Pipeline} (reported : Reported pipeline)
    (clients : after.clients = pipeline.clients) (executed : after.executed = pipeline.executed)
    (fewer : ∀ clientIp connection, (after.toServer clientIp connection).unread ⊆
      (pipeline.toServer clientIp connection).unread) : Reported after := by
  refine ⟨by rw [executed]; exact reported.genuine, fun clientIp result member => ?_,
    fun clientIp connection message member => ?_⟩
  · rw [executed]
    rw [clients] at member
    exact reported.waiting clientIp result member
  · rw [executed]
    exact reported.underway clientIp connection message (fewer clientIp connection member)

theorem changeAt_fewer {clientIp : String} {connection : Nat} {change : Pipe → Pipe}
    {pipes : String → Nat → Pipe}
    (fewer : (change (pipes clientIp connection)).unread ⊆ (pipes clientIp connection).unread)
    (client : String) (number : Nat) :
    (changeAt clientIp connection change pipes client number).unread ⊆
      (pipes client number).unread := by
  unfold changeAt
  split
  · next same =>
      obtain ⟨rfl, rfl⟩ := same
      exact fewer
  · exact List.Subset.refl _

/-- Every event keeps it that way. -/
theorem Reported.step (reported : Reported pipeline) (event : Event) :
    Reported (step json pipeline event) := by
  have server (event : ClientConnectServer.Event) : Reported (serverStep json event pipeline) :=
    reported.of_fewer (by simp) (by simp) fun _ _ => by simp
  cases event with
  | created => exact server _
  | distributed => exact server _
  | serverClosing => exact server _
  | drained result =>
      simp only [Pipeline.step]
      split
      · exact (server _).of_fewer rfl rfl fun _ _ => List.Subset.refl _
      · exact server _
  | accepted =>
      simp only [Pipeline.step]
      split
      · exact (server _).of_fewer rfl rfl fun _ _ => List.Subset.refl _
      · exact reported
  | serverRead number now writes =>
      simp only [Pipeline.step]
      split
      · split
        · next next =>
            split
            · exact reported.of_fewer (by simp) (by simp) (by
                simpa using changeAt_fewer (next_unread next))
            · exact reported
        · exact reported
      · exact reported
  | client clientIp event =>
      simp only [Pipeline.step]
      split
      · exact reported
      · exact reported
      · next noEnd => exact reported.clientStep clientIp _ noEnd
  | clientRead clientIp =>
      simp only [Pipeline.step]
      split
      · next connection _ =>
        split
        · next read rest _ =>
            have moved : Reported { pipeline with
                toClient := changeAt clientIp connection (fun _ => rest) pipeline.toClient } :=
              reported.of_fewer rfl rfl fun _ _ => List.Subset.refl _
            exact moved.clientStep clientIp (.lineRead read) (by simp)
        · exact reported
      · exact reported
  | executed clientIp platform now =>
      simp only [Pipeline.step]
      split
      · next task runs =>
          obtain ⟨gathering, stands⟩ := executing_eq_some.mp runs
          exact reported.executed
            ((pipeline.controllers clientIp).execution clientIp platform task) ⟨_, rfl⟩ _
            (Client.step_executed json.codec gathering stands _ now)
      · exact reported
  | arrivedAtServer clientIp connection count =>
      exact reported.of_fewer rfl rfl (changeAt_fewer (List.Subset.refl _))
  | cutToServer clientIp connection ending =>
      exact reported.of_fewer rfl rfl (changeAt_fewer (List.Subset.refl _))
  | arrivedAtClient clientIp connection count =>
      exact reported.of_fewer rfl rfl fun _ _ => List.Subset.refl _
  | cutToClient clientIp connection ending =>
      exact reported.of_fewer rfl rfl fun _ _ => List.Subset.refl _

theorem init_reported (table : Table) (controllers : String → TaskController) :
    Reported (init table controllers) := by
  refine ⟨nofun, fun clientIp result member => ?_, fun clientIp connection message member => ?_⟩
  · have none : (init table controllers).clients clientIp = Client.init := rfl
    rw [none] at member
    cases member
  · cases member

end Pipeline
end NetworkAdapter
