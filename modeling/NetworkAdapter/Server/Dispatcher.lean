import NetworkAdapter.Server.Registry

/-!
# The dispatcher stays alive

`distribute_tasks` is one loop for all clients. It catches what sending raises
and `update_task` swallows a failed write, so the only exceptions that can leave
an iteration come from the `client_ip` of the task itself: a value that is not a
text cannot be looked up or cannot be put into the error message.
-/

namespace NetworkAdapter.ClientConnectServer

open Execution

/-- What an answered drain appends to the queue. -/
def putBack : Distributor → Except PyError Unit → List QueuedTask
  | .draining task, .error _ => [task]
  | _, _ => []

/-- No exception has left the loop, and its next iteration takes the task that is
first in the queue and leaves the others in order. -/
structure DispatcherAlive (codec : TextCodec) (server : ClientConnectServer) : Prop where
  running : ∀ error, server.distributor ≠ .stopped error
  dequeues : ∀ task rest, server.taskQueue = task :: rest → ∀ drained now writes,
    ∃ idle, idle.distributor = .waiting ∧
      idle.taskQueue = rest ++ putBack server.distributor drained ∧
      run (step codec) server [.drainDone drained, .taskTaken now writes] =
        takeTask task now writes idle

/-- A dequeued task is for a switch or has a text as its client IP. -/
def TakesAddressed (server : ClientConnectServer) : Event → Prop
  | .taskTaken _ _ =>
      ∀ task rest, server.distributor = .waiting → server.taskQueue = task :: rest →
        task.forSwitch = true ∨ task.clientIp?.isSome
  | _ => True

/-- A running dispatcher serves its queue. -/
theorem dispatcherAlive_iff (codec : TextCodec) (server : ClientConnectServer) :
    DispatcherAlive codec server ↔ ∀ error, server.distributor ≠ .stopped error := by
  refine ⟨DispatcherAlive.running, fun running => ⟨running, ?_⟩⟩
  intro task rest queued drained now writes
  cases stands : server.distributor with
  | waiting =>
      refine ⟨{ server with taskQueue := rest }, stands, by simp [putBack], ?_⟩
      simp [step, stands, queued]
  | stopped error => exact absurd stands (running error)
  | draining held =>
      cases drained with
      | ok value =>
          refine ⟨{ server with taskQueue := rest, distributor := .waiting }, rfl,
            by simp [putBack], ?_⟩
          simp [step, stands, queued, finishDrain_leaves]
      | error error =>
          refine ⟨{ server with
              taskQueue := rest ++ [held]
              distributor := .waiting
              failedDrains := server.failedDrains ++ [held.number] }, rfl, by simp [putBack], ?_⟩
          simp [step, stands, queued, finishDrain_leaves]

/-- Only a dequeue can stop the loop. -/
theorem step_keeps_running (codec : TextCodec) (server : ClientConnectServer) (event : Event)
    (noDequeue : ∀ now writes, event ≠ .taskTaken now writes)
    (running : ∀ error, server.distributor ≠ .stopped error) :
    ∀ error, (step codec server event).distributor ≠ .stopped error := by
  cases event with
  | taskTaken now writes => exact absurd rfl (noDequeue now writes)
  | createTask taskData taskId writes =>
      simp only [step, createTask_leaves, recorded]
      split <;> split <;> exact running
  | connectionOpened clientIp clientPort now => exact running
  | transportClosing connection => exact running
  | drainDone drained =>
      simp only [step]
      split
      · simp
      · exact running
  | lineRead connection read now writes =>
      simp only [step]
      split
      · rename_i handler found
        have done := readConnection_done codec handler read now writes server
        generalize readConnection codec handler read now writes server = after at done
        obtain ⟨clients, equation, _⟩ := endHandler_eq handler server
        cases done with
        | malformed => rw [equation]; exact running
        | unregistered => rw [equation]; exact running
        | taskResult => cases writes <;> exact running
        | _ => exact running
      · exact running

/-- A dequeue stops the loop exactly when the task is for a host and its client
IP is not a text. -/
theorem takeTask_running_iff (task : QueuedTask) (now : Nat) (writes : Bool)
    (server : ClientConnectServer) :
    (∀ error, (takeTask task now writes server).distributor ≠ .stopped error) ↔
      task.forSwitch = true ∨ task.clientIp?.isSome := by
  have taken := takeTask_taken task now writes server
  generalize takeTask task now writes server = after at taken
  cases taken with
  | unusable forHost noText => simp [forHost, noText]
  | switch forSwitch => simp [forSwitch]
  | skipped _ addressed => simp [addressed]
  | sent _ addressed => simp [addressed]
  | absent _ addressed => simp [addressed]

theorem step_dispatcherAlive_iff (codec : TextCodec) (server : ClientConnectServer) (event : Event)
    (alive : DispatcherAlive codec server) :
    DispatcherAlive codec (step codec server event) ↔ TakesAddressed server event := by
  rw [dispatcherAlive_iff]
  cases event with
  | taskTaken now writes =>
      simp only [step, TakesAddressed]
      cases stands : server.distributor with
      | waiting =>
          cases queued : server.taskQueue with
          | nil => simpa using alive.running
          | cons task rest => simpa using takeTask_running_iff task now writes _
      | draining held => simpa using alive.running
      | stopped error => exact absurd stands (alive.running error)
  | _ =>
      refine ⟨fun _ => trivial, fun _ => ?_⟩
      exact step_keeps_running codec server _ (by simp) alive.running

/-- The runs along which the dispatcher stays alive and serves its queue, for all
tasks, clients, outcomes of sending and outcomes of writes, are exactly the runs
on which every task it takes is for a switch or has a text as its client IP. -/
theorem dispatcher_alive_iff (codec : TextCodec) (table : Table) (events : List Event) :
    Along (step codec) (DispatcherAlive codec) (init table) events ↔
      Each (step codec) TakesAddressed (init table) events := by
  have exact_step : ∀ server event, True → DispatcherAlive codec server →
      (DispatcherAlive codec (step codec server event) ↔ TakesAddressed server event) :=
    fun server event _ alive => step_dispatcherAlive_iff codec server event alive
  have initial : DispatcherAlive codec (init table) :=
    (dispatcherAlive_iff codec _).mpr (by simp [init])
  refine along_iff_each ?_ exact_step trivial initial events
  exact fun _ _ _ => trivial

/-- A task without a client IP passes `create_task` and stops the dispatcher. -/
theorem unaddressed_task_stops :
    ¬ Along (step heartbeatCodec) (DispatcherAlive heartbeatCodec) (init [])
      [.createTask [("player", .str "attacker")] "00000a" true, .taskTaken 1 true] := by
  intro along
  exact along.last.running .typeError rfl

end NetworkAdapter.ClientConnectServer
