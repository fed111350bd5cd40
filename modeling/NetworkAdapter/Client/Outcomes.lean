import NetworkAdapter.Client.TaskController

/-!
# What a client reports of a task

The report of an execution is the task with its result or its error written into it, so the
server can file it under the id it gave out. The exception are tasks that name no action:
`execute_task` returns `None` for them, and so does the report.
-/

namespace NetworkAdapter

/-- The task names one of the three actions there are. -/
def NamesAction (fields : JsonObject) : Prop :=
  TaskController.Asks fields "attacker" "host_scan" ∨
    TaskController.Asks fields "attacker" "host_attack" ∨
      TaskController.Asks fields "defender" "host_deception"

/-- The data of the result that `process_tasks` makes of an execution, if it can. -/
def Client.reportData (task : Json) (outcome : Except String Json) : Option Json :=
  match outcome with
  | .ok processed => some processed
  | .error text => (markFailed task text).toOption

namespace TaskController

/-- A program that does not return `None`. -/
def NeverNull (program : Effect String TaskController Json) : Prop :=
  ∀ state after, program.run state ≠ .ok .null after

theorem NeverNull.bind {Value : Type} {first : Effect String TaskController Value}
    {next : Value → Effect String TaskController Json} (later : ∀ value, NeverNull (next value)) :
    NeverNull (first >>= next) := by
  intro state after
  rw [EStateM.run_bind]
  cases first.run state with
  | ok value middle => exact later value middle after
  | error text middle => nofun

theorem neverNull_task (fields : JsonObject) : NeverNull (pure (.obj fields)) := by
  intro state after same
  simp at same

theorem neverNull_succeed (platform : Platform) (fields : JsonObject) (result : Json) :
    NeverNull (Effect.ofExcept (succeed platform (.obj fields) result)) := by
  intro state after same
  simp [succeed] at same

variable {platform : Platform} {fields : JsonObject}

theorem hostScan_neverNull : NeverNull (hostScan platform (.obj fields)) := by
  refine .bind fun target => ?_
  split
  · exact neverNull_task fields
  · exact .bind fun result => .bind fun _ => neverNull_succeed platform fields result

theorem hostAttack_neverNull : NeverNull (hostAttack platform (.obj fields)) := by
  refine .bind fun target => ?_
  split
  · exact neverNull_task fields
  · exact .bind fun kind => .bind fun given => .bind fun duration => .bind fun result =>
      neverNull_succeed platform fields (.bool result)

theorem hostDeception_neverNull : NeverNull (hostDeception platform (.obj fields)) :=
  .bind fun _ => .bind fun _ => .bind fun _ => .bind fun _ => .bind fun _ => .bind fun _ =>
    .bind fun result => neverNull_succeed platform fields result

/-- A task that names an action does not come to nothing. -/
theorem executeTask_neverNull (names : NamesAction fields) :
    NeverNull (executeTask platform (.obj fields)) := by
  intro state after
  have read {key : String} {value : Json} (found : Fields.get? fields key = some value) :
      platform.subscript (.obj fields) key = .ok value := subscript_eq_ok.mpr found
  unfold executeTask
  rcases names with ⟨player, name⟩ | ⟨player, name⟩ | ⟨player, name⟩
  · simpa [read player, read name, Json.equals] using hostScan_neverNull state after
  · simpa [read player, read name, Json.equals] using hostAttack_neverNull state after
  · simpa [read player, read name, Json.equals] using hostDeception_neverNull state after

/-- What is reported of a task carries its id, or is nothing. -/
theorem report_of_outcome {controller : TaskController} {data : Json}
    (reports : Client.reportData (.obj fields) (outcome platform (.obj fields) controller) =
      some data) :
    data = .null ∧ ¬ NamesAction fields ∨
      ∃ object, data = .obj object ∧
        Fields.get? object "task_id" = Fields.get? fields "task_id" := by
  have comes := executeTask_comes platform fields controller
  have named (names : NamesAction fields) : ∀ after,
      (executeTask platform (.obj fields)).run controller ≠ .ok .null after :=
    executeTask_neverNull names controller
  unfold outcome at reports
  generalize (executeTask platform (.obj fields)).run controller = result at comes named reports
  cases comes with
  | raised =>
      cases reports
      exact .inr ⟨_, rfl, by simp⟩
  | nothing =>
      cases reports
      exact .inl ⟨rfl, fun names => named names _ rfl⟩
  | untouched =>
      cases reports
      exact .inr ⟨_, rfl, rfl⟩
  | pretended =>
      cases reports
      exact .inr ⟨_, rfl, by simp [succeeded]⟩
  | performed =>
      cases reports
      exact .inr ⟨_, rfl, by simp [succeeded]⟩

end TaskController
end NetworkAdapter
