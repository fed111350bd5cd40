/-!
# State with exceptions

A coroutine between two suspensions, or a method of an object, is a program
over one shared state which may raise. An exception does not undo the writes
made before it was raised; `tryCatch` hands exactly those writes to the handler.
The lemmas here extend the library's simp set of `EStateM.run` so that a body
built from raising, trying and binding is executed symbolically.
-/

namespace NetworkAdapter

/-- A program over a state which returns a value or raises an error. -/
abbrev Effect (Error State Value : Type) := EStateM Error State Value

/-- A computation that returned did so step by step. -/
theorem ok_of_bind {Error Value Result : Type} {first : Except Error Value}
    {next : Value → Except Error Result} {result : Result}
    (returned : (first >>= next) = .ok result) :
    ∃ value, first = .ok value ∧ next value = .ok result := by
  cases first with
  | error error => cases returned
  | ok value => exact ⟨value, rfl, returned⟩

namespace Effect

variable {Error State Value : Type}

/-- Raise the error of a failed pure computation, or return its value. -/
def ofExcept : Except Error Value → Effect Error State Value
  | .ok value => pure value
  | .error error => throw error

/-- The state left behind, whether the program returned or raised. -/
def leaves (program : Effect Error State Value) (state : State) : State :=
  match program.run state with
  | .ok _ after => after
  | .error _ after => after

@[simp] theorem run_raise (error : Error) (state : State) :
    (throw error : Effect Error State Value).run state = .error error state := rfl

@[simp] theorem run_map {Result : Type} (function : Value → Result)
    (program : Effect Error State Value) (state : State) :
    (function <$> program).run state =
      match program.run state with
      | .ok value after => .ok (function value) after
      | .error error after => .error error after := rfl

/-- Nothing is saved for a handler, so it starts from what the body left. -/
@[simp] theorem restore_save (state saved : State) :
    EStateM.Backtrackable.restore state (EStateM.Backtrackable.save saved) = state := rfl

@[simp] theorem run_tryCatch (body : Effect Error State Value)
    (handler : Error → Effect Error State Value) (state : State) :
    (tryCatch body handler : Effect Error State Value).run state =
      match body.run state with
      | .ok value after => .ok value after
      | .error error after => (handler error).run after := by
  show EStateM.tryCatch body handler state = _
  delta EStateM.tryCatch EStateM.run
  cases body state <;> rfl

@[simp] theorem run_ofExcept_ok (value : Value) (state : State) :
    (ofExcept (.ok value) : Effect Error State Value).run state = .ok value state := rfl

@[simp] theorem run_ofExcept_error (error : Error) (state : State) :
    (ofExcept (.error error) : Effect Error State Value).run state = .error error state := rfl

theorem leaves_of_ok {program : Effect Error State Value} {state after : State} {value : Value}
    (returned : program.run state = .ok value after) : program.leaves state = after := by
  simp [leaves, returned]

theorem leaves_of_error {program : Effect Error State Value} {state after : State}
    {error : Error} (raised : program.run state = .error error after) :
    program.leaves state = after := by
  simp [leaves, raised]

end Effect
end NetworkAdapter
