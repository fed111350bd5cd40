import Mathlib.Data.List.Nodup
import Mathlib.Logic.Function.Basic

/-!
# Loops over the arguments of a shell script

The usual option loop of a script looks at its first parameter, runs the clause of a
`case` statement that names it, and shifts. How many parameters an option takes is
nowhere declared: it is what the clause assigns, and how often it shifts. A loop
whose clauses all shift once reads options with a value in any order. An option
that stands alone is then read for two parameters, which only the end of the
command line hides.
-/

namespace NetworkAdapter.Shell

/-- The variables of a script. One that is not set expands to the empty text. -/
abbrev Variables := String → String

/-- Assignments, one after the other. -/
def assign (assignments : List (String × String)) : Variables :=
  assignments.foldl (fun values assignment =>
    Function.update values assignment.1 assignment.2) fun _ => ""

/-- The right-hand side of a clause's assignment: `"$2"`, or a text of its own. -/
inductive Word where
  | second
  | literal (text : String)
deriving DecidableEq

/-- A clause of the `case` statement: the option it names, its assignment, and the
number of its own `shift` commands. -/
structure Clause where
  option : String
  target : String
  assigned : Word
  shifts : Nat
deriving DecidableEq

/-- The clauses of a loop. No option has two of them and no variable belongs to two. -/
structure Options where
  clauses : List Clause
  options : (clauses.map Clause.option).Nodup
  targets : (clauses.map Clause.target).Nodup

/-- A script inside its loop: its variables, the positional parameters left, and the
lines it has echoed. -/
@[ext] structure LoopState where
  values : Variables
  parameters : List String
  echoed : List String

/-- The text a word expands to. -/
def Word.expand (parameters : List String) : Word → String
  | .second => parameters.getD 1 ""
  | .literal text => text

/-- The body of the loop: the clause of `$1`, or the line about an unknown option, and
then the shift all iterations share. A shift without parameters does nothing. -/
def iterate (options : Options) (state : LoopState) : LoopState :=
  let key := state.parameters.headD ""
  match options.clauses.find? fun clause => clause.option = key with
  | some clause =>
      { state with
        values := Function.update state.values clause.target
          (clause.assigned.expand state.parameters)
        parameters := (state.parameters.drop clause.shifts).drop 1 }
  | none =>
      { state with
        parameters := state.parameters.drop 1
        echoed := state.echoed ++ ["Unknown option: " ++ key] }

/-- `while [[ $# -gt 0 ]]`, for a number of tests. -/
def loop (options : Options) : Nat → LoopState → Option LoopState
  | 0, _ => none
  | tests + 1, state =>
      if 0 < state.parameters.length then loop options tests (iterate options state)
      else some state

/-- The loop terminates, in this state. -/
def Ends (options : Options) (start final : LoopState) : Prop :=
  ∃ tests, loop options tests start = some final

/-- An option as a command line means it: followed by its value, or standing alone. -/
inductive Argument where
  | valued (option value : String)
  | flag (option : String)
deriving DecidableEq

namespace Argument

/-- The option without its value. -/
def option : Argument → String
  | .valued option _ => option
  | .flag option => option

/-- The parameters it is written as. -/
def tokens : Argument → List String
  | .valued option value => [option, value]
  | .flag option => [option]

end Argument

/-- The parameters of a command line. -/
def tokens (arguments : List Argument) : List String := arguments.flatMap Argument.tokens

/-- The clause reads the argument as it is meant, for this value. -/
def Clause.Takes (clause : Clause) : Argument → String → Prop
  | .valued option given, value =>
      clause.option = option ∧ clause.assigned = .second ∧ value = given
  | .flag option, value => clause.option = option ∧ clause.assigned = .literal value

/-- What an argument is meant to do: give this variable this value. -/
def Sets (options : Options) (argument : Argument) (target value : String) : Prop :=
  ∃ clause ∈ options.clauses, clause.target = target ∧ clause.Takes argument value

/-- The test whether a clause reads the option as it is meant. -/
def Options.knows (options : Options) (argument : Argument) : Bool :=
  options.clauses.any fun clause => clause.option = argument.option &&
    match argument, clause.assigned with
    | .valued _ _, .second => true
    | .flag _, .literal _ => true
    | _, _ => false

/-- A command line of options the loop knows, none of them twice. -/
structure CommandLine (options : Options) where
  arguments : List Argument
  known : ∀ argument ∈ arguments, ∃ target value, Sets options argument target value
  distinct : (arguments.map Argument.option).Nodup

/-- Every variable has the value the arguments give it, or the one it had. -/
structure Agrees (options : Options) (defaults : Variables) (arguments : List Argument)
    (values : Variables) : Prop where
  given : ∀ argument ∈ arguments, ∀ target value, Sets options argument target value →
    values target = value
  default : ∀ target, (∀ argument ∈ arguments, ∀ value, ¬ Sets options argument target value) →
    values target = defaults target

/-- An iteration that comes to an option standing alone leaves the options after it. -/
def NeverConsumes (options : Options) (arguments : List Argument) : Prop :=
  ∀ before option after, arguments = before ++ .flag option :: after →
    ∀ state : LoopState, state.parameters = tokens (.flag option :: after) →
      (iterate options state).parameters = tokens after

/-- No option that stands alone has another one after it. -/
def FlagsLast (arguments : List Argument) : Prop :=
  ∀ before option after, arguments = before ++ .flag option :: after → after = []

section Termination

variable {options : Options}

/-- Every iteration shifts at least once. -/
theorem length_iterate {state : LoopState} (some : 0 < state.parameters.length) :
    (iterate options state).parameters.length < state.parameters.length := by
  unfold iterate
  dsimp only
  split <;> simp only [List.length_drop] <;> omega

/-- One test more than there are parameters is enough. -/
theorem loop_isSome {tests : Nat} {state : LoopState}
    (enough : state.parameters.length < tests) : (loop options tests state).isSome := by
  induction tests generalizing state with
  | zero => exact absurd enough (Nat.not_lt_zero _)
  | succ tests inductionHypothesis =>
      rw [loop]
      split
      · next some =>
          have shorter : (iterate options state).parameters.length < state.parameters.length :=
            length_iterate some
          exact inductionHypothesis (by omega)
      · rfl

/-- The loop terminates on any parameters. -/
theorem exists_ends (options : Options) (start : LoopState) :
    ∃ final, Ends options start final := by
  have some : (loop options (start.parameters.length + 1) start).isSome :=
    loop_isSome (Nat.lt_succ_self _)
  obtain ⟨final, ended⟩ := Option.isSome_iff_exists.mp some
  exact ⟨final, _, ended⟩

theorem Ends.unique {start first second : LoopState} (one : Ends options start first)
    (other : Ends options start second) : first = second := by
  obtain ⟨tests, one⟩ := one
  obtain ⟨tests', other⟩ := other
  induction tests generalizing start tests' with
  | zero => cases one
  | succ tests inductionHypothesis =>
      cases tests' with
      | zero => cases other
      | succ tests' =>
          rw [loop] at one other
          split at one
          · next some =>
              rw [if_pos some] at other
              exact inductionHypothesis one tests' other
          · next none =>
              rw [if_neg none] at other
              exact Option.some.inj (one.symm.trans other)

theorem ends_nil {state : LoopState} (nothing : state.parameters = []) :
    Ends options state state :=
  ⟨1, by simp [loop, nothing]⟩

theorem Ends.step {start final : LoopState} (some : 0 < start.parameters.length)
    (ended : Ends options (iterate options start) final) : Ends options start final := by
  obtain ⟨tests, ended⟩ := ended
  exact ⟨tests + 1, by rw [loop, if_pos some, ended]⟩

end Termination

@[simp] theorem tokens_cons (argument : Argument) (rest : List Argument) :
    tokens (argument :: rest) = argument.tokens ++ tokens rest := rfl

theorem tokens_eq_nil {arguments : List Argument} : tokens arguments = [] ↔ arguments = [] := by
  cases arguments with
  | nil => simp [tokens]
  | cons argument rest => cases argument <;> simp [Argument.tokens]

section Meaning

variable {options : Options} {argument : Argument} {target value : String}

theorem Clause.Takes.option {clause : Clause} (takes : clause.Takes argument value) :
    clause.option = argument.option := by
  cases argument with
  | valued option given => exact takes.1
  | flag option => exact takes.1

/-- Options that pass the test have a meaning. -/
theorem known_of_all {arguments : List Argument} (all : arguments.all options.knows = true) :
    ∀ argument ∈ arguments, ∃ target value, Sets options argument target value := by
  intro argument member
  obtain ⟨clause, inside, passes⟩ := List.any_eq_true.mp (List.all_eq_true.mp all argument member)
  obtain ⟨same, fits⟩ := Bool.and_eq_true_iff.mp passes
  have named := of_decide_eq_true same
  cases argument with
  | valued option given =>
      cases assigned : clause.assigned with
      | second => exact ⟨clause.target, given, clause, inside, rfl, named, assigned, rfl⟩
      | literal text => simp [assigned] at fits
  | flag option =>
      cases assigned : clause.assigned with
      | second => simp [assigned] at fits
      | literal text => exact ⟨clause.target, text, clause, inside, rfl, named, assigned⟩

/-- An option has one meaning. -/
theorem Sets.unique {target' value' : String} (one : Sets options argument target value)
    (other : Sets options argument target' value') : target = target' ∧ value = value' := by
  obtain ⟨clause, member, rfl, takes⟩ := one
  obtain ⟨clause', member', rfl, takes'⟩ := other
  obtain rfl : clause = clause' := List.inj_on_of_nodup_map options.options member member'
    (takes.option.trans takes'.option.symm)
  refine ⟨rfl, ?_⟩
  cases argument with
  | valued option given => exact takes.2.2.trans takes'.2.2.symm
  | flag option => exact Word.literal.inj (takes.2.symm.trans takes'.2)

/-- Two options do not mean the same variable. -/
theorem Sets.option_eq {argument' : Argument} {value' : String}
    (one : Sets options argument target value) (other : Sets options argument' target value') :
    argument.option = argument'.option := by
  obtain ⟨clause, member, same, takes⟩ := one
  obtain ⟨clause', member', same', takes'⟩ := other
  obtain rfl : clause = clause' := List.inj_on_of_nodup_map options.targets member member'
    (same.trans same'.symm)
  exact takes.option.symm.trans takes'.option

/-- What agrees with the same arguments is the same. -/
theorem Agrees.unique {defaults values values' : Variables} {arguments arguments' : List Argument}
    (one : Agrees options defaults arguments values)
    (other : Agrees options defaults arguments' values')
    (same : ∀ argument, argument ∈ arguments ↔ argument ∈ arguments') : values = values' := by
  funext target
  by_cases meant : ∃ argument ∈ arguments, ∃ value, Sets options argument target value
  · obtain ⟨argument, member, value, sets⟩ := meant
    rw [one.given argument member target value sets,
      other.given argument ((same argument).mp member) target value sets]
  · have unmeant : ∀ argument ∈ arguments, ∀ value, ¬ Sets options argument target value :=
      fun argument member value sets => meant ⟨argument, member, value, sets⟩
    rw [one.default target unmeant, other.default target fun argument member =>
      unmeant argument ((same argument).mpr member)]

/-- The first argument is read, and the others after it. -/
theorem Agrees.cons {values final : Variables} {rest : List Argument}
    (sets : Sets options argument target value)
    (fresh : argument.option ∉ rest.map Argument.option)
    (others : Agrees options (Function.update values target value) rest final) :
    Agrees options values (argument :: rest) final := by
  have untouched : ∀ later ∈ rest, ∀ value', ¬ Sets options later target value' :=
    fun later member value' sets' =>
      fresh (sets.option_eq sets' ▸ List.mem_map_of_mem member)
  have kept : final target = value := by
    rw [others.default target untouched, Function.update_self]
  constructor
  · intro argument' member target' value' sets'
    rcases List.mem_cons.mp member with rfl | later
    · obtain ⟨rfl, rfl⟩ := sets.unique sets'
      exact kept
    · exact others.given argument' later target' value' sets'
  · intro target' unmeant
    have apart : target' ≠ target := by
      rintro rfl
      exact unmeant argument List.mem_cons_self value sets
    rw [others.default target' fun later member => unmeant later (List.mem_cons_of_mem _ member),
      Function.update_of_ne apart]

end Meaning

section Reading

variable {options : Options}

/-- A clause is found by its option. -/
theorem find_option {clause : Clause} (member : clause ∈ options.clauses) :
    (options.clauses.find? fun other => other.option = clause.option) = some clause := by
  obtain ⟨before, after, same⟩ := List.append_of_mem member
  rw [List.find?_eq_some_iff_append]
  refine ⟨by simp, before, after, same, fun other earlier => ?_⟩
  have distinct := options.options
  rw [same, List.map_append, List.map_cons, List.nodup_middle, List.nodup_cons] at distinct
  have apart : other.option ≠ clause.option := fun equal =>
    distinct.1 (equal ▸ List.mem_append_left _ (List.mem_map_of_mem earlier))
  simp [apart]

/-- What is left of the parameters after an argument when every clause shifts once: an
option standing alone is shifted over twice as well. -/
def Argument.leaves : Argument → List String → List String
  | .valued _ _, rest => rest
  | .flag _, rest => rest.drop 1

variable (once : ∀ clause ∈ options.clauses, clause.shifts = 1)
include once

/-- One iteration does what the argument means and shifts twice. -/
theorem iterate_argument {argument : Argument} {target value : String}
    (sets : Sets options argument target value) {state : LoopState} {rest : List String}
    (parameters : state.parameters = argument.tokens ++ rest) :
    iterate options state =
      { values := Function.update state.values target value
        parameters := argument.leaves rest
        echoed := state.echoed } := by
  obtain ⟨clause, member, rfl, takes⟩ := sets
  have key : state.parameters.headD "" = clause.option := by
    rw [parameters, takes.option]
    cases argument <;> rfl
  unfold iterate
  simp only [key, find_option member, once clause member]
  cases argument with
  | valued option given =>
      obtain ⟨-, second, rfl⟩ := takes
      simp [parameters, second, Word.expand, Argument.tokens, Argument.leaves]
  | flag option =>
      obtain ⟨-, literal⟩ := takes
      simp [parameters, literal, Word.expand, Argument.tokens, Argument.leaves]

/-- A known option standing alone swallows what follows it, so nothing may. -/
theorem neverConsumes_iff (line : CommandLine options) :
    NeverConsumes options line.arguments ↔ FlagsLast line.arguments := by
  have iterated (before : List Argument) (option : String) (after : List Argument)
      (split : line.arguments = before ++ .flag option :: after) (state : LoopState)
      (parameters : state.parameters = tokens (.flag option :: after)) :
      (iterate options state).parameters = (tokens after).drop 1 := by
    have member : Argument.flag option ∈ line.arguments := by simp [split]
    obtain ⟨target, value, sets⟩ := line.known _ member
    rw [iterate_argument once sets parameters]
    rfl
  constructor
  · intro unconsumed before option after split
    have left := unconsumed before option after split ⟨fun _ => "", _, []⟩ rfl
    rw [iterated before option after split _ rfl] at left
    have lengths := congrArg List.length left
    rw [List.length_drop] at lengths
    exact tokens_eq_nil.mp (List.length_eq_zero_iff.mp (by omega))
  · intro last before option after split state parameters
    rw [iterated before option after split state parameters, last before option after split]
    rfl

theorem ends_agrees {arguments : List Argument}
    (known : ∀ argument ∈ arguments, ∃ target value, Sets options argument target value)
    (distinct : (arguments.map Argument.option).Nodup) (last : FlagsLast arguments)
    {state : LoopState} (parameters : state.parameters = tokens arguments) :
    ∃ final, Ends options state final ∧ Agrees options state.values arguments final.values ∧
      final.parameters = [] ∧ final.echoed = state.echoed := by
  induction arguments generalizing state with
  | nil =>
      have nothing : state.parameters = [] := parameters
      exact ⟨state, ends_nil nothing, ⟨by simp, fun _ _ => rfl⟩, nothing, rfl⟩
  | cons argument rest inductionHypothesis =>
      obtain ⟨target, value, sets⟩ := known argument List.mem_cons_self
      obtain ⟨fresh, distinct⟩ := List.nodup_cons.mp distinct
      have lastRest : FlagsLast rest := fun before option after split =>
        last (argument :: before) option after (by rw [split, List.cons_append])
      have left : argument.leaves (tokens rest) = tokens rest := by
        cases argument with
        | valued option given => rfl
        | flag option =>
            rw [last [] option rest rfl]
            rfl
      rw [tokens_cons] at parameters
      have iterated := iterate_argument once sets parameters
      rw [left] at iterated
      obtain ⟨final, ended, agrees, nothing, silent⟩ := inductionHypothesis
        (fun later member => known later (List.mem_cons_of_mem _ member)) distinct lastRest
        (congrArg LoopState.parameters iterated)
      rw [iterated] at agrees silent
      have some : 0 < state.parameters.length := by
        rw [parameters]
        cases argument <;> simp [Argument.tokens]
      exact ⟨final, ended.step some, agrees.cons sets fresh, nothing, silent⟩

end Reading

/-- A script at its loop. -/
def CommandLine.start {options : Options} (line : CommandLine options) (defaults : Variables) :
    LoopState := ⟨defaults, tokens line.arguments, []⟩

/-- The loop reads a command line as it is meant. -/
structure Parses (options : Options) (defaults : Variables) (line : CommandLine options) :
    Prop where
  ends : ∃ final, Ends options (line.start defaults) final ∧
    Agrees options defaults line.arguments final.values
  unconsumed : NeverConsumes options line.arguments

/-- It does so in whatever order the options stand, and with one result. -/
structure OrderIndependent (options : Options) (defaults : Variables)
    (line : CommandLine options) : Prop where
  parses : ∀ permuted : CommandLine options, permuted.arguments.Perm line.arguments →
    Parses options defaults permuted
  same : ∀ permuted : CommandLine options, permuted.arguments.Perm line.arguments →
    ∀ first second, Ends options (permuted.start defaults) first →
      Ends options (line.start defaults) second → first = second

section OrderIndependent

variable {options : Options} (once : ∀ clause ∈ options.clauses, clause.shifts = 1)
include once

theorem parses_iff (defaults : Variables) (line : CommandLine options) :
    Parses options defaults line ↔ FlagsLast line.arguments := by
  refine ⟨fun parses => (neverConsumes_iff once line).mp parses.unconsumed, fun last => ?_⟩
  have parameters : (line.start defaults).parameters = tokens line.arguments := rfl
  obtain ⟨final, ended, agrees, -, -⟩ := ends_agrees once line.known line.distinct last parameters
  exact ⟨⟨final, ended, agrees⟩, (neverConsumes_iff once line).mpr last⟩

/-- Read as they are meant, the same options in two orders have one result. -/
theorem ends_eq_of_perm {defaults : Variables} {line permuted : CommandLine options}
    (lastLine : FlagsLast line.arguments) (lastPermuted : FlagsLast permuted.arguments)
    (perm : permuted.arguments.Perm line.arguments) {first second : LoopState}
    (one : Ends options (permuted.start defaults) first)
    (other : Ends options (line.start defaults) second) : first = second := by
  have parameters (line : CommandLine options) :
      (line.start defaults).parameters = tokens line.arguments := rfl
  obtain ⟨final, ended, agrees, nothing, silent⟩ :=
    ends_agrees once permuted.known permuted.distinct lastPermuted (parameters permuted)
  obtain ⟨final', ended', agrees', nothing', silent'⟩ :=
    ends_agrees once line.known line.distinct lastLine (parameters line)
  obtain rfl := one.unique ended
  obtain rfl := other.unique ended'
  have values := agrees.unique agrees' fun argument => perm.mem_iff
  exact LoopState.ext values (nothing.trans nothing'.symm) (silent.trans silent'.symm)

theorem orderIndependent_iff (defaults : Variables) (line : CommandLine options) :
    OrderIndependent options defaults line ↔
      (∀ option, Argument.flag option ∉ line.arguments) ∨ line.arguments.length ≤ 1 := by
  constructor
  · intro independent
    by_contra neither
    obtain ⟨flags, several⟩ := not_or.mp neither
    obtain ⟨option, present⟩ := not_forall.mp flags
    have member := not_not.mp present
    -- The option that stands alone, put in front, swallows the next one.
    have perm := List.perm_cons_erase member
    let permuted : CommandLine options :=
      { arguments := .flag option :: line.arguments.erase (.flag option)
        known := fun argument inside => line.known argument (perm.mem_iff.mpr inside)
        distinct := (perm.map Argument.option).nodup_iff.mp line.distinct }
    have last := (parses_iff once defaults permuted).mp (independent.parses permuted perm.symm)
    have nothing := last [] option _ rfl
    have lengths := perm.length_eq
    rw [nothing, List.length_singleton] at lengths
    omega
  · intro condition
    have lastPermuted (permuted : CommandLine options)
        (perm : permuted.arguments.Perm line.arguments) : FlagsLast permuted.arguments := by
      intro before option after split
      rcases condition with none | single
      · exact absurd (perm.mem_iff.mp (by simp [split])) (none option)
      · have lengths := perm.length_eq
        rw [split, List.length_append, List.length_cons] at lengths
        exact List.length_eq_zero_iff.mp (by omega)
    constructor
    · intro permuted perm
      exact (parses_iff once defaults permuted).mpr (lastPermuted permuted perm)
    · intro permuted perm first second
      exact ends_eq_of_perm once (lastPermuted line (List.Perm.refl _))
        (lastPermuted permuted perm) perm

end OrderIndependent
end NetworkAdapter.Shell
