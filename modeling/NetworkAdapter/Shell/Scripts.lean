import NetworkAdapter.Shell.ArgumentLoop

/-!
# The options of the simulator's scripts

`cmd/mininet.sh`, `cmd/sflow.sh` and `cmd/ryu.sh` read their options in one kind of
loop. Their clauses for `--stop` and `--cli` were written after those for options
with a value and shift as these do, over a parameter that is not theirs. The
simulator itself passes `--stop` alone and the other options in one order.
-/

namespace NetworkAdapter.Shell

/-- `option) target="$2"; shift ;;` -/
def valueClause (option target : String) : Clause := ⟨option, target, .second, 1⟩

/-- `option) target=1; shift ;;` -/
def flagClause (option target : String) : Clause := ⟨option, target, .literal "1", 1⟩

/-- The loop of `mininet.sh`. -/
def mininet : Options where
  clauses :=
    [valueClause "--path" "current_dir", valueClause "--name" "mininet_topo_name",
      flagClause "--stop" "stop", flagClause "--cli" "cli"]
  options := by decide
  targets := by decide

/-- What it starts with in a directory. -/
def mininetDefaults (pwd : String) : Variables :=
  assign [("current_dir", pwd), ("mininet_topo_id", "mini-topologies/Aarnet"),
    ("mininet_topo_name", "Aarnet"), ("stop", "0"), ("cli", "0")]

/-- The loop of `sflow.sh`. -/
def sflow : Options where
  clauses :=
    [valueClause "--path" "current_dir", valueClause "--agent" "agent",
      valueClause "--ip" "controller_ip", valueClause "--port" "controller_port",
      valueClause "--bridge" "bridge", valueClause "--sampling" "sampling",
      valueClause "--polling" "polling", flagClause "--stop" "stop"]
  options := by decide
  targets := by decide

def sflowDefaults (pwd : String) : Variables :=
  assign [("current_dir", pwd), ("agent", "s1-eth0"), ("controller_ip", "127.0.0.1"),
    ("controller_port", "6343"), ("bridge", "s1"), ("sampling", "10"), ("polling", "20"),
    ("stop", "0")]

/-- The loop of `ryu.sh`. -/
def ryu : Options where
  clauses :=
    [valueClause "--path" "current_dir", valueClause "--app_name" "app_name",
      flagClause "--stop" "stop"]
  options := by decide
  targets := by decide

def ryuDefaults (pwd : String) : Variables :=
  assign [("current_dir", pwd), ("app_name", "ddos_simulation_app.py"), ("stop", "0")]

/-- The scripts with options. -/
inductive Script where
  | mininet
  | sflow
  | ryu

namespace Script

def options : Script → Options
  | .mininet => Shell.mininet
  | .sflow => Shell.sflow
  | .ryu => Shell.ryu

def defaults (pwd : String) : Script → Variables
  | .mininet => mininetDefaults pwd
  | .sflow => sflowDefaults pwd
  | .ryu => ryuDefaults pwd

/-- Every clause shifts, whether it has used a value or not. -/
theorem shifts_once (script : Script) : ∀ clause ∈ script.options.clauses, clause.shifts = 1 := by
  cases script <;> decide

/-- The loops terminate. They read a command line as it is meant if and only if no option that
stands alone has another one after it, and in every order if and only if there is no such
option or no other option at all. -/
theorem order_of_options (script : Script) (pwd : String) (line : CommandLine script.options) :
    (∃ final, Ends script.options (line.start (script.defaults pwd)) final) ∧
      (Parses script.options (script.defaults pwd) line ↔ FlagsLast line.arguments) ∧
      (OrderIndependent script.options (script.defaults pwd) line ↔
        (∀ option, Argument.flag option ∉ line.arguments) ∨ line.arguments.length ≤ 1) :=
  ⟨exists_ends _ _, parses_iff script.shifts_once _ line,
    orderIndependent_iff script.shifts_once _ line⟩

end Script

/-- `mininet.sh --cli --name Abilene`. -/
def cliThenName : CommandLine Script.mininet.options where
  arguments := [.flag "--cli", .valued "--name" "Abilene"]
  known := known_of_all (by decide)
  distinct := by decide

/-- The command line starts the default topology and takes the name for an option. -/
theorem cliThenName_ends :
    ∃ final, Ends mininet (cliThenName.start (mininetDefaults "/root/cmd")) final ∧
      final.values "mininet_topo_name" = "Aarnet" ∧
      final.echoed = ["Unknown option: Abilene"] := by
  refine ⟨_, ⟨3, rfl⟩, ?_, ?_⟩ <;> decide +kernel

/-- The topology that is asked for is not the one that is started. -/
theorem cliThenName_order :
    ¬ Parses Script.mininet.options (Script.mininet.defaults "/root/cmd") cliThenName ∧
      ¬ OrderIndependent Script.mininet.options (Script.mininet.defaults "/root/cmd")
        cliThenName := by
  have unread : ¬ Parses Script.mininet.options (Script.mininet.defaults "/root/cmd")
      cliThenName := by
    rintro ⟨⟨final, ended, agrees⟩, -⟩
    obtain ⟨final', ended', name, -⟩ := cliThenName_ends
    obtain rfl := ended.unique ended'
    have meant : Sets Script.mininet.options (.valued "--name" "Abilene") "mininet_topo_name"
        "Abilene" :=
      ⟨valueClause "--name" "mininet_topo_name", by decide, rfl, rfl, rfl, rfl⟩
    have given := agrees.given _ (by decide) _ _ meant
    rw [name] at given
    exact absurd given (by decide)
  exact ⟨unread, fun independent => unread (independent.parses cliThenName (List.Perm.refl _))⟩

/-- A command for one of the scripts. -/
structure Command where
  script : Script
  line : CommandLine script.options

/-- `script --stop`. -/
def stopCommand (script : Script) : Command where
  script := script
  line :=
    { arguments := [.flag "--stop"]
      known := known_of_all (by cases script <;> decide)
      distinct := List.nodup_singleton _ }

/-- The commands of `start_simulator_by_topo`, in their order. -/
def simulatorCommands (projectDir topoName : String) : List Command :=
  let path := projectDir ++ "/cmd"
  [stopCommand .sflow, stopCommand .ryu, stopCommand .mininet,
    { script := .ryu
      line :=
        { arguments := [.valued "--path" path]
          known := known_of_all rfl
          distinct := List.nodup_singleton _ } },
    { script := .mininet
      line :=
        { arguments := [.valued "--name" topoName, .valued "--path" path]
          known := known_of_all rfl
          distinct := by simp [Argument.option] } },
    { script := .sflow
      line :=
        { arguments := [.valued "--path" path]
          known := known_of_all rfl
          distinct := List.nodup_singleton _ } }]

/-- The simulator's own commands are read as they are meant, in any order of their options. -/
theorem simulatorCommands_order (projectDir topoName pwd : String) :
    ∀ command ∈ simulatorCommands projectDir topoName,
      OrderIndependent command.script.options (command.script.defaults pwd) command.line := by
  intro command member
  rw [orderIndependent_iff command.script.shifts_once]
  simp only [simulatorCommands, List.mem_cons, List.not_mem_nil, or_false] at member
  rcases member with rfl | rfl | rfl | rfl | rfl | rfl
  all_goals simp [stopCommand]

end NetworkAdapter.Shell
