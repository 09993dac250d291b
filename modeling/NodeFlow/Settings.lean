import NodeFlow.Numeral
import NodeFlow.Text.Upper

/-!
# Settings

The settings that the environment gives: what is logged, how long a log line may be, and the budget
of a run. A setting that is absent, empty or malformed has its default.
-/

namespace NodeFlow

/-- The settings of the program. -/
structure Settings where
  logLevel : String
  /-- The greatest length of a log line; zero for no limit. -/
  logMaxLen : Int
  maxExecSteps : Int
  deriving DecidableEq, Repr

namespace Settings

/-- The settings without an environment. -/
def default : Settings := ⟨"WARNING", 0, 10000⟩

/-- A variable that is set and not empty. -/
def held? (env : String → Option String) (name : String) : Option String :=
  (env name).filter fun text => !text.isEmpty

/-- A variable that holds a whole number. -/
def number? (env : String → Option String) (name : String) : Option Int :=
  (held? env name).bind fun text => (readInteger text).toOption

/-- The settings of an environment. -/
def ofEnvironment (env : String → Option String) : Settings where
  logLevel := Text.upper ((held? env "LOGICGRAPH_LOG_LEVEL").getD default.logLevel)
  logMaxLen := max 0 ((number? env "LOGICGRAPH_LOG_MAX_LEN").getD default.logMaxLen)
  maxExecSteps :=
    ((number? env "LOGICGRAPH_MAX_EXEC_STEPS").filter fun n => 0 < n).getD default.maxExecSteps

/-- A budget from the environment is positive. -/
theorem maxExecSteps_pos (env : String → Option String) :
    0 < (ofEnvironment env).maxExecSteps := by
  simp only [ofEnvironment]
  cases found : (number? env "LOGICGRAPH_MAX_EXEC_STEPS").filter fun n => 0 < n with
  | none => decide
  | some n => simpa using (Option.filter_eq_some_iff.1 found).2

end Settings

end NodeFlow
