import NodeFlow.Evaluation.Basic

/-!
# Registries of evaluators

Which evaluator a kind of node has. A kind keeps its place when it gets another evaluator. Main
statement: the last definition of a kind is the one that counts.
-/

namespace NodeFlow

/-- The evaluators by kind, in the order in which the kinds were first defined. -/
structure Registry where
  entries : Keyed Evaluator

namespace Registry

/-- No evaluators. -/
def empty : Registry := ⟨[]⟩

/-- Gives a kind an evaluator. -/
def define (registry : Registry) (kind : String) (evaluator : Evaluator) : Registry :=
  ⟨registry.entries.set kind evaluator⟩

/-- The evaluator of a kind. -/
def get? (registry : Registry) (kind : String) : Option Evaluator :=
  registry.entries.get? kind

/-- The defined kinds, in order. -/
def kinds (registry : Registry) : List String :=
  registry.entries.map (·.1)

/-- The built-in kinds with their evaluators. -/
def builtin : Registry :=
  Builtin.all.foldl (fun registry kind => registry.define kind.kind (.builtin kind)) empty

/-- Evaluates a node; a kind without an evaluator has no outputs. -/
def evaluate (registry : Registry) (node : Node) (inputs : Fields) : Evaluation :=
  ((registry.get? node.kind).map fun evaluator => evaluator.evaluate node inputs).getD .nothing

theorem get?_define_self (registry : Registry) (kind : String) (evaluator : Evaluator) :
    (registry.define kind evaluator).get? kind = some evaluator :=
  Keyed.get?_set_self _ _ _

theorem get?_define_of_ne (registry : Registry) {kind other : String} (evaluator : Evaluator)
    (h : other ≠ kind) : (registry.define kind evaluator).get? other = registry.get? other :=
  Keyed.get?_set_of_ne _ _ h

end Registry

end NodeFlow
