import NodeFlow.Node.Basic
import NodeFlow.Value.Equality

/-!
# Legal connections

Which ports may be joined: an output with an input, both of them exec ports or both data ports,
and data ports only of one type unless one side takes any. Main statement: exactly those are.
-/

namespace NodeFlow

/-- Why two ports cannot be joined. -/
inductive ConnectionError where
  | missingPort
  | sourceNotOutput
  | targetNotInput
  | execMismatch
  | typeMismatch
  deriving DecidableEq, Repr

/-- The wording of a refusal. -/
def ConnectionError.message : ConnectionError → String
  | missingPort => "One of the ports does not exist."
  | sourceNotOutput => "Source port must be an output."
  | targetNotInput => "Target port must be an input."
  | execMismatch => "Exec ports can only connect to exec ports."
  | typeMismatch => "Incompatible port data types."

namespace Port

/-- Whether data can flow between ports of these types. -/
def compatible (source target : Port) : Bool :=
  source.type.isText PortType.any.tag || target.type.isText PortType.any.tag
    || source.type.same false target.type

/-- The first reason against an edge from one port to another. -/
def connectionError? (source target : Port) : Option ConnectionError :=
  if !source.faces Direction.output.tag then some .sourceNotOutput
  else if !target.faces Direction.input.tag then some .targetNotInput
  else if source.isExec != target.isExec then some .execMismatch
  else if source.isExec || source.compatible target then none
  else some .typeMismatch

theorem connectionError?_eq_none_iff (source target : Port) :
    connectionError? source target = none ↔
      source.faces Direction.output.tag = true ∧ target.faces Direction.input.tag = true ∧
        source.isExec = target.isExec ∧
          (source.isExec = false → source.compatible target = true) := by
  cases hs : source.faces Direction.output.tag <;> cases ht : target.faces Direction.input.tag <;>
    cases he : source.isExec <;> cases hf : target.isExec <;> simp [connectionError?, hs, ht, he, hf]

end Port

end NodeFlow
