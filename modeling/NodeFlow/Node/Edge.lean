import NodeFlow.Node.Ref
import NodeFlow.Value.Coerce

/-!
# Edges

An edge joins two port references. While it is being dragged, one end may be a point instead; only
an edge between two references is committed.
-/

namespace NodeFlow

/-- One end of an edge. -/
inductive Endpoint where
  | ref (text : String)
  | point (x y : Value)

namespace Endpoint

/-- The node that an end names. -/
def node? : Endpoint → Option String
  | .ref text => some (Ref.node text)
  | .point .. => none

/-- The reference at an end. -/
def ref? : Endpoint → Option String
  | .ref text => some text
  | .point .. => none

/-- The end with its point as binary64 coordinates. -/
def settled : Endpoint → Except ConversionError Endpoint
  | .ref text => .ok (.ref text)
  | .point x y => do return .point (.float (← x.toFloat)) (.float (← y.toFloat))

theorem eq_of_ref? {endpoint : Endpoint} {text : String}
    (named : endpoint.ref? = some text) : endpoint = .ref text := by
  cases endpoint with
  | ref => exact congrArg ref (Option.some.inj named)
  | point => cases named

end Endpoint

/-- An edge. -/
structure Edge where
  id : String
  source : Endpoint
  target : Endpoint
  isExec : Bool

namespace Edge

/-- Whether both ends are references. -/
def isCommitted (edge : Edge) : Bool :=
  edge.source.ref?.isSome && edge.target.ref?.isSome

/-- Whether an end names the node. -/
def touches (node : String) (edge : Edge) : Bool :=
  edge.source.node? == some node || edge.target.node? == some node

/-- The edge with its points as binary64 coordinates. -/
def settled (edge : Edge) : Except ConversionError Edge := do
  return { edge with source := ← edge.source.settled, target := ← edge.target.settled }

end Edge

end NodeFlow
