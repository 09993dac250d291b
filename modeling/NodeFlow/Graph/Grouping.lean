import NodeFlow.Graph.Editing

/-!
# Groups

Wrapping nodes in a group, which is drawn below its members with a margin around them, and
dissolving groups again.
-/

namespace NodeFlow

/-- An id as callers name it: a text, or a number that stands for its decimal text. -/
inductive NodeKey where
  | text (s : String)
  | number (n : Int)
  deriving DecidableEq, Repr

/-- The id that is named. -/
def NodeKey.toText : NodeKey → Except ConversionError String
  | text s => .ok s
  | number n => (writeInt n).map String.ofList

namespace Binary64

/-- The least of some numbers: the first one that no later one lies below. -/
def least (first : Binary64) (rest : List Binary64) : Binary64 :=
  rest.foldl (fun best x => if x.lt best then x else best) first

/-- The greatest of some numbers: the first one that no later one exceeds. -/
def greatest (first : Binary64) (rest : List Binary64) : Binary64 :=
  rest.foldl (fun best x => if best.lt x then x else best) first

end Binary64

namespace Graph

/-- The margin of a group. -/
def groupMargin : Binary64 := Node.coordinate 16

/-- The nodes that the keys name, groups and unknown ids left out. A key that is repeated counts
once, but a text and a number may name the same node. -/
def groupable (graph : Graph) (keys : List NodeKey) : Except ConversionError (List Node) := do
  let ids ← keys.eraseDups.mapM NodeKey.toText
  return (ids.filterMap graph.node?).filter fun node => !node.isGroup

/-- A group around some nodes. -/
def groupAround (id label : String) (first : Node) (rest : List Node) : Node :=
  let all := first :: rest
  let left := (Binary64.least first.x (rest.map Node.x)).sub groupMargin
  let top := (Binary64.least first.y (rest.map Node.y)).sub groupMargin
  let right (node : Node) : Binary64 := node.x.add node.w
  let bottom (node : Node) : Binary64 := node.y.add node.h
  let farRight := (Binary64.greatest (right first) (rest.map right)).add groupMargin
  let farBottom := (Binary64.greatest (bottom first) (rest.map bottom)).add groupMargin
  { Node.blank id with
    kind := "group", label, x := left, y := top, w := farRight.sub left, h := farBottom.sub top
    isGroup := true, members := all.map Node.id }

end Graph

namespace Workspace

/-- Wraps nodes in a group below all nodes; nothing happens if the keys name no node. -/
def groupNodes (keys : List NodeKey) (label : String) : Edit Workspace (Option Node) := do
  let graph ← graphNow
  match ← Edit.convert (graph.groupable keys) with
  | [] => return none
  | first :: rest =>
    let id ← naming (IdSource.fresh "node")
    let group := Graph.groupAround id label first rest
    change (·.insertFirst group)
    return some group

/-- Removes a group and keeps its members; other nodes are left alone. -/
def ungroup (id : String) : Edit Workspace Bool := do
  match (← graphNow).node? id with
  | some node =>
    if node.isGroup then
      change (·.filterNodes fun other => other.id != id)
      return true
    else return false
  | none => return false

end Workspace

end NodeFlow
