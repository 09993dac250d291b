import NodeFlow.Graph.Basic
import NodeFlow.Template

/-!
# Editing a graph

Adding, removing, connecting and moving nodes, and writing their data. An edit that fails keeps
what it changed before. The output of a number node or a vector node follows its stored fields.
-/

namespace NodeFlow

namespace Node

/-- Gives the ports that have no owner to the node. -/
def claimPorts (node : Node) : Node :=
  { node with
    ports := node.ports.map fun port =>
      if port.owner.isNull then { port with owner := .text node.id } else port }

/-- A group without some of its members; other nodes stay as they are. -/
def prune (gone : List String) (node : Node) : Node :=
  if node.isGroup then { node with members := node.members.filter fun id => !gone.contains id }
  else node

/-- Whether a node outlives the removal of some nodes: it is none of them, and no group that loses
all its members. -/
def survives (gone : List String) (node : Node) : Bool :=
  !gone.contains node.id
    && !(node.isGroup && !node.members.isEmpty && node.members.all fun id => gone.contains id)

/-- The output that a node derives from its stored data when a field is written. -/
def derivedOutput (node : Node) (name : String) (data : Fields) :
    Except ConversionError (Option Value) :=
  if node.kind == Template.number.kind && name == "num" then
    (data.get "num").toNumber.map fun n => some (.ofNumber n)
  else if node.kind == Template.vec3.kind && ["x", "y", "z"].contains name then
    (Vector3.ofFields data).map fun v => some v.toValue
  else .ok none

end Node

namespace Graph

/-- Removes nodes, the edges at them, their memberships, and the groups that this empties. Edges at
such a group stay. -/
def removeNodes (graph : Graph) (gone : List String) : Graph :=
  ((graph.filterNodes (Node.survives gone)).mapNodes (Node.prune gone) (by
      intro node
      unfold Node.prune
      split <;> rfl)).withEdges
    (graph.edges.filter fun edge => !gone.any edge.touches)

/-- Removes the edges of an id. -/
def disconnect (graph : Graph) (id : String) : Graph :=
  graph.withEdges (graph.edges.filter fun edge => edge.id != id)

/-- Adds an edge after the others. -/
def insertEdge (graph : Graph) (edge : Edge) : Graph :=
  graph.withEdges (graph.edges ++ [edge])

theorem mem_insertEdge {graph : Graph} {edge other : Edge} :
    other ∈ (graph.insertEdge edge).edges ↔ other ∈ graph.edges ∨ other = edge := by
  simp [insertEdge, withEdges]

/-- The port at which an edge may begin. -/
def sourcePort? (graph : Graph) (ref : String) : Option Port :=
  graph.port? ref (some Direction.output.tag)

/-- The port at which an edge may end. -/
def targetPort? (graph : Graph) (ref : String) : Option Port :=
  graph.port? ref (some Direction.input.tag)

/-- The first reason against an edge between two references. -/
def connectionError? (graph : Graph) (source target : String) : Option ConnectionError :=
  match graph.sourcePort? source, graph.targetPort? target with
  | some source, some target => Port.connectionError? source target
  | _, _ => some .missingPort

end Graph

namespace Workspace

/-- Adds a node under a new id and keeps its id and those of its ports from being generated. -/
def addNode (node : Node) : Edit Workspace Unit := do
  let graph ← graphNow
  if taken : node.id ∈ graph.nodes.map Node.id then throw (.duplicateNode node.id)
  else
    naming (IdSource.reserve node.id)
    node.ports.forM fun port => naming (IdSource.reserve port.id)
    change fun _ => graph.insertLast node.claimPorts taken

/-- Adds a node under the given id, or under a fresh one. -/
def newNode (id : Option String) (node : Node) : Edit Workspace Node := do
  let id ← match id with
    | some id => pure id
    | none => naming (IdSource.fresh "node")
  addNode { node with id }
  return { node with id }

/-- Creates a node from its template and adds it. -/
def createNode (kind : String) (x y : Value) : Edit Workspace Node := do
  let node ← naming (Node.create kind x y)
  addNode node
  return node

/-- Creates a plain shape and adds it. -/
def createShape (kind : String) (x y : Value) : Edit Workspace Node := do
  let node ← naming (Node.createShape kind x y)
  addNode node
  return node

/-- Removes nodes. -/
def removeNodes (gone : List String) : Edit Workspace Unit :=
  change (·.removeNodes gone)

/-- Removes one node. -/
def removeNode (id : String) : Edit Workspace Unit :=
  removeNodes [id]

/-- Removes everything. -/
def clear : Edit Workspace Unit :=
  change fun _ => Graph.empty

/-- Joins two ports if that is legal. -/
def connect (source target : String) : Edit Workspace (Option Edge) := do
  let graph ← graphNow
  match graph.connectionError? source target with
  | some _ => return none
  | none =>
    let id ← naming (IdSource.fresh "edge")
    let isExec := ((graph.sourcePort? source).map Port.isExec).getD false
    let edge : Edge := ⟨id, .ref source, .ref target, isExec⟩
    change (·.insertEdge edge)
    return some edge

/-- Adds an edge unchecked and keeps its id from being generated. -/
def addEdge (edge : Edge) : Edit Workspace Unit := do
  naming (IdSource.reserve edge.id)
  change (·.insertEdge edge)

/-- Adds an edge unchecked, under a fresh id unless one is given. -/
def newEdge (id : Option String) (source target : Endpoint) (isExec : Bool) :
    Edit Workspace Edge := do
  let id ← match id with
    | some id => pure id
    | none => naming (IdSource.fresh "edge")
  let edge : Edge := ⟨id, source, target, isExec⟩
  addEdge edge
  return edge

/-- Removes the edges of an id. -/
def disconnect (id : String) : Edit Workspace Unit :=
  change (·.disconnect id)

/-- Moves a node; without such a node nothing is read. -/
def moveNode (id : String) (x y : Value) : Edit Workspace Unit := do
  if (← graphNow).contains id then
    let x ← Edit.convert x.toFloat
    let y ← Edit.convert y.toFloat
    change (·.place id x y)

/-- Writes a field of a node's data and nothing else. -/
def setData (id name : String) (value : Value) : Edit Workspace Unit :=
  change (·.changeData id (Keyed.set name value))

/-- Writes a field of a node's data, and the output that follows it. The field stays written if
the output cannot be derived. -/
def setValue (id name : String) (value : Value) : Edit Workspace Unit := do
  match (← graphNow).node? id with
  | none => pure ()
  | some node =>
    let data := node.data.set name value
    setData id name value
    match ← Edit.convert (node.derivedOutput name data) with
    | some output => setData id "v" output
    | none => pure ()

end Workspace

end NodeFlow
