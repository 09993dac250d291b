import NodeFlow.Ident
import NodeFlow.Node.Connection
import NodeFlow.Node.Edge

/-!
# Graphs

A graph holds nodes with distinct ids, in drawing order, and edges in the order in which they were
added. Here are its views and the changes that keep the ids distinct. Main statements: what the
changes do to the look-up of nodes.
-/

namespace NodeFlow

/-- A graph. -/
structure Graph where
  nodes : List Node
  edges : List Edge
  distinct : (nodes.map Node.id).Nodup

namespace Graph

theorem eq_of_parts {graph other : Graph} (nodes : graph.nodes = other.nodes)
    (edges : graph.edges = other.edges) : graph = other := by
  cases graph
  cases other
  cases nodes
  cases edges
  rfl

/-- The graph of nothing. -/
def empty : Graph := ⟨[], [], List.nodup_nil⟩

instance : Inhabited Graph := ⟨empty⟩

/-! ## Views -/

/-- The node with an id. -/
def node? (graph : Graph) (id : String) : Option Node :=
  graph.nodes.find? (·.id == id)

/-- Whether the graph has a node with the id. -/
def contains (graph : Graph) (id : String) : Bool :=
  (graph.nodes.map Node.id).contains id

/-- The groups, in order. -/
def groups (graph : Graph) : List Node :=
  graph.nodes.filter (·.isGroup)

/-- The groups that list a node. -/
def groupsContaining (graph : Graph) (id : String) : List Node :=
  graph.groups.filter (·.members.contains id)

/-- The port that a reference names. Given a side, a port of that side is preferred and any other
port of the name comes next. -/
def port? (graph : Graph) (ref : String) (side : Option String) : Option Port := do
  let node ← graph.node? (Ref.node ref)
  (node.port? (Ref.port ref) side).or (node.port? (Ref.port ref) none)

/-- The edges whose target is a reference. -/
def edgesInto (graph : Graph) (ref : String) : List Edge :=
  graph.edges.filter fun edge => edge.target.ref? == some ref

/-- Whether a data edge leads into a port of a node. -/
def isDataConnected (graph : Graph) (node port : String) : Bool :=
  (graph.edgesInto (Ref.make node port)).any fun edge => !edge.isExec

/-- The sizes of the graph, as diagnostics show them. -/
def summary (graph : Graph) : String :=
  "NodeGraph(nodes=" ++ toString graph.nodes.length ++ ", edges=" ++ toString graph.edges.length
    ++ ")"

/-! ## Changes -/

/-- Replaces the edges. -/
def withEdges (graph : Graph) (edges : List Edge) : Graph :=
  { graph with edges }

/-- Changes every node without touching its id. -/
def mapNodes (graph : Graph) (change : Node → Node) (keeps : ∀ node, (change node).id = node.id) :
    Graph where
  nodes := graph.nodes.map change
  edges := graph.edges
  distinct := by
    have same : (graph.nodes.map change).map Node.id = graph.nodes.map Node.id := by
      simp [List.map_map, Function.comp_def, keeps]
    rw [same]
    exact graph.distinct

/-- Changes the data of one node. -/
def changeData (graph : Graph) (id : String) (change : Fields → Fields) : Graph :=
  graph.mapNodes (fun node => if node.id = id then node.withData (change node.data) else node) <| by
    intro node
    split <;> rfl

/-- Moves one node. -/
def place (graph : Graph) (id : String) (x y : Binary64) : Graph :=
  graph.mapNodes (fun node => if node.id = id then { node with x, y } else node) <| by
    intro node
    split <;> rfl

/-- Keeps some of the nodes. -/
def filterNodes (graph : Graph) (keep : Node → Bool) : Graph where
  nodes := graph.nodes.filter keep
  edges := graph.edges
  distinct := graph.distinct.sublist (List.filter_sublist.map Node.id)

/-- Adds a node on top of the others. -/
def insertLast (graph : Graph) (node : Node) (absent : node.id ∉ graph.nodes.map Node.id) :
    Graph where
  nodes := graph.nodes ++ [node]
  edges := graph.edges
  distinct := by
    rw [List.map_append, List.nodup_append]
    refine ⟨graph.distinct, by simp, ?_⟩
    intro id member other last same
    simp only [List.map_cons, List.map_nil, List.mem_singleton] at last
    exact absent (last ▸ same ▸ member)

/-- Adds a node below the others. If its id is taken, the node that has it moves there instead. -/
def insertFirst (graph : Graph) (node : Node) : Graph where
  nodes := (graph.node? node.id).getD node :: graph.nodes.filter fun other => other.id != node.id
  edges := graph.edges
  distinct := by
    have top : ((graph.node? node.id).getD node).id = node.id := by
      cases found : graph.node? node.id with
      | none => rfl
      | some occupant => simpa using List.find?_some found
    rw [List.map_cons, List.nodup_cons, top]
    refine ⟨?_, graph.distinct.sublist (List.filter_sublist.map Node.id)⟩
    simp

/-! ## Look-up after changes -/

theorem id_of_node? {graph : Graph} {id : String} {node : Node} (h : graph.node? id = some node) :
    node.id = id := by
  simpa using List.find?_some h

theorem mem_of_node? {graph : Graph} {id : String} {node : Node} (h : graph.node? id = some node) :
    node ∈ graph.nodes :=
  List.mem_of_find?_eq_some h

theorem node?_eq_none_iff {graph : Graph} {id : String} :
    graph.node? id = none ↔ id ∉ graph.nodes.map Node.id := by
  simp [node?, List.find?_eq_none]

theorem node?_mapNodes (graph : Graph) (id : String) {change : Node → Node}
    (keeps : ∀ node, (change node).id = node.id) :
    (graph.mapNodes change keeps).node? id = (graph.node? id).map change := by
  have same : (fun node : Node => node.id == id) ∘ change = fun node => node.id == id := by
    funext node
    simp [keeps]
  simp only [node?, mapNodes, List.find?_map, same]

theorem node?_insertLast_self {graph : Graph} {node : Node}
    (absent : node.id ∉ graph.nodes.map Node.id) :
    (graph.insertLast node absent).node? node.id = some node := by
  have none : graph.nodes.find? (·.id == node.id) = none := node?_eq_none_iff.2 absent
  simp [node?, insertLast, List.find?_append, none]

theorem node?_insertLast_of_ne {graph : Graph} {node : Node} {id : String}
    (absent : node.id ∉ graph.nodes.map Node.id) (h : id ≠ node.id) :
    (graph.insertLast node absent).node? id = graph.node? id := by
  simp [node?, insertLast, List.find?_append, Ne.symm h]

/-! ## What additions bring -/

theorem mem_insertLast {graph : Graph} {node other : Node}
    {absent : node.id ∉ graph.nodes.map Node.id} :
    other ∈ (graph.insertLast node absent).nodes ↔ other ∈ graph.nodes ∨ other = node := by
  simp [insertLast]

theorem mem_of_insertFirst {graph : Graph} {node other : Node}
    (member : other ∈ (graph.insertFirst node).nodes) : other = node ∨ other ∈ graph.nodes := by
  rcases List.mem_cons.1 member with rfl | later
  · cases found : graph.node? node.id with
    | none => exact .inl rfl
    | some occupant => exact .inr (mem_of_node? found)
  · exact .inr (List.mem_filter.1 later).1

end Graph

/-- What an editor holds: a graph and the counter behind its identifiers. -/
structure Workspace where
  graph : Graph
  ids : IdSource

namespace Workspace

/-- Runs an operation of the counter. -/
def naming {α : Type} (operation : Edit IdSource α) : Edit Workspace α := fun workspace =>
  match operation workspace.ids with
  | .ok result ids => .ok result { workspace with ids }
  | .error error ids => .error error { workspace with ids }

/-- Changes the graph. -/
def change (edit : Graph → Graph) : Edit Workspace Unit :=
  modify fun workspace => { workspace with graph := edit workspace.graph }

/-- Replaces the graph by one that is built from nothing. If building fails the graph stays, but
the identifiers that were generated stay in use. -/
def replacing (build : Edit Workspace Unit) : Edit Workspace Unit := fun workspace =>
  match build ⟨.empty, workspace.ids⟩ with
  | .ok _ built => .ok () built
  | .error error built => .error error { workspace with ids := built.ids }

/-- The graph. -/
def graphNow : Edit Workspace Graph :=
  return (← get).graph

end Workspace

end NodeFlow
