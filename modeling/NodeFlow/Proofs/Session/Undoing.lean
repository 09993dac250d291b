import NodeFlow.Proofs.Session.Identifiers

/-!
# Joining and grouping undone

To disconnect an edge takes every edge of its id, and a group that came under the id of a node would
take that node's place. Both are harmless as long as what is generated is new. Main statement: in
every state that client code can bring about, an edge that has just joined two ports can be
disconnected and a group that was just made can be dissolved, and the graph is what it was before.
If no edge and no group comes about, nothing has happened.
-/

namespace NodeFlow

namespace Graph

variable {graph : Graph}

/-- With the id of a new edge only that edge is disconnected. -/
theorem disconnect_insertEdge {edge : Edge} (new : edge.id ∉ graph.edges.map Edge.id) :
    (graph.insertEdge edge).disconnect edge.id = graph := by
  refine eq_of_parts rfl ?_
  show (graph.edges ++ [edge]).filter (fun other => other.id != edge.id) = graph.edges
  rw [List.filter_append, filter_ne_of_absent Edge.id new, List.filter_cons_of_neg (by simp),
    List.filter_nil, List.append_nil]

/-- Without the node that was put below the others the nodes are as before, in their order. -/
theorem filterNodes_insertFirst {node : Node} (new : node.id ∉ graph.nodes.map Node.id) :
    (graph.insertFirst node).filterNodes (fun other => other.id != node.id) = graph := by
  refine eq_of_parts ?_ rfl
  show (graph.insertFirst node).nodes.filter (fun other => other.id != node.id) = graph.nodes
  rw [nodes_insertFirst new, List.filter_cons_of_neg (by simp), filter_ne_of_absent Node.id new]

end Graph

namespace Workspace

variable {before : Workspace} {history : List IdEvent}

/-- Disconnecting the edge that was added brings the graph back; without an edge nothing was
changed. -/
def Disconnects (before : Workspace) : Option Edge → Workspace → Prop
  | none, later => later = before
  | some edge, later => disconnect edge.id later = .ok () ⟨before.graph, later.ids⟩

/-- Dissolving the group that was added succeeds and brings the graph back; without a group nothing
was changed. -/
def Dissolves (before : Workspace) : Option Node → Workspace → Prop
  | none, later => later = before
  | some group, later => ungroup group.id later = .ok true ⟨before.graph, later.ids⟩

theorem ungroup_of_group {id : String} {node : Node} (found : before.graph.node? id = some node)
    (isGroup : node.isGroup = true) : ungroup id before =
      .ok true ⟨before.graph.filterNodes fun other => other.id != id, before.ids⟩ := by
  have ends : Edit.Ends (ungroup id) (fun done after => done = true ∧
      after = ⟨before.graph.filterNodes fun other => other.id != id, before.ids⟩)
      (fun _ => False) before := by
    refine ends_ungroup (fun _ _ _ => ⟨rfl, rfl⟩) fun plain => ?_
    rw [plain node found] at isGroup
    cases isGroup
  obtain ⟨_, _, outcome, rfl, rfl⟩ := ends.of_passes not_false
  exact outcome

theorem change_eq_ok (edit : Graph → Graph) (before : Workspace) :
    change edit before = .ok () { before with graph := edit before.graph } := rfl

/-- The identifier that comes next belongs to no part of the graph. -/
theorem Past.next_not_mem (past : before.Past history) (label : String) :
    IdSource.generated label (before.ids.last + 1) ∉ before.graph.ids :=
  fun listed => IdSource.not_covers_next before.ids label (past.present _ listed)

theorem Past.ends_connect (past : before.Past history) (source target : String) :
    Edit.Ends (connect source target) before.Disconnects
      (fun later => later.graph = before.graph) before := by
  refine Workspace.ends_connect (fun _ => rfl) (fun _ _ => ?_) fun _ => rfl
  have new : IdSource.generated "edge" (before.ids.last + 1) ∉ before.graph.edges.map Edge.id := by
    intro listed
    obtain ⟨edge, inGraph, same⟩ := List.mem_map.1 listed
    exact past.next_not_mem "edge" (Graph.mem_ids_iff.2 (.inr ⟨edge, inGraph, same⟩))
  dsimp only [Disconnects]
  rw [disconnect, change_eq_ok, Graph.disconnect_insertEdge new]

theorem Past.ends_groupNodes (past : before.Past history) (keys : List NodeKey) (label : String) :
    Edit.Ends (groupNodes keys label) before.Dissolves
      (fun later => later.graph = before.graph) before := by
  refine Workspace.ends_groupNodes (fun _ _ => rfl) (fun _ => rfl) (fun first rest _ _ => ?_)
    fun _ => rfl
  have new : IdSource.generated "node" (before.ids.last + 1) ∉ before.graph.nodes.map Node.id := by
    intro listed
    obtain ⟨node, inGraph, same⟩ := List.mem_map.1 listed
    have mark : IdSource.generated "node" (before.ids.last + 1) ∈ node.marks :=
      same ▸ List.mem_cons_self
    exact past.next_not_mem "node" (Graph.mem_ids_iff.2 (.inl ⟨node, inGraph, mark⟩))
  dsimp only [Dissolves]
  generalize shape : Graph.groupAround _ label first rest = group
  have sameId : group.id = IdSource.generated "node" (before.ids.last + 1) := shape ▸ rfl
  rw [← sameId] at new
  have found : (before.graph.insertFirst group).node? group.id = some group := by
    simp [Graph.node?, Graph.nodes_insertFirst new]
  rw [ungroup_of_group found (shape ▸ rfl), Graph.filterNodes_insertFirst new]

end Workspace

namespace Session

/-- Whatever client code has done, in any order and whether it failed or not: if two ports are
joined then, the edge can be disconnected, and if nodes are grouped, the group can be dissolved, and
nodes and edges are the same as before, in the same order. If no edge is added, or no group, the
graph and the counter stay as they are. -/
theorem connect_and_group_undone (ids : IdSource) (actions : List ClientAction) :
    (∀ source target, Edit.Ends (Workspace.connect source target)
      (reached ids actions).workspace.Disconnects
      (fun later => later.graph = (reached ids actions).workspace.graph)
      (reached ids actions).workspace) ∧
    ∀ keys label, Edit.Ends (Workspace.groupNodes keys label)
      (reached ids actions).workspace.Dissolves
      (fun later => later.graph = (reached ids actions).workspace.graph)
      (reached ids actions).workspace := by
  obtain ⟨_, _, past⟩ := exists_history ids actions
  exact ⟨past.ends_connect, past.ends_groupNodes⟩

/-- Two nodes and an edge between them, under ids that look generated. -/
def handmade : List ClientAction :=
  [.newNode (some "node_1") { Node.blank "" with
     ports := [⟨"p_1", .null, "out", .text "number", .text "out", false⟩] },
   .newNode (some "node_2") { Node.blank "" with
     ports := [⟨"p_2", .null, "in", .text "number", .text "in", false⟩] },
   .newEdge (some "edge_7") (.ref "node_1:out") (.ref "node_2:in") false]

/-- A second edge comes under the id that follows. -/
example : (match Workspace.connect "node_1:out" "node_2:in" (reached ⟨0⟩ handmade).workspace with
    | .ok edge? later => (edge?.map Edge.id, later.graph.edges.map Edge.id)
    | .error _ _ => (none, [])) = (some "edge_8", ["edge_7", "edge_8"]) := by decide +kernel

end Session

end NodeFlow
