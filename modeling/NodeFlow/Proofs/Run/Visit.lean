import Mathlib.Data.List.Nodup
import NodeFlow.Run

/-!
# What one visit does

A visit passes over a missing node, or evaluates the node and stores its outputs, or ends the run
with the evaluation's failure. `visit_cases` says everything a visit can do, so that later proofs
never open its definition. A visit changes nothing of the graph but the data of its nodes.
-/

namespace NodeFlow

/-- Nodes that agree but for their data agree in every view that does not read the data. -/
theorem Node.view_eq {α : Type} {node other : Node} (same : node.withData [] = other.withData [])
    (view : Node → α) (blind : ∀ node, view (node.withData []) = view node) :
    view node = view other := by
  rw [← blind node, same, blind]

namespace Edge

/-- Only committed exec edges lead on. -/
theorem follows?_eq (id : String) (edge : Edge) : edge.follows? id =
    if edge.isCommitted && edge.isExec && edge.source.node? == some id then edge.target.node?
    else none := by
  unfold follows? isCommitted
  cases source : edge.source <;> cases target : edge.target <;>
    simp [Endpoint.node?, Endpoint.ref?]

theorem follows?_eq_some_iff {edge : Edge} {id next : String} :
    edge.follows? id = some next ↔ edge.isCommitted = true ∧ edge.isExec = true ∧
      edge.source.node? = some id ∧ edge.target.node? = some next := by
  rw [follows?_eq, Option.ite_none_right_eq_some]
  simp only [Bool.and_eq_true, beq_iff_eq, and_assoc]

end Edge

namespace Graph

/-! ## Look-up -/

/-- The node of an id is the only one. -/
theorem eq_of_id {graph : Graph} {node other : Node} (member : node ∈ graph.nodes)
    (inGraph : other ∈ graph.nodes) (same : other.id = node.id) : other = node :=
  List.inj_on_of_nodup_map graph.distinct inGraph member same

theorem node?_of_mem {graph : Graph} {node : Node} (member : node ∈ graph.nodes) :
    graph.node? node.id = some node := by
  cases found : graph.node? node.id with
  | none => exact absurd (List.mem_map_of_mem member) (node?_eq_none_iff.1 found)
  | some other => rw [eq_of_id member (mem_of_node? found) (id_of_node? found)]

/-- What some of the nodes have under an id is what the graph has there, if it is one of them. -/
theorem node?_filterNodes (graph : Graph) (id : String) (keep : Node → Bool) :
    (graph.filterNodes keep).node? id = (graph.node? id).filter keep := by
  cases found : graph.node? id with
  | none =>
    rw [node?_eq_none_iff] at found
    exact node?_eq_none_iff.2 fun listed => found ((List.filter_sublist.map Node.id).subset listed)
  | some node =>
    obtain rfl := id_of_node? found
    cases kept : keep node with
    | true =>
      have member : node ∈ (graph.filterNodes keep).nodes :=
        List.mem_filter.2 ⟨mem_of_node? found, kept⟩
      rw [node?_of_mem member, Option.filter_some_pos kept]
    | false =>
      rw [Option.filter_some_neg (by simp [kept]), node?_eq_none_iff]
      intro listed
      obtain ⟨other, member, same⟩ := List.mem_map.1 listed
      obtain ⟨inGraph, otherKept⟩ := List.mem_filter.1 member
      rw [eq_of_id (mem_of_node? found) inGraph same, kept] at otherKept
      cases otherKept

theorem contains_iff {graph : Graph} {id : String} :
    graph.contains id = true ↔ ∃ node, graph.node? id = some node := by
  have absent := @node?_eq_none_iff graph id
  simp only [contains, List.contains_eq_mem, decide_eq_true_eq]
  cases found : graph.node? id with
  | none =>
    refine iff_of_false (absent.1 found) ?_
    rintro ⟨node, present⟩
    cases present
  | some node =>
    have present : id ∈ graph.nodes.map Node.id :=
      List.mem_map.2 ⟨node, mem_of_node? found, id_of_node? found⟩
    exact iff_of_true present ⟨node, rfl⟩

theorem roots_eq (graph : Graph) : graph.roots =
    ((graph.nodes.map fun node => (node.id, node.kind)).filter (·.2 == "start")).map (·.1) := by
  rw [roots, List.filter_map, List.map_map]
  rfl

/-! ## The shape of a graph -/

/-- The graph has the shape of another one: the same edges, and in the same order nodes that agree
in everything but their data. -/
structure SameShape (graph other : Graph) : Prop where
  edges : graph.edges = other.edges
  nodes : graph.nodes.map (·.withData []) = other.nodes.map (·.withData [])

namespace SameShape

variable {graph middle other : Graph}

theorem refl (graph : Graph) : graph.SameShape graph := ⟨rfl, rfl⟩

theorem trans (first : graph.SameShape middle) (second : middle.SameShape other) :
    graph.SameShape other :=
  ⟨first.edges.trans second.edges, first.nodes.trans second.nodes⟩

theorem symm (same : graph.SameShape other) : other.SameShape graph :=
  ⟨same.edges.symm, same.nodes.symm⟩

/-- A view of nodes that does not read their data is the same on both sides. -/
theorem map_nodes {α : Type} (same : graph.SameShape other) (view : Node → α)
    (blind : ∀ node, view (node.withData []) = view node) :
    graph.nodes.map view = other.nodes.map view := by
  have lifted := congrArg (List.map view) same.nodes
  simpa only [List.map_map, Function.comp_def, blind] using lifted

theorem ids (same : graph.SameShape other) :
    graph.nodes.map Node.id = other.nodes.map Node.id :=
  same.map_nodes Node.id fun _ => rfl

theorem roots (same : graph.SameShape other) : graph.roots = other.roots := by
  have kinds := same.map_nodes (fun node => (node.id, node.kind)) fun _ => rfl
  rw [roots_eq, roots_eq, kinds]

theorem contains (same : graph.SameShape other) (id : String) :
    graph.contains id = other.contains id := by
  rw [Graph.contains, Graph.contains, same.ids]

theorem successors (same : graph.SameShape other) (id : String) :
    graph.successors id = other.successors id := by
  rw [Graph.successors, Graph.successors, same.edges]

theorem feed? (same : graph.SameShape other) (ref : String) :
    graph.feed? ref = other.feed? ref := by
  rw [Graph.feed?, Graph.feed?, same.edges]

/-- A node of one graph is, but for its data, the node of the other one. -/
theorem node? (same : graph.SameShape other) (id : String) :
    (graph.node? id).map (·.withData []) = (other.node? id).map (·.withData []) := by
  have found := congrArg (List.find? (·.id == id)) same.nodes
  rw [List.find?_map, List.find?_map] at found
  exact found

theorem exists_node? (same : graph.SameShape other) {id : String} {node : Node}
    (found : graph.node? id = some node) :
    ∃ origin, other.node? id = some origin ∧ origin.withData [] = node.withData [] := by
  have both := same.node? id
  rw [found] at both
  exact Option.map_eq_some_iff.1 both.symm

end SameShape

theorem sameShape_changeData (graph : Graph) (id : String) (change : Fields → Fields) :
    (graph.changeData id change).SameShape graph := by
  refine ⟨rfl, ?_⟩
  simp only [changeData, mapNodes, List.map_map]
  congr 1
  funext node
  simp only [Function.comp_apply]
  split <;> rfl

end Graph

namespace Progress

/-- The progress once a node is entered and its evaluation has logged its lines. -/
def entered (progress : Progress) (node : Node) (lines : List String) : Progress :=
  { progress with visited := progress.visited.push node.id }.logged lines

/-- The progress once the outputs of a node are stored. -/
def stored (progress : Progress) (node : Node) (outputs : Fields) : Progress :=
  { progress with graph := progress.graph.changeData node.id (node.store outputs) }

/-- The progress once one more exec edge is followed. -/
def counted (progress : Progress) : Progress :=
  { progress with steps := progress.steps + 1 }

section Fields

variable (progress : Progress) (node : Node) (lines : List String) (outputs : Fields)

@[simp] theorem entered_graph : (progress.entered node lines).graph = progress.graph := rfl

@[simp] theorem entered_log :
    (progress.entered node lines).log = progress.log ++ lines.toArray := rfl

@[simp] theorem entered_visited :
    (progress.entered node lines).visited = progress.visited.push node.id := rfl

@[simp] theorem entered_steps : (progress.entered node lines).steps = progress.steps := rfl

@[simp] theorem stored_log : (progress.stored node outputs).log = progress.log := rfl

@[simp] theorem stored_visited : (progress.stored node outputs).visited = progress.visited := rfl

@[simp] theorem stored_steps : (progress.stored node outputs).steps = progress.steps := rfl

@[simp] theorem counted_graph : progress.counted.graph = progress.graph := rfl

@[simp] theorem counted_log : progress.counted.log = progress.log := rfl

@[simp] theorem counted_visited : progress.counted.visited = progress.visited := rfl

@[simp] theorem counted_steps : progress.counted.steps = progress.steps + 1 := rfl

end Fields

theorem stored_sameShape (progress : Progress) (node : Node) (outputs : Fields) :
    (progress.stored node outputs).graph.SameShape progress.graph :=
  Graph.sameShape_changeData _ _ _

end Progress

namespace Run

theorem visit_of_absent {registry : Registry} {id : String} {before : Progress}
    (absent : before.graph.node? id = none) : visit registry id before = .ok [] before := by
  simp only [visit, absent]

theorem visit_of_outputs {registry : Registry} {id : String} {before : Progress} {node : Node}
    {lines : List String} {outputs : Fields} (found : before.graph.node? id = some node)
    (evaluated : registry.evaluate node (before.graph.inputs node) = ⟨lines, .ok outputs⟩) :
    visit registry id before =
      .ok (before.graph.successors id) ((before.entered node lines).stored node outputs) := by
  have same := ((before.entered node lines).stored_sameShape node outputs).successors id
  simp only [visit, found, Progress.visitNode, evaluated, Progress.settle]
  exact congrArg (EStateM.Result.ok · _) same

theorem visit_of_failure {registry : Registry} {id : String} {before : Progress} {node : Node}
    {lines : List String} {failure : EvalFailure} (found : before.graph.node? id = some node)
    (evaluated : registry.evaluate node (before.graph.inputs node) = ⟨lines, .error failure⟩) :
    visit registry id before =
      .error (.ofEvaluation node failure) (before.entered node lines) := by
  simp only [visit, found, Progress.visitNode, evaluated, Progress.settle]
  rfl

/-- Everything a visit can do. -/
theorem visit_cases (registry : Registry) (id : String) (before : Progress) :
    (before.graph.node? id = none ∧ visit registry id before = .ok [] before) ∨
    (∃ node lines outputs, before.graph.node? id = some node ∧
      registry.evaluate node (before.graph.inputs node) = ⟨lines, .ok outputs⟩ ∧
      visit registry id before =
        .ok (before.graph.successors id) ((before.entered node lines).stored node outputs)) ∨
    (∃ node lines failure, before.graph.node? id = some node ∧
      registry.evaluate node (before.graph.inputs node) = ⟨lines, .error failure⟩ ∧
      visit registry id before =
        .error (.ofEvaluation node failure) (before.entered node lines)) := by
  cases found : before.graph.node? id with
  | none => exact .inl ⟨rfl, visit_of_absent found⟩
  | some node =>
    rcases evaluated : registry.evaluate node (before.graph.inputs node) with ⟨lines, outcome⟩
    cases outcome with
    | ok outputs =>
      exact .inr (.inl ⟨node, lines, outputs, rfl, evaluated, visit_of_outputs found evaluated⟩)
    | error failure =>
      exact .inr (.inr ⟨node, lines, failure, rfl, evaluated, visit_of_failure found evaluated⟩)

end Run

end NodeFlow
