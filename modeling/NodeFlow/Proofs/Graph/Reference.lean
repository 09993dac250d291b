import NodeFlow.Graph.Editing
import NodeFlow.Proofs.Run.Dataflow

/-!
# What references refer to

A reference is read in two ways. The look-up of ports and the removal of nodes split it at its first
colon; the data edges of a run are found by the whole text. Main statement: the two readings agree
on every node whose id has no colon. References to its ports lead to ports of the node, the data
edges found under them end at the node, and they all go when the node is removed.
-/

namespace NodeFlow

theorem Value.same_text (value : Value) (s : String) :
    value.same false (.text s) = value.isText s := by
  cases value with
  | text t => exact Bool.beq_comm
  | _ => simp [same, isText, scalarNumber?, isNull]

namespace Graph

/-- The port that a reference names, with a direction of any kind: a port that has it is preferred
and any other port of the name comes next. Null prefers nothing. -/
def portFacing? (graph : Graph) (ref : String) (direction : Value) : Option Port := do
  let node ← graph.node? (Ref.node ref)
  (node.ports.find? fun port =>
    port.name == Ref.port ref && (direction.isNull || port.direction.same false direction)).or
      (node.port? (Ref.port ref) none)

/-- The committed data edges into a reference, in order. -/
def dataEdgesInto (graph : Graph) (ref : String) : List Edge :=
  graph.edges.filter fun edge =>
    edge.isCommitted && !edge.isExec && edge.target.ref? == some ref

/-- A run reads an input through the last of them. -/
theorem lastDataEdge?_eq_getLast? (graph : Graph) (ref : String) :
    graph.lastDataEdge? ref = (graph.dataEdgesInto ref).getLast? := rfl

/-- With a tag it is the look-up that prefers a side. -/
theorem portFacing?_text (graph : Graph) (ref tag : String) :
    graph.portFacing? ref (.text tag) = graph.port? ref (some tag) := by
  simp only [portFacing?, port?, Node.port?, Value.isNull, Bool.false_or, Value.same_text,
    Option.all_some, Port.faces]

theorem portFacing?_null (graph : Graph) (ref : String) :
    graph.portFacing? ref .null = graph.port? ref none := by
  simp only [portFacing?, port?, Node.port?, Value.isNull, Bool.true_or, Option.all_none]

variable {graph : Graph} {node : Node} {port : Port}

/-- A reference to a port of a node whose id has no colon finds a port of that node, whatever
direction is asked for. -/
theorem exists_portFacing? (member : node ∈ graph.nodes) (clean : ':' ∉ node.id.toList)
    (has : port ∈ node.ports) (direction : Value) :
    ∃ found ∈ node.ports, found.name = port.name ∧
      graph.portFacing? (Ref.make node.id port.name) direction = some found := by
  have named : ∀ {keep : Port → Bool} {found},
      node.ports.find? (fun other => other.name == port.name && keep other) = some found →
        found ∈ node.ports ∧ found.name = port.name := by
    intro keep found here
    have matched := List.find?_some here
    simp only [Bool.and_eq_true, beq_iff_eq] at matched
    exact ⟨List.mem_of_find?_eq_some here, matched.1⟩
  simp only [portFacing?, Ref.node_make _ clean, Ref.port_make _ clean, node?_of_mem member,
    Option.bind_eq_bind, Option.bind_some]
  cases preferred : node.ports.find? fun other => other.name == port.name &&
      (direction.isNull || other.direction.same false direction) with
  | some found => exact ⟨found, (named preferred).1, (named preferred).2, rfl⟩
  | none =>
    cases byName : node.port? port.name none with
    | some found => exact ⟨found, (named byName).1, (named byName).2, rfl⟩
    | none =>
      -- The port itself has the name.
      have absent := List.find?_eq_none.1 byName port has
      simp at absent

/-- The two readings of references agree on a node whose id has no colon. A reference to one of its
ports finds a port of the node under the direction of the port; every data edge that a run finds
under it ends at the node; and no edge ends at it once the node is removed. -/
theorem reference_unambiguous (member : node ∈ graph.nodes) (clean : ':' ∉ node.id.toList)
    (has : port ∈ node.ports) :
    (∃ found ∈ node.ports, found.name = port.name ∧
      graph.portFacing? (Ref.make node.id port.name) port.direction = some found) ∧
    (∀ edge ∈ graph.dataEdgesInto (Ref.make node.id port.name),
      edge.target.node? = some node.id) ∧
    ∀ edge ∈ (graph.removeNodes [node.id]).edges,
      edge.target.ref? ≠ some (Ref.make node.id port.name) := by
  have lies : ∀ edge : Edge, edge.target.ref? = some (Ref.make node.id port.name) →
      edge.target.node? = some node.id := by
    intro edge ends
    rw [Endpoint.eq_of_ref? ends, Endpoint.node?, Ref.node_make _ clean]
  refine ⟨exists_portFacing? member clean has port.direction, ?_, ?_⟩
  · intro edge into
    have found := (List.mem_filter.1 into).2
    simp only [Bool.and_eq_true, beq_iff_eq] at found
    exact lies edge found.2
  · intro edge stays ends
    have untouched := (List.mem_filter.1 stays).2
    simp [Edge.touches, lies edge ends] at untouched

/-- The input of the start node is found, fed by the edge from its output, and free when the node is
gone. -/
theorem feedback_unambiguous : ∃ port ∈ echoing.ports,
    echoing ∈ feedback.nodes ∧ ':' ∉ echoing.id.toList ∧
      (∃ found ∈ echoing.ports, found.name = port.name ∧
        feedback.portFacing? (Ref.make echoing.id port.name) port.direction = some found) ∧
      feedback.dataEdgesInto (Ref.make echoing.id port.name) ≠ [] ∧
      (∀ edge ∈ feedback.dataEdgesInto (Ref.make echoing.id port.name),
        edge.target.node? = some echoing.id) ∧
      ∀ edge ∈ (feedback.removeNodes [echoing.id]).edges,
        edge.target.ref? ≠ some (Ref.make echoing.id port.name) := by
  have member : echoing ∈ feedback.nodes := List.mem_cons_self
  have clean : ':' ∉ echoing.id.toList := by decide
  have input : ⟨"p_2", .null, "in", .text "number", .text "in", false⟩ ∈ echoing.ports :=
    List.mem_cons_self
  obtain ⟨found, into, free⟩ := reference_unambiguous member clean input
  exact ⟨_, input, member, clean, found, by decide +kernel, into, free⟩

/-- A node whose id has a colon, and an edge into its port. -/
def colonId : Graph where
  nodes := [{ Node.blank "a:b" with
    ports := [⟨"p1", .text "a:b", "p", .text "number", .text "in", false⟩] }]
  edges := [⟨"link", .ref "c:q", .ref "a:b:p", false⟩]
  distinct := by simp

/-- The port is not found, a run takes the edge into it for one that ends at another node, and the
edge stays when the node is removed. -/
theorem colonId_ambiguous : ∃ node ∈ colonId.nodes, ∃ port ∈ node.ports, port.name ≠ "" ∧
    (colonId.portFacing? (Ref.make node.id port.name) port.direction).isNone = true ∧
    (∃ edge ∈ colonId.dataEdgesInto (Ref.make node.id port.name),
      edge.target.node? ≠ some node.id) ∧
    ∃ edge ∈ (colonId.removeNodes [node.id]).edges,
      edge.target.ref? = some (Ref.make node.id port.name) := by
  decide +kernel

end Graph

end NodeFlow
