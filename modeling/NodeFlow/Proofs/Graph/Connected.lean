import NodeFlow.Proofs.Graph.Reference

/-!
# Connected inputs

An input counts as connected if a data edge leads into it, wherever the edge begins. A run resolves
it through the last of those that begin at a reference. Main statement: the two differ exactly on
inputs into which no such edge leads, but one that is being dragged from a point; a run reads what
the node of the input holds itself.
-/

namespace NodeFlow.Graph

/-- A data edge that is being dragged from a point into a reference. -/
def DraggedInto (ref : String) (edge : Edge) : Prop :=
  edge.isExec = false ∧ edge.source.ref? = none ∧ edge.target.ref? = some ref

/-- What a node that is reached after some visits receives at an input that is resolved through an
edge: what the source of the edge holds. Without an edge it is what the node holds itself. -/
def Resolved (graph : Graph) (visits : List Visit) (node : Node) (inputs : Fields) (port : String) :
    Option Edge → Prop
  | none => inputs.get? port = some (node.data.get port)
  | some edge => ∃ source, edge.source = .ref source ∧
      inputs.get? port = some (graph.valueAfter visits (Ref.node source) (Ref.port source))

theorem mem_dataEdgesInto {graph : Graph} {ref : String} {edge : Edge} :
    edge ∈ graph.dataEdgesInto ref ↔ edge ∈ graph.edges ∧ edge.isExec = false ∧
      edge.source.ref? ≠ none ∧ edge.target.ref? = some ref := by
  simp only [dataEdgesInto, List.mem_filter, Edge.isCommitted, Bool.and_eq_true,
    Bool.not_eq_true', beq_iff_eq, Option.isSome_iff_ne_none]
  constructor
  · rintro ⟨member, ⟨⟨begins, _⟩, data⟩, ends⟩
    exact ⟨member, data, begins, ends⟩
  · rintro ⟨member, data, begins, ends⟩
    exact ⟨member, ⟨⟨begins, by simp [ends]⟩, data⟩, ends⟩

/-- An input is connected by the edges that a run reads and by those that are being dragged. -/
theorem isDataConnected_iff (graph : Graph) (node port : String) :
    graph.isDataConnected node port = true ↔
      graph.dataEdgesInto (Ref.make node port) ≠ [] ∨
        ∃ edge ∈ graph.edges, DraggedInto (Ref.make node port) edge := by
  have connected : graph.isDataConnected node port = true ↔ ∃ edge ∈ graph.edges,
      edge.isExec = false ∧ edge.target.ref? = some (Ref.make node port) := by
    simp [isDataConnected, edgesInto, and_comm]
  rw [connected]
  constructor
  · rintro ⟨edge, member, data, ends⟩
    by_cases begins : edge.source.ref? = none
    · exact .inr ⟨edge, member, data, begins, ends⟩
    · exact .inl (List.ne_nil_of_mem (mem_dataEdgesInto.2 ⟨member, data, begins, ends⟩))
  · rintro (some | ⟨edge, member, data, _, ends⟩)
    · obtain ⟨edge, into⟩ := List.exists_mem_of_ne_nil _ some
      obtain ⟨member, data, _, ends⟩ := mem_dataEdgesInto.1 into
      exact ⟨edge, member, data, ends⟩
    · exact ⟨edge, member, data, ends⟩

variable {registry : Registry} {maxSteps : Int} {graph : Graph} {visits : List Visit}
  {moment : Moment}

/-- Whatever node a run reaches, it resolves an input through the last committed data edge into it,
and reads what the node holds if there is none. The input counts as connected if there is such an
edge, or one that is being dragged into it. -/
theorem isDataConnected_iff_resolved (reaches : graph.Reaches registry maxSteps visits moment)
    {id : String} {progress : Progress} {pending roots : List String} {node : Node} {port : Port}
    (turn : moment.turn maxSteps = .enter id progress pending roots)
    (found : progress.graph.node? id = some node) (input : port ∈ node.dataPorts .input) :
    ∃ edge? : Option Edge,
      edge? = (graph.dataEdgesInto (Ref.make node.id port.name)).getLast? ∧
      graph.Resolved visits node (progress.graph.inputs node) port.name edge? ∧
      (graph.isDataConnected node.id port.name = true ↔ edge?.isSome = true ∨
        ∃ edge ∈ graph.edges, DraggedInto (Ref.make node.id port.name) edge) := by
  have receives := reaches.receives turn found
  refine ⟨_, rfl, ?_, ?_⟩
  · cases last : (graph.dataEdgesInto (Ref.make node.id port.name)).getLast? with
    | none => exact receives.unfed port input last
    | some edge => exact receives.fed port input edge last
  · rw [isDataConnected_iff, List.getLast?_isSome]

/-- The input of the start node that feeds itself is connected and resolved through its edge. -/
theorem feedback_connected : ∃ visits moment progress node port,
    feedback.Reaches constantStart 1 visits moment ∧
      moment.turn 1 = .enter "node_1" progress [] [] ∧
      progress.graph.node? "node_1" = some node ∧ port ∈ node.dataPorts .input ∧
      ∃ edge? : Option Edge,
        edge? = (feedback.dataEdgesInto (Ref.make node.id port.name)).getLast? ∧
        feedback.Resolved visits node (progress.graph.inputs node) port.name edge? ∧
        (feedback.isDataConnected node.id port.name = true ↔ edge?.isSome = true ∨
          ∃ edge ∈ feedback.edges, DraggedInto (Ref.make node.id port.name) edge) := by
  have reaches : feedback.Reaches constantStart 1 [] ⟨Run.begin feedback, [], feedback.roots⟩ :=
    .begin
  have turn : Moment.turn 1 ⟨Run.begin feedback, [], feedback.roots⟩ =
      .enter "node_1" (Run.begin feedback) [] [] := rfl
  have found : (Run.begin feedback).graph.node? "node_1" = some echoing := rfl
  have input : ⟨"p_2", .null, "in", .text "number", .text "in", false⟩ ∈
      echoing.dataPorts .input := List.mem_cons_self
  exact ⟨_, _, _, _, _, reaches, turn, found, input,
    isDataConnected_iff_resolved reaches turn found input⟩

/-- A start node with an input that an edge is being dragged into. -/
def dragging : Graph where
  nodes := [{ echoing with data := [("in", .int 7)] }]
  edges := [⟨"edge_4", .point (.int 3) (.int 4), .ref "node_1:in", false⟩]
  distinct := by simp

/-- The input counts as connected, and a run reads what the node holds. -/
theorem dragging_reads_own : dragging.isDataConnected "node_1" "in" = true ∧
    dragging.dataEdgesInto (Ref.make "node_1" "in") = [] ∧
    ∃ moment progress node, dragging.Reaches constantStart 1 [] moment ∧
      moment.turn 1 = .enter "node_1" progress [] [] ∧ progress.graph.node? "node_1" = some node ∧
      (progress.graph.inputs node).get? "in" = some (.int 7) := by
  refine ⟨by decide +kernel, rfl, ⟨Run.begin dragging, [], dragging.roots⟩, Run.begin dragging,
    { echoing with data := [("in", .int 7)] }, .begin, rfl, rfl, rfl⟩

end NodeFlow.Graph
