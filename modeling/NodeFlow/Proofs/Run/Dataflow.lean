import NodeFlow.Proofs.Evaluation.Outputs
import NodeFlow.Proofs.Run.Budget

/-!
# What a visit receives

Values flow from visit to visit through the data that the nodes hold. Main statement: a data input
without a data edge receives what its node holds itself. Any other one receives what the source of
the last such edge holds: what the latest visit that wrote it has given, or what was there before
the run.
-/

namespace NodeFlow

/-- What the visit wrote under a name of a node: an output that the node declares as a data port. -/
def Visit.wrote? (id name : String) (visit : Visit) : Option Value :=
  if visit.node.id = id ∧ name ∈ (visit.node.dataPorts .output).map Port.name then
    visit.outputs.get? name
  else none

namespace Graph

/-- The last committed data edge into a reference. -/
def lastDataEdge? (graph : Graph) (ref : String) : Option Edge :=
  (graph.edges.filter fun edge =>
    edge.isCommitted && !edge.isExec && edge.target.ref? == some ref).getLast?

/-- What a node holds under a name after some visits: what the latest of them that wrote it has
given, else what the graph holds there. -/
def valueAfter (graph : Graph) (visits : List Visit) (id name : String) : Value :=
  match graph.node? id with
  | none => .null
  | some node => (visits.filterMap (Visit.wrote? id name)).getLast?.getD (node.data.get name)

/-- What a node that is reached after some visits of a run receives. -/
structure Receives (graph : Graph) (visits : List Visit) (node : Node) (inputs : Fields) :
    Prop where
  own : ∀ name, node.data.get name = graph.valueAfter visits node.id name
  unfed : ∀ port ∈ node.dataPorts .input,
    graph.lastDataEdge? (Ref.make node.id port.name) = none →
      inputs.get? port.name = some (node.data.get port.name)
  fed : ∀ port ∈ node.dataPorts .input, ∀ edge,
    graph.lastDataEdge? (Ref.make node.id port.name) = some edge →
      ∃ source, edge.source = .ref source ∧
        inputs.get? port.name =
          some (graph.valueAfter visits (Ref.node source) (Ref.port source))

/-! ## Edges -/

theorem feeds?_eq (ref : String) (edge : Edge) :
    edge.feeds? ref =
      if edge.isCommitted && !edge.isExec && edge.target.ref? == some ref then edge.source.ref?
      else none := by
  unfold Edge.feeds? Edge.isCommitted
  cases source : edge.source <;> cases target : edge.target <;> simp [Endpoint.ref?]

/-- What feeds an input is the source of the last data edge into it. -/
theorem feed?_eq (graph : Graph) (ref : String) :
    graph.feed? ref = (graph.lastDataEdge? ref).bind (·.source.ref?) := by
  unfold feed? lastDataEdge?
  induction graph.edges using List.reverseRecOn with
  | nil => rfl
  | append_singleton edges edge ih =>
    rw [List.filterMap_append, List.filter_append]
    by_cases into :
        (edge.isCommitted && !edge.isExec && edge.target.ref? == some ref) = true
    · have source : edge.source.ref?.isSome = true := by
        simp only [Bool.and_eq_true, Edge.isCommitted] at into
        exact into.1.1.1
      obtain ⟨text, begins⟩ := Option.isSome_iff_exists.1 source
      have feeds : edge.feeds? ref = some text := by rw [feeds?_eq, if_pos into, begins]
      simp [into, feeds, begins]
    · have feeds : edge.feeds? ref = none := by rw [feeds?_eq, if_neg into]
      simpa [into, feeds] using ih

/-! ## What nodes hold -/

/-- What a node holds under a name; null if the node is missing. -/
def held (graph : Graph) (id name : String) : Value :=
  ((graph.node? id).map fun node => node.data.get name).getD .null

theorem held_of_found {graph : Graph} {id : String} {node : Node}
    (found : graph.node? id = some node) (name : String) :
    graph.held id name = node.data.get name := by
  rw [held, found]
  rfl

/-- The entry of a node's data under a name, if there is one. -/
def datum? (graph : Graph) (id name : String) : Option Value :=
  (graph.node? id).bind fun node => node.data.get? name

theorem datum?_of_found {graph : Graph} {id : String} {node : Node}
    (found : graph.node? id = some node) (name : String) :
    graph.datum? id name = node.data.get? name := by
  rw [datum?, found, Option.bind_some]

theorem held_eq_datum? (graph : Graph) (id name : String) :
    graph.held id name = (graph.datum? id name).getD .null := by
  unfold held datum?
  cases graph.node? id <;> rfl

/-- To store the outputs of a visit changes what the visit wrote and nothing else. -/
theorem datum?_stored {graph : Graph} {visit : Visit}
    (found : graph.node? visit.node.id = some visit.node) (id name : String) :
    (graph.changeData visit.node.id (visit.node.store visit.outputs)).datum? id name =
      (visit.wrote? id name).or (graph.datum? id name) := by
  unfold datum? changeData
  rw [node?_mapNodes]
  by_cases same : visit.node.id = id
  · subst same
    simp only [found, Option.map_some, Option.bind_some, if_pos, Visit.wrote?, true_and]
    show Keyed.get? name (visit.node.store visit.outputs visit.node.data) = _
    rw [Node.get?_store]
    split <;> rfl
  · have kept : ∀ node, graph.node? id = some node → ¬ node.id = visit.node.id := by
      intro node other equal
      exact same (equal ▸ id_of_node? other)
    cases other : graph.node? id with
    | none => simp [Visit.wrote?, same]
    | some node => simp [Visit.wrote?, same, kept node other]

variable {registry : Registry} {maxSteps : Int} {graph : Graph} {visits : List Visit}
  {moment : Moment}

/-- At every moment of a run a node holds what the latest visit that wrote it has given. -/
theorem Reaches.datum?_eq (reaches : graph.Reaches registry maxSteps visits moment)
    (id name : String) :
    moment.progress.graph.datum? id name =
      (visits.filterMap (Visit.wrote? id name)).getLast?.or (graph.datum? id name) := by
  induction reaches with
  | begin => rfl
  | pass _ turn _ ih =>
    rw [(Moment.frame_of_turn_enter turn).1]
    exact ih
  | @visit visits moment _ progress _ _ node lines outputs _ turn found evaluated ih =>
    have stored := @datum?_stored progress.graph
      ⟨node, progress.graph.inputs node, lines, outputs⟩ (id_of_node? found ▸ found) id name
    rw [← (Moment.frame_of_turn_enter turn).1] at ih
    show (progress.graph.changeData node.id (node.store outputs)).datum? id name = _
    rw [stored, List.filterMap_append, List.getLast?_append, ih]
    cases wrote : Visit.wrote? id name ⟨node, progress.graph.inputs node, lines, outputs⟩ <;>
      simp [wrote]

/-- What nodes hold at a moment of a run is what the visits so far have left. -/
theorem Reaches.held_eq_valueAfter (reaches : graph.Reaches registry maxSteps visits moment)
    (id name : String) :
    moment.progress.graph.held id name = graph.valueAfter visits id name := by
  unfold valueAfter
  cases found : graph.node? id with
  | none =>
    have absent : moment.progress.graph.node? id = none := by
      rw [node?_eq_none_iff, reaches.sameShape.ids, ← node?_eq_none_iff, found]
    rw [held, absent]
    rfl
  | some node =>
    rw [held_eq_datum?, reaches.datum?_eq, datum?_of_found found]
    cases (visits.filterMap (Visit.wrote? id name)).getLast? <;> rfl

/-- A node that is reached receives its inputs by the edges and by the visits so far. -/
theorem Reaches.receives (reaches : graph.Reaches registry maxSteps visits moment)
    {id : String} {progress : Progress} {pending roots : List String} {node : Node}
    (turn : moment.turn maxSteps = .enter id progress pending roots)
    (found : progress.graph.node? id = some node) :
    graph.Receives visits node (progress.graph.inputs node) := by
  have now := (Moment.frame_of_turn_enter turn).1
  have edges : progress.graph.edges = graph.edges := by rw [now, reaches.sameShape.edges]
  have held : ∀ id name, progress.graph.held id name = graph.valueAfter visits id name := by
    rw [now]
    exact reaches.held_eq_valueAfter
  have feeds : ∀ ref, progress.graph.feed? ref =
      (graph.lastDataEdge? ref).bind (·.source.ref?) := by
    intro ref
    rw [feed?_eq, lastDataEdge?, lastDataEdge?, edges]
  have received : ∀ port ∈ node.dataPorts .input, (progress.graph.inputs node).get? port.name =
      some (progress.graph.inputValue node port.name) := by
    intro port input
    rw [get?_inputs, if_pos (List.mem_map_of_mem input)]
  refine ⟨?_, ?_, ?_⟩
  · intro name
    rw [← held, id_of_node? found, held_of_found found]
  · intro port input none
    rw [received port input, inputValue, feeds, none]
    rfl
  · intro port input edge last
    have committed := (List.mem_filter.1 (List.mem_of_getLast? last)).2
    simp only [Bool.and_eq_true, Edge.isCommitted] at committed
    obtain ⟨source, begins⟩ := Option.isSome_iff_exists.1 committed.1.1.1
    refine ⟨source, Endpoint.eq_of_ref? begins, ?_⟩
    rw [received port input, inputValue, feeds, last, Option.bind_some, begins, ← held]
    rfl

/-- The inputs of every visit of a run, of one that fails too, follow from the edges and from the
visits before it. An input into which no committed data edge leads receives what the node itself
holds; any other one receives what the source of the last such edge holds. That is the output that
the latest visit of the source to declare and give it has written, or what the source held before
the run; it is null if there is no such value or no such node. -/
theorem receives_of_reaches (reaches : graph.Reaches registry maxSteps visits moment) :
    (∀ earlier visit later, visits = earlier ++ visit :: later →
      graph.Receives earlier visit.node visit.inputs) ∧
    ∀ id progress pending roots node, moment.turn maxSteps = .enter id progress pending roots →
      progress.graph.node? id = some node →
        graph.Receives visits node (progress.graph.inputs node) := by
  refine ⟨?_, fun _ _ _ _ _ turn found => reaches.receives turn found⟩
  induction reaches with
  | begin =>
    intro earlier visit later split
    simp at split
  | pass _ _ _ ih => exact ih
  | @visit visits _ _ _ _ _ _ _ _ before turn found _ ih =>
    intro earlier visit later split
    rcases List.eq_nil_or_concat later with rfl | ⟨rest, last, rfl⟩
    · obtain ⟨rfl, same⟩ := List.append_inj' split rfl
      cases same
      exact before.receives turn found
    · have shorter : visits = earlier ++ visit :: rest := by
        rw [List.concat_eq_append, ← List.cons_append, ← List.append_assoc] at split
        exact (List.append_inj' split rfl).1
      exact ih earlier visit rest shorter

/-- A start node with a data port on each side. -/
def echoing : Node :=
  { Node.blank "node_1" with
    kind := "start"
    ports := [⟨"p_2", .null, "in", .text "number", .text "in", false⟩,
      ⟨"p_3", .null, "out", .text "number", .text "out", false⟩] }

/-- The start node follows itself and feeds its output back into its input. -/
def feedback : Graph where
  nodes := [echoing]
  edges := [⟨"edge_4", .ref "node_1:execOut", .ref "node_1:execIn", true⟩,
    ⟨"edge_5", .ref "node_1:out", .ref "node_1:in", false⟩]
  distinct := by simp

/-- The second visit of the node receives the output of the first one. -/
theorem feedback_receives : ∃ visits moment progress node,
    feedback.Reaches constantStart 1 visits moment ∧
      moment.turn 1 = .enter "node_1" progress [] [] ∧ progress.graph.node? "node_1" = some node ∧
      (progress.graph.inputs node).get? "in" = some (.int 1) := by
  have roots : feedback.roots = ["node_1"] := rfl
  have follows : feedback.successors "node_1" = ["node_1"] := by decide +kernel
  have enters : Moment.turn 1 ⟨Run.begin feedback, [], feedback.roots⟩ =
      .enter "node_1" (Run.begin feedback) [] [] := by
    rw [roots]
    rfl
  have found : (Run.begin feedback).graph.node? "node_1" = some echoing := rfl
  have evaluated : constantStart.evaluate echoing ((Run.begin feedback).graph.inputs echoing) =
      ⟨[], .ok [("out", .int 1)]⟩ := rfl
  have reaches := Reaches.visit .begin enters found evaluated
  rw [show (Run.begin feedback).graph.successors "node_1" = ["node_1"] from follows] at reaches
  have again : (((Run.begin feedback).entered echoing []).stored echoing
      [("out", .int 1)]).counted.graph.node? "node_1" =
        some (echoing.withData [("out", .int 1)]) := rfl
  have receives := (receives_of_reaches reaches).2 _ _ _ _ _ rfl again
  have input : ⟨"p_2", .null, "in", .text "number", .text "in", false⟩ ∈
      (echoing.withData [("out", .int 1)]).dataPorts .input := List.mem_cons_self
  obtain ⟨source, begins, received⟩ := receives.fed _ input _ rfl
  cases begins
  have node : Ref.node "node_1:out" = "node_1" := by decide +kernel
  have port : Ref.port "node_1:out" = "out" := by decide +kernel
  rw [node, port] at received
  exact ⟨_, _, _, _, reaches, rfl, again, received⟩

end Graph

end NodeFlow
