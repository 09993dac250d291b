import NodeFlow.Graph.Editing
import NodeFlow.Proofs.Run.Control

/-!
# What a run sees of the order

The nodes and the edges of a graph stand in lists, and a run does not see all of their order: of
the nodes only the order of the start nodes, of the exec edges only the order of those that leave
one node, of the data edges only the last one into each input. Main statement: graphs that agree on
this much cannot be told apart by running them.
-/

namespace NodeFlow

/-- The runs log, visit and count the same, end in the same way and leave the same in the nodes. -/
structure Run.Alike (first second : RunResult) : Prop where
  log : (progressOf first).log = (progressOf second).log
  visited : (progressOf first).visited = (progressOf second).visited
  steps : (progressOf first).steps = (progressOf second).steps
  failure : failure? first = failure? second
  nodes : ∀ id, (progressOf first).graph.node? id = (progressOf second).graph.node? id

/-- Whether two edges compete for a place: they are committed data edges into one reference, or
committed exec edges out of one node. -/
def Edge.meets (edge other : Edge) : Bool :=
  edge.isCommitted && other.isCommitted && edge.isExec == other.isExec &&
    if edge.isExec then edge.source.node? == other.source.node?
    else edge.target.ref? == other.target.ref?

namespace Graph

/-- The graphs have the same nodes, in any order that keeps that of the start nodes; the same nodes
follow every node in the same order; and every reference has the same feed, that is the source of
the last committed data edge into it. -/
structure SameFlow (graph other : Graph) : Prop where
  nodes : graph.nodes.Perm other.nodes
  roots : graph.roots = other.roots
  successors : ∀ id, graph.contains id = true → graph.successors id = other.successors id
  feeds : ∀ ref, graph.feed? ref = other.feed? ref

namespace SameFlow

variable {graph other : Graph}

theorem node? (same : graph.SameFlow other) (id : String) : other.node? id = graph.node? id := by
  cases found : graph.node? id with
  | none =>
    rw [node?_eq_none_iff] at found ⊢
    exact fun member => found ((same.nodes.map Node.id).mem_iff.2 member)
  | some node =>
    rw [← id_of_node? found]
    exact node?_of_mem (same.nodes.mem_iff.1 (mem_of_node? found))

/-- To write data on both sides changes nothing of it. -/
theorem changeData (same : graph.SameFlow other) (id : String) (change : Fields → Fields) :
    (graph.changeData id change).SameFlow (other.changeData id change) := by
  have shape := sameShape_changeData graph id change
  have shape' := sameShape_changeData other id change
  refine ⟨same.nodes.map _, ?_, ?_, same.feeds⟩
  · rw [shape.roots, shape'.roots, same.roots]
  · intro node present
    rw [shape.contains] at present
    rw [shape.successors, shape'.successors, same.successors node present]

theorem inputs (same : graph.SameFlow other) (node : Node) :
    other.inputs node = graph.inputs node := by
  have outputs : other.outputValue = graph.outputValue := by
    funext ref
    rw [outputValue, outputValue, same.node?]
  have value : other.inputValue node = graph.inputValue node := by
    funext port
    rw [inputValue, inputValue, ← same.feeds, outputs]
  rw [Graph.inputs, Graph.inputs, value]

end SameFlow

/-- Two runs of the graphs have come equally far with the same results. -/
structure Matching (before before' : Progress) : Prop where
  flow : before.graph.SameFlow before'.graph
  log : before'.log = before.log
  visited : before'.visited = before.visited
  steps : before'.steps = before.steps

namespace SameFlow

variable {graph other : Graph}

/-- The runs make the same visits. -/
theorem lockstep (same : graph.SameFlow other) (registry : Registry) (visits : List Visit) :
    graph.Lockstep registry registry other visits Matching where
  begin := ⟨same, rfl, rfl, rfl⟩
  roots := same.roots.symm
  steps matching := matching.steps
  counted matching := ⟨matching.flow, matching.log, matching.visited,
    congrArg (· + 1) matching.steps⟩
  missing matching missing := (matching.flow.node? _).trans missing
  visit {visit before before'} _ matching happens := by
    have present : before.graph.contains visit.node.id = true :=
      contains_iff.2 ⟨_, happens.found⟩
    refine ⟨visit, rfl, ⟨?_, ?_, happens.evaluated⟩, ?_, ?_⟩
    · rw [matching.flow.node?, happens.found]
    · rw [matching.flow.inputs, happens.inputs]
    · exact (matching.flow.successors _ present).symm
    · refine ⟨matching.flow.changeData _ _, ?_, ?_, matching.steps⟩
      · rw [Progress.past_log, Progress.past_log, matching.log]
      · rw [Progress.past_visited, Progress.past_visited, matching.visited]

theorem alike (same : graph.SameFlow other) (registry : Registry) (maxSteps : Int) :
    Run.Alike (graph.run registry maxSteps) (other.run registry maxSteps) := by
  obtain ⟨visits, moment, reaches, ends⟩ :=
    run_eq_iff_ends.1 (Eq.refl (graph.run registry maxSteps))
  obtain ⟨course, before, before', matching, left, left'⟩ :=
    (same.lockstep registry visits).sameCourse reaches ends Matching.log Matching.visited <| by
      intro id _ progress' _ _ node _ _ _ matching found evaluated
      exact ⟨node, (matching.flow.node? id).trans found, rfl,
        (congrArg _ (matching.flow.inputs node)).trans evaluated⟩
  refine ⟨course.log, course.visited, course.steps, course.failure, fun id => ?_⟩
  rw [left, left']
  exact (matching.flow.node? id).symm

end SameFlow

/-! ## Changes of the edge list that no run sees -/

end Graph

section Lists

variable {α β : Type} {view : α → Option β} {first between rest : List α} {one two : α}

/-- Two items of which a view shows only one, or none, may change places if it shows nothing of what
is between them. -/
theorem filterMap_exchange (apart : ∀ item ∈ two :: between, view one = none ∨ view item = none)
    (apart' : ∀ item ∈ between, view two = none ∨ view item = none) :
    (first ++ one :: between ++ two :: rest).filterMap view =
      (first ++ two :: between ++ one :: rest).filterMap view := by
  have hidden : (∃ item, view one = some item) ∨ (∃ item, view two = some item) →
      between.filterMap view = [] := by
    intro shown
    rw [List.filterMap_eq_nil_iff]
    intro item member
    rcases shown with ⟨_, shown⟩ | ⟨_, shown⟩
    · simpa [shown] using apart item (List.mem_cons_of_mem _ member)
    · simpa [shown] using apart' item member
  cases here : view one with
  | none =>
    cases there : view two with
    | none => simp [here, there]
    | some item => simp [here, there, hidden (.inr ⟨item, there⟩)]
  | some item =>
    have there : view two = none := by simpa [here] using apart two List.mem_cons_self
    simp [here, there, hidden (.inl ⟨item, here⟩)]

/-- What a later item hides cannot be seen from the end. -/
theorem getLast?_filterMap_drop (hidden : view one = none ∨ ∃ item ∈ rest, view item ≠ none) :
    ((first ++ one :: rest).filterMap view).getLast? =
      ((first ++ rest).filterMap view).getLast? := by
  rcases hidden with none | ⟨item, member, shown⟩
  · simp [none]
  · have later : rest.filterMap view ≠ [] := by
      rw [Ne, List.filterMap_eq_nil_iff]
      exact fun all => shown (all item member)
    obtain ⟨last, ends⟩ := Option.isSome_iff_exists.1 (List.getLast?_isSome.2 later)
    cases here : view one <;> simp [here, ends, List.getLast?_cons]

end Lists

namespace Edge

variable {edge other : Edge}

theorem follows?_of_meets_eq_false (apart : edge.meets other = false) (id : String) :
    edge.follows? id = none ∨ other.follows? id = none := by
  have shows : ∀ {edge : Edge}, edge.follows? id ≠ none →
      edge.isCommitted = true ∧ edge.isExec = true ∧ edge.source.node? = some id := by
    intro edge shown
    obtain ⟨next, follows⟩ := Option.ne_none_iff_exists'.1 shown
    obtain ⟨committed, exec, source, _⟩ := follows?_eq_some_iff.1 follows
    exact ⟨committed, exec, source⟩
  by_contra both
  rw [not_or] at both
  obtain ⟨committed, exec, source⟩ := shows both.1
  obtain ⟨committed', exec', source'⟩ := shows both.2
  simp [meets, committed, exec, source, committed', exec', source'] at apart

theorem feeds?_ne_none_iff {ref : String} : edge.feeds? ref ≠ none ↔
    edge.isCommitted = true ∧ edge.isExec = false ∧ edge.target.ref? = some ref := by
  rw [Graph.feeds?_eq]
  by_cases into : (edge.isCommitted && !edge.isExec && edge.target.ref? == some ref) = true
  · rw [if_pos into]
    simp only [Bool.and_eq_true, Bool.not_eq_true', beq_iff_eq] at into
    refine iff_of_true ?_ ⟨into.1.1, into.1.2, into.2⟩
    have committed := into.1.1
    simp only [isCommitted, Bool.and_eq_true] at committed
    exact Option.isSome_iff_ne_none.1 committed.1
  · rw [if_neg into]
    simp only [Bool.and_eq_true, Bool.not_eq_true', beq_iff_eq] at into
    refine iff_of_false (by simp) ?_
    rintro ⟨committed, data, target⟩
    exact into ⟨⟨committed, data⟩, target⟩

theorem feeds?_of_meets_eq_false (apart : edge.meets other = false) (ref : String) :
    edge.feeds? ref = none ∨ other.feeds? ref = none := by
  by_contra both
  rw [not_or] at both
  obtain ⟨committed, data, target⟩ := feeds?_ne_none_iff.1 both.1
  obtain ⟨committed', data', target'⟩ := feeds?_ne_none_iff.1 both.2
  simp [meets, committed, data, target, committed', data', target'] at apart

theorem feeds?_of_meets (data : edge.isExec = false) (meets : edge.meets other = true)
    {ref : String} (feeds : edge.feeds? ref ≠ none) : other.feeds? ref ≠ none := by
  obtain ⟨_, _, target⟩ := feeds?_ne_none_iff.1 feeds
  simp only [Edge.meets, data, target, Bool.and_eq_true, beq_iff_eq] at meets
  obtain ⟨⟨⟨_, committed⟩, data'⟩, target'⟩ := meets
  exact feeds?_ne_none_iff.2 ⟨committed, data'.symm, (by simpa using target' : some ref = _).symm⟩

end Edge

namespace Graph

variable {graph : Graph}

/-- A data edge may go if a later one leads into the same reference. -/
theorem sameFlow_of_shadowed {first rest : List Edge} {edge : Edge}
    (edges : graph.edges = first ++ edge :: rest) (data : edge.isExec = false)
    (shadowed : ∃ later ∈ rest, edge.meets later = true) :
    graph.SameFlow (graph.withEdges (first ++ rest)) := by
  refine ⟨.refl _, rfl, fun id _ => ?_, fun ref => ?_⟩
  · have follows : edge.follows? id = none := by simp [Edge.follows?, data]
    simp [successors, withEdges, edges, follows]
  · obtain ⟨later, member, meets⟩ := shadowed
    rw [feed?, feed?, edges]
    refine getLast?_filterMap_drop ?_
    by_cases feeds : edge.feeds? ref = none
    · exact .inl feeds
    · exact .inr ⟨later, member, Edge.feeds?_of_meets data meets feeds⟩

/-- Two edges may change places if they compete neither with each other nor with an edge between
them. -/
theorem sameFlow_of_exchange {first between rest : List Edge} {one two : Edge}
    (edges : graph.edges = first ++ one :: between ++ two :: rest)
    (apart : ∀ edge ∈ two :: between, one.meets edge = false)
    (apart' : ∀ edge ∈ between, two.meets edge = false) :
    graph.SameFlow (graph.withEdges (first ++ two :: between ++ one :: rest)) := by
  refine ⟨.refl _, rfl, fun id _ => ?_, fun ref => ?_⟩
  · rw [successors, successors, edges]
    exact filterMap_exchange
      (fun edge member => Edge.follows?_of_meets_eq_false (apart edge member) id)
      fun edge member => Edge.follows?_of_meets_eq_false (apart' edge member) id
  · rw [feed?, feed?, edges]
    exact congrArg List.getLast? (filterMap_exchange
      (fun edge member => Edge.feeds?_of_meets_eq_false (apart edge member) ref)
      fun edge member => Edge.feeds?_of_meets_eq_false (apart' edge member) ref)

theorem disconnect_eq {first rest : List Edge} {edge : Edge}
    (edges : graph.edges = first ++ edge :: rest)
    (single : ∀ other ∈ first ++ rest, other.id ≠ edge.id) :
    graph.disconnect edge.id = graph.withEdges (first ++ rest) := by
  have kept : (first ++ rest).filter (fun other => other.id != edge.id) = first ++ rest := by
    rw [List.filter_eq_self]
    exact fun other member => by simpa using single other member
  rw [List.filter_append] at kept
  rw [disconnect, edges, List.filter_append, List.filter_cons_of_neg (by simp), kept]

/-- A run sees of the order of nodes and edges only in which order the start nodes stand, which
nodes follow a node in which order, and what feeds an input; the log, the visits, the steps, the
end and the data of every node follow from that. A data edge that is shadowed by a later one can
therefore be taken out, and disconnected if no other edge has its id; and two edges can change
places, if they do not lead into the same input or out of the same node, and no edge between them
does so with one of them. -/
theorem run_of_sameFlow (registry : Registry) (maxSteps : Int) (graph : Graph) :
    (∀ other, graph.SameFlow other →
      Run.Alike (graph.run registry maxSteps) (other.run registry maxSteps)) ∧
    (∀ first edge rest, graph.edges = first ++ edge :: rest → edge.isExec = false →
      (∃ later ∈ rest, edge.meets later = true) →
        Run.Alike (graph.run registry maxSteps)
          ((graph.withEdges (first ++ rest)).run registry maxSteps) ∧
        ((∀ other ∈ first ++ rest, other.id ≠ edge.id) →
          Run.Alike (graph.run registry maxSteps)
            ((graph.disconnect edge.id).run registry maxSteps))) ∧
    ∀ first one between two rest, graph.edges = first ++ one :: between ++ two :: rest →
      (∀ edge ∈ two :: between, one.meets edge = false) →
      (∀ edge ∈ between, two.meets edge = false) →
        Run.Alike (graph.run registry maxSteps)
          ((graph.withEdges (first ++ two :: between ++ one :: rest)).run registry maxSteps) := by
  refine ⟨fun other same => same.alike registry maxSteps, ?_, ?_⟩
  · intro first edge rest edges data shadowed
    have alike := (sameFlow_of_shadowed edges data shadowed).alike registry maxSteps
    exact ⟨alike, fun single => disconnect_eq edges single ▸ alike⟩
  · intro first one between two rest edges apart apart'
    exact (sameFlow_of_exchange edges apart apart').alike registry maxSteps

/-- The input is fed from a missing node first, and then from the node itself. -/
def shadowing : Graph :=
  feedback.withEdges [⟨"edge_4", .ref "node_1:execOut", .ref "node_1:execIn", true⟩,
    ⟨"edge_6", .ref "node_9:out", .ref "node_1:in", false⟩,
    ⟨"edge_5", .ref "node_1:out", .ref "node_1:in", false⟩]

/-- The shadowed edge changes nothing, whether it stands behind the exec edge, before it, or not at
all. -/
theorem shadowing_runs :
    shadowing.SameFlow feedback ∧
    Run.Alike (shadowing.run constantStart 2) (feedback.run constantStart 2) ∧
    Run.Alike (shadowing.run constantStart 2)
      ((shadowing.disconnect "edge_6").run constantStart 2) ∧
    Run.Alike (shadowing.run constantStart 2) ((shadowing.withEdges
      [⟨"edge_6", .ref "node_9:out", .ref "node_1:in", false⟩,
        ⟨"edge_4", .ref "node_1:execOut", .ref "node_1:execIn", true⟩,
        ⟨"edge_5", .ref "node_1:out", .ref "node_1:in", false⟩]).run constantStart 2) := by
  have shadowed : ∃ later ∈ [(⟨"edge_5", .ref "node_1:out", .ref "node_1:in", false⟩ : Edge)],
      Edge.meets ⟨"edge_6", .ref "node_9:out", .ref "node_1:in", false⟩ later = true :=
    ⟨_, List.mem_cons_self, by decide⟩
  have same : shadowing.SameFlow feedback :=
    sameFlow_of_shadowed (show shadowing.edges = [_] ++ _ :: [_] from rfl) rfl shadowed
  obtain ⟨alike, dropped, exchanged⟩ := run_of_sameFlow constantStart 2 shadowing
  refine ⟨same, alike feedback same, ?_, ?_⟩
  · exact (dropped [_] _ [_] rfl rfl shadowed).2 (by simp)
  · exact exchanged [] _ [] _ [_] rfl (by decide) (by simp)

/-- Two numbers and two nodes that print. Both numbers lead to the first of these, where the second
number shadows the first one; by the last edge, which has the given id, it also leads to the other
node. -/
def contested (last : String) : Graph where
  nodes := [{ Node.blank "node_1" with kind := "start" },
    { Node.blank "node_2" with kind := "number", data := [("v", .int 1)] },
    { Node.blank "node_3" with kind := "number", data := [("v", .int 2)] },
    { Node.blank "node_4" with
      kind := "print"
      ports := [⟨"p_6", .null, "in", .text "any", .text "in", false⟩] },
    { Node.blank "node_5" with
      kind := "print"
      ports := [⟨"p_7", .null, "in", .text "any", .text "in", false⟩] }]
  edges := [⟨"edge_8", .ref "node_1:execOut", .ref "node_4:execIn", true⟩,
    ⟨"edge_9", .ref "node_1:execOut", .ref "node_5:execIn", true⟩,
    ⟨"edge_10", .ref "node_2:v", .ref "node_4:in", false⟩,
    ⟨"edge_11", .ref "node_3:v", .ref "node_4:in", false⟩,
    ⟨last, .ref "node_3:v", .ref "node_5:in", false⟩]
  distinct := by decide

/-- Neither condition can be left out. An exchange of edges that do not compete is seen if one of
them comes to stand behind an edge with which it competes, and to disconnect a shadowed edge is seen
if an edge that is not shadowed has the same id. -/
theorem contested_seen :
    (∃ first one between two rest,
      (contested "edge_12").edges = first ++ one :: between ++ two :: rest ∧
      one.meets two = false ∧ one.source.node? ≠ two.source.node? ∧
      one.target.ref? ≠ two.target.ref? ∧
      ¬ Run.Alike ((contested "edge_12").run Registry.builtin 9)
        (((contested "edge_12").withEdges (first ++ two :: between ++ one :: rest)).run
          Registry.builtin 9)) ∧
    ∃ first edge rest, (contested "edge_10").edges = first ++ edge :: rest ∧
      edge.isExec = false ∧ (∃ later ∈ rest, edge.meets later = true) ∧
      ¬ Run.Alike ((contested "edge_10").run Registry.builtin 9)
        (((contested "edge_10").disconnect edge.id).run Registry.builtin 9) := by
  constructor
  · -- The first number gets behind the second one, and is printed instead of it.
    refine ⟨[_, _], _, [_], _, [], rfl, by decide, by decide, by decide, fun alike => ?_⟩
    exact absurd alike.log (by decide +kernel)
  · -- The edge into the other printing node goes as well, and nothing is left to print there.
    refine ⟨[_, _], _, [_, _], rfl, rfl, ⟨_, List.mem_cons_self, by decide⟩, fun alike => ?_⟩
    exact absurd alike.log (by decide +kernel)

end Graph

end NodeFlow
