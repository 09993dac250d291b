import NodeFlow.Proofs.Run.Lockstep

/-!
# Runs seen through a view of the graph

A view shows another graph in place of a graph: one without some nodes, say, or with nodes that are
drawn elsewhere. What is stored in the graph has to be stored in the view as well. Main statement:
if a view keeps what runs read of the nodes that they can come to, then to run what it shows is to
run the graph and see the result through the view.
-/

namespace NodeFlow

/-- The nodes have the same data, ports and names, and no evaluator tells them apart. -/
structure Registry.Confuses (registry : Registry) (node other : Node) : Prop where
  id : other.id = node.id
  kind : other.kind = node.kind
  ports : other.ports = node.ports
  data : other.data = node.data
  evaluate : ∀ inputs, registry.evaluate other inputs = registry.evaluate node inputs

/-- What a moment has still to do begins with the node that it enters. -/
theorem Moment.due_of_turn_enter {maxSteps : Int} {moment : Moment} {id : String}
    {progress : Progress} {pending roots : List String}
    (turn : moment.turn maxSteps = .enter id progress pending roots) :
    moment.pending ++ moment.roots = id :: (pending ++ roots) := by
  rcases cases_of_turn_enter turn with ⟨shape, rfl⟩ | ⟨shape, _, _⟩ <;> rw [shape] <;> rfl

namespace Graph

/-- The view shows what runs read of the graph, whatever data its nodes have: the start nodes, the
nodes that follow, and of every node in reach all that its evaluation depends on. -/
structure SeenBy (registry : Registry) (inReach : String → Prop) (view : Graph → Graph)
    (graph : Graph) : Prop where
  changeData : ∀ (now : Graph) id change,
    view (now.changeData id change) = (view now).changeData id change
  roots : (view graph).roots = graph.roots
  start : ∀ id ∈ graph.roots, inReach id
  follow : ∀ id, inReach id → ∀ next ∈ graph.successors id, inReach next
  successors : ∀ {now : Graph} {id}, now.SameShape graph → inReach id →
    (view now).successors id = now.successors id
  missing : ∀ {now : Graph} {id}, now.node? id = none → (view now).node? id = none
  node : ∀ {now : Graph} {id node}, now.SameShape graph → inReach id →
    now.node? id = some node → ∃ other, (view now).node? id = some other ∧
      registry.Confuses node other ∧ (view now).inputs other = now.inputs node

/-- Two runs have come equally far, and the graph of the second one is what the view shows of the
graph of the first one. -/
structure Beheld (view : Graph → Graph) (graph : Graph) (before before' : Progress) : Prop where
  shape : before.graph.SameShape graph
  graph : before'.graph = view before.graph
  log : before'.log = before.log
  visited : before'.visited = before.visited
  steps : before'.steps = before.steps

namespace SeenBy

variable {registry : Registry} {maxSteps : Int} {inReach : String → Prop} {view : Graph → Graph}
  {graph : Graph} {visits : List Visit} {moment : Moment}

/-- A run visits only nodes in reach, and has only such nodes still to come. -/
theorem reached (seen : graph.SeenBy registry inReach view)
    (reaches : graph.Reaches registry maxSteps visits moment) :
    (∀ visit ∈ visits, inReach visit.node.id) ∧
      ∀ id ∈ moment.pending ++ moment.roots, inReach id := by
  induction reaches with
  | begin => exact ⟨by simp, seen.start⟩
  | pass _ turn _ ih =>
    rw [Moment.due_of_turn_enter turn] at ih
    exact ⟨ih.1, (List.forall_mem_cons.1 ih.2).2⟩
  | @visit _ _ id progress _ _ node _ _ earlier turn found _ ih =>
    rw [Moment.due_of_turn_enter turn] at ih
    obtain ⟨first, others⟩ := List.forall_mem_cons.1 ih.2
    refine ⟨fun visit member => ?_, fun next member => ?_⟩
    · rcases List.mem_append.1 member with old | new
      · exact ih.1 visit old
      · rw [List.mem_singleton.1 new]
        exact id_of_node? found ▸ first
    · rw [List.append_assoc] at member
      rcases List.mem_append.1 member with new | old
      · rw [(Moment.frame_of_turn_enter turn).1, earlier.sameShape.successors] at new
        exact seen.follow id first next new
      · exact others next old

/-- The run of what the view shows makes the visits of the run of the graph. -/
theorem lockstep (seen : graph.SeenBy registry inReach view)
    (among : ∀ visit ∈ visits, inReach visit.node.id) :
    graph.Lockstep registry registry (view graph) visits (Beheld view graph) where
  begin := ⟨.refl graph, rfl, rfl, rfl, rfl⟩
  roots := seen.roots
  steps beheld := beheld.steps
  counted beheld := ⟨beheld.shape, beheld.graph, beheld.log, beheld.visited,
    congrArg (· + 1) beheld.steps⟩
  missing beheld absent := beheld.graph ▸ seen.missing absent
  visit {visit before before'} member beheld happens := by
    have inReach := among visit member
    obtain ⟨other, found, confuses, inputs⟩ := seen.node beheld.shape inReach happens.found
    have ports : other.dataPorts .output = visit.node.dataPorts .output :=
      congrArg (List.filter _) confuses.ports
    refine ⟨⟨other, visit.inputs, visit.lines, visit.outputs⟩, confuses.id, ⟨?_, ?_, ?_⟩, ?_, ?_⟩
    · rw [beheld.graph, confuses.id, found]
    · rw [beheld.graph, inputs, happens.inputs]
    · rw [confuses.evaluate, happens.evaluated]
    · rw [beheld.graph, seen.successors beheld.shape inReach]
    · refine ⟨(before.past_sameShape visit).trans beheld.shape, ?_, ?_, ?_, beheld.steps⟩
      · rw [Progress.past_graph, Progress.past_graph, seen.changeData, beheld.graph, confuses.id]
        congr 1
        funext data
        rw [Node.store, Node.store, ports]
      · rw [Progress.past_log, Progress.past_log, beheld.log]
      · rw [Progress.past_visited, Progress.past_visited, beheld.visited, confuses.id]

/-- To run what the view shows is to run the graph and see the result through the view. -/
theorem run (seen : graph.SeenBy registry inReach view) (maxSteps : Int) :
    Run.SameCourse (graph.run registry maxSteps) ((view graph).run registry maxSteps) ∧
      (Run.progressOf ((view graph).run registry maxSteps)).graph =
        view (Run.progressOf (graph.run registry maxSteps)).graph := by
  obtain ⟨visits, moment, reaches, ends⟩ :=
    run_eq_iff_ends.1 (Eq.refl (graph.run registry maxSteps))
  obtain ⟨visited, due⟩ := seen.reached reaches
  obtain ⟨course, before, before', beheld, left, left'⟩ :=
    (seen.lockstep visited).sameCourse reaches ends Beheld.log Beheld.visited <| by
      intro id _ _ _ _ node _ _ turn beheld found evaluated
      rw [Moment.due_of_turn_enter turn] at due
      have inReach := (List.forall_mem_cons.1 due).1
      obtain ⟨other, found', confuses, inputs⟩ := seen.node beheld.shape inReach found
      refine ⟨other, beheld.graph ▸ found', confuses.kind, ?_⟩
      rw [beheld.graph, inputs, confuses.evaluate, evaluated]
  exact ⟨course, by rw [left, left', beheld.graph]⟩

end SeenBy

end Graph

end NodeFlow
