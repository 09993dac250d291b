import NodeFlow.Proofs.Run.Dataflow
import NodeFlow.Proofs.Run.Lockstep

/-!
# Control does not depend on data

Which nodes a run visits, and in which order, is settled by the kinds of the nodes and by the exec
edges; what the nodes hold, how they are evaluated and what flows along data edges can only end the
run early. Main statement: of two runs of graphs that agree on this much, one visits what the other
one does, as far as it goes; they differ in nothing of the control flow unless an evaluator fails.
-/

namespace NodeFlow

/-- A registry without failures has a visit for every node that is due. -/
theorem Registry.NeverFails.exists_visit {registry : Registry} (never : registry.NeverFails)
    {id : String} {before : Progress} (present : before.graph.contains id = true) :
    ∃ visit : Visit, visit.node.id = id ∧ visit.Happens registry before := by
  obtain ⟨node, found⟩ := Graph.contains_iff.1 present
  have name := Graph.id_of_node? found
  rcases evaluated : registry.evaluate node (before.graph.inputs node) with ⟨lines, outcome⟩
  cases outcome with
  | error failure => exact absurd (congrArg Evaluation.outcome evaluated) (never _ _ _)
  | ok outputs => exact ⟨⟨node, _, lines, outputs⟩, name, name ▸ found, rfl, evaluated⟩

namespace Graph

/-- The ends of the committed exec edges, in order. -/
def controlEnds (graph : Graph) : List (Endpoint × Endpoint) :=
  (graph.edges.filter fun edge => edge.isCommitted && edge.isExec).map fun edge =>
    (edge.source, edge.target)

/-- The graphs agree on everything that control flows by: nodes of the same ids and kinds in the
same order, and the same committed exec edges in the same order. -/
structure SameControl (graph other : Graph) : Prop where
  nodes : graph.nodes.map (fun node => (node.id, node.kind)) =
    other.nodes.map fun node => (node.id, node.kind)
  edges : graph.controlEnds = other.controlEnds

theorem successors_eq (graph : Graph) (id : String) : graph.successors id =
    graph.controlEnds.filterMap fun ends =>
      if ends.1.node? == some id then ends.2.node? else none := by
  rw [controlEnds, List.filterMap_map, List.filterMap_filter, successors]
  refine List.filterMap_congr fun edge _ => ?_
  rw [Edge.follows?_eq]
  cases (edge.isCommitted && edge.isExec) <;> rfl

namespace SameControl

variable {graph other : Graph}

theorem symm (same : graph.SameControl other) : other.SameControl graph :=
  ⟨same.nodes.symm, same.edges.symm⟩

theorem roots (same : graph.SameControl other) : other.roots = graph.roots := by
  rw [roots_eq, roots_eq, same.nodes]

theorem contains (same : graph.SameControl other) (id : String) :
    other.contains id = graph.contains id := by
  have ids := congrArg (List.map Prod.fst) same.nodes
  simp only [List.map_map, Function.comp_def] at ids
  rw [Graph.contains, Graph.contains]
  exact congrArg (List.contains · id) ids.symm

theorem successors (same : graph.SameControl other) (id : String) :
    other.successors id = graph.successors id := by
  rw [successors_eq, successors_eq, same.edges]

end SameControl

/-- Two runs have come equally far, whatever their nodes hold. -/
structure Abreast (graph other : Graph) (before before' : Progress) : Prop where
  shape : before.graph.SameShape graph
  shape' : before'.graph.SameShape other
  steps : before'.steps = before.steps
  visited : before'.visited = before.visited

/-- A run without failures keeps abreast of every other one. -/
theorem SameControl.lockstep {graph other : Graph} (same : graph.SameControl other)
    (registry : Registry) {quiet : Registry} (never : quiet.NeverFails) (visits : List Visit) :
    graph.Lockstep registry quiet other visits (graph.Abreast other) where
  begin := ⟨.refl graph, .refl other, rfl, rfl⟩
  roots := same.roots
  steps abreast := abreast.steps
  counted abreast := ⟨abreast.shape, abreast.shape', congrArg (· + 1) abreast.steps,
    abreast.visited⟩
  missing {before before' id} abreast missing := by
    have absent : graph.contains id = false := by
      rw [← abreast.shape.contains, Bool.eq_false_iff, Ne, contains_iff, missing]
      simp
    cases found : before'.graph.node? id with
    | none => rfl
    | some node =>
      have present := contains_iff.2 ⟨node, found⟩
      rw [abreast.shape'.contains, same.contains, absent] at present
      cases present
  visit {visit before before'} _ abreast happens := by
    have present : before'.graph.contains visit.node.id = true := by
      rw [abreast.shape'.contains, same.contains, ← abreast.shape.contains]
      exact contains_iff.2 ⟨_, happens.found⟩
    obtain ⟨visit', name, happens'⟩ := never.exists_visit present
    refine ⟨visit', name, happens', ?_, ?_, ?_, abreast.steps, ?_⟩
    · rw [abreast.shape'.successors, same.successors, abreast.shape.successors]
    · exact (before.past_sameShape visit).trans abreast.shape
    · exact (before'.past_sameShape visit').trans abreast.shape'
    · rw [Progress.past_visited, Progress.past_visited, name, abreast.visited]

/-- What a run visits is the beginning of what a run without failures visits; it is all of it, with
the same count of steps and the same end, unless an evaluator has ended the run. -/
theorem SameControl.leads {graph other : Graph} (same : graph.SameControl other)
    (registry : Registry) {quiet : Registry} (never : quiet.NeverFails) (maxSteps : Int) :
    (Run.progressOf (graph.run registry maxSteps)).visited.toList <+:
      (Run.progressOf (other.run quiet maxSteps)).visited.toList ∧
    (Run.isRaised (graph.run registry maxSteps) = false →
      (Run.progressOf (graph.run registry maxSteps)).visited =
        (Run.progressOf (other.run quiet maxSteps)).visited ∧
      (Run.progressOf (graph.run registry maxSteps)).steps =
        (Run.progressOf (other.run quiet maxSteps)).steps ∧
      Run.failure? (graph.run registry maxSteps) = Run.failure? (other.run quiet maxSteps)) := by
  obtain ⟨visits, moment, reaches, ends⟩ :=
    run_eq_iff_ends.1 (Eq.refl (graph.run registry maxSteps))
  have lockstep := same.lockstep registry never visits
  generalize graph.run registry maxSteps = result at ends
  cases ends with
  | finish turn =>
    obtain ⟨after, ran, abreast⟩ := lockstep.finishes reaches turn
    rw [ran]
    refine ⟨?_, fun _ => ⟨abreast.visited.symm, abreast.steps.symm, rfl⟩⟩
    exact (congrArg Array.toList abreast.visited.symm) ▸ List.prefix_rfl
  | exceed turn =>
    obtain ⟨before, ran, abreast⟩ := lockstep.exceeds reaches turn
    rw [ran]
    refine ⟨?_, fun _ => ⟨abreast.visited.symm, congrArg (· + 1) abreast.steps.symm, rfl⟩⟩
    exact (congrArg Array.toList abreast.visited.symm) ▸ List.prefix_rfl
  | @fail id progress _ _ node _ failure turn found _ =>
    refine ⟨?_, fun calm => by simp [Run.isRaised, Run.failure?] at calm⟩
    obtain ⟨_, _, progress', reaches', turn', abreast⟩ := lockstep.enters reaches turn
    have present : progress'.graph.contains id = true := by
      rw [abreast.shape'.contains, same.contains, ← abreast.shape.contains]
      exact contains_iff.2 ⟨node, found⟩
    -- The other run completes the visit that fails in this one.
    obtain ⟨visit, rfl, happens⟩ := never.exists_visit present
    have later := (reaches'.goOn turn' happens).extends_progress.2
    rw [Progress.past_visited, abreast.visited] at later
    simpa [Run.progressOf, id_of_node? found] using later

end Graph

end NodeFlow
