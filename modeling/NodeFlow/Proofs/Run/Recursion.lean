import NodeFlow.Proofs.Run.Walk

/-!
# The run as a recursion

The recursive reading of a run: stepping to a node evaluates it and then walks each of its exec
edges to the end before the next one, all against one count of steps. It is given by rules, so it
needs no bound of its own on the depth. Main statement: the walk over the pending list gives
exactly the result that the rules derive, with the same log, visits, steps, data and outcome.
-/

namespace NodeFlow

/-- How a run, or a part of it, ends. -/
abbrev RunResult := EStateM.Result RunFailure Progress Unit

namespace Graph

/-- The committed exec edges that leave a node, in the order in which they were added. -/
def execEdges (graph : Graph) (id : String) : List Edge :=
  graph.edges.filter fun edge =>
    edge.isCommitted && edge.isExec && edge.source.node? == some id

end Graph

mutual

/-- The step to a node with all that follows from it. -/
inductive Steps (registry : Registry) (maxSteps : Int) : String → Progress → RunResult → Prop
  /-- A node that is not in the graph is skipped. -/
  | absent {id : String} {before : Progress}
      (missing : before.graph.node? id = none) :
      Steps registry maxSteps id before (.ok () before)
  /-- A failing evaluation ends the run; its lines stand and nothing is stored. -/
  | failed {id : String} {before : Progress} {node : Node} {lines : List String}
      {failure : EvalFailure}
      (found : before.graph.node? id = some node)
      (evaluated : registry.evaluate node (before.graph.inputs node) = ⟨lines, .error failure⟩) :
      Steps registry maxSteps id before
        (.error (.ofEvaluation node failure) (before.entered node lines))
  /-- The outputs are stored and then the exec edges that leave the node are followed. -/
  | visited {id : String} {before : Progress} {node : Node} {lines : List String}
      {outputs : Fields} {result : RunResult}
      (found : before.graph.node? id = some node)
      (evaluated : registry.evaluate node (before.graph.inputs node) = ⟨lines, .ok outputs⟩)
      (branches : Follows registry maxSteps (before.graph.execEdges id)
        ((before.entered node lines).stored node outputs) result) :
      Steps registry maxSteps id before result

/-- Following exec edges one after the other, each to the end. -/
inductive Follows (registry : Registry) (maxSteps : Int) :
    List Edge → Progress → RunResult → Prop
  | done {before : Progress} : Follows registry maxSteps [] before (.ok () before)
  /-- The edge is counted first; if the count exceeds the limit the run ends there. -/
  | exceeded {edge : Edge} {rest : List Edge} {before : Progress} {target : String}
      (leads : edge.target.node? = some target)
      (beyond : maxSteps < before.counted.steps) :
      Follows registry maxSteps (edge :: rest) before
        (.error (.budgetExceeded maxSteps target)
          (before.counted.logged ["! " ++ (RunFailure.budgetExceeded maxSteps target).message]))
  | failed {edge : Edge} {rest : List Edge} {before after : Progress} {target : String}
      {failure : RunFailure}
      (leads : edge.target.node? = some target)
      (within : before.counted.steps ≤ maxSteps)
      (branch : Steps registry maxSteps target before.counted (.error failure after)) :
      Follows registry maxSteps (edge :: rest) before (.error failure after)
  | next {edge : Edge} {rest : List Edge} {before during : Progress} {target : String}
      {result : RunResult}
      (leads : edge.target.node? = some target)
      (within : before.counted.steps ≤ maxSteps)
      (branch : Steps registry maxSteps target before.counted (.ok () during))
      (others : Follows registry maxSteps rest during result) :
      Follows registry maxSteps (edge :: rest) before result

end

/-- An exec edge of a node leads somewhere. -/
theorem Graph.target_of_mem_execEdges {graph : Graph} {id : String} {edge : Edge}
    (member : edge ∈ graph.execEdges id) : ∃ target, edge.target.node? = some target := by
  have conditions := (List.mem_filter.1 member).2
  simp only [Edge.isCommitted, Bool.and_eq_true] at conditions
  have committed := conditions.1.1.2
  cases target : edge.target with
  | ref text => exact ⟨_, rfl⟩
  | point x y => simp [target, Endpoint.ref?] at committed

/-- The successors of a node are the nodes that its exec edges lead to. -/
theorem Graph.successors_eq_targets (graph : Graph) (id : String) :
    graph.successors id = (graph.execEdges id).filterMap (·.target.node?) := by
  rw [execEdges, List.filterMap_filter, successors]
  exact List.filterMap_congr fun edge _ => Edge.follows?_eq id edge

namespace Run

/-- What is left of the limit. -/
def left (maxSteps : Int) (progress : Progress) : Nat :=
  (maxSteps - progress.steps).toNat

/-- The result of a part of a run, with what it leaves of the limit. -/
def leaving (maxSteps : Int) : RunResult → EStateM.Result RunFailure Progress Nat
  | .ok _ after => .ok (left maxSteps after) after
  | .error failure after => .error failure after

variable {registry : Registry} {maxSteps : Int}

/-! ## The pending list at the boundary of the limit -/

theorem drain_over {before : Progress} {target : String} (pending : List String)
    (beyond : maxSteps < before.counted.steps) :
    drain registry maxSteps (left maxSteps before) (target :: pending) before =
      .error (.budgetExceeded maxSteps target)
        (before.counted.logged ["! " ++ (RunFailure.budgetExceeded maxSteps target).message]) := by
  have none : left maxSteps before = 0 := by
    rw [Progress.counted_steps] at beyond
    rw [left]
    omega
  rw [none, drain_zero]

/-- Within the limit the first pending node is visited, what follows it is walked to its end, and
then the others. -/
theorem drain_within {before : Progress} {target : String} (pending : List String)
    (within : before.counted.steps ≤ maxSteps) :
    drain registry maxSteps (left maxSteps before) (target :: pending) before =
      andThen (andThen (visit registry target before.counted) fun next during =>
          drain registry maxSteps (left maxSteps before.counted) next during) fun budget during =>
        drain registry maxSteps budget pending during := by
  have some : left maxSteps before = left maxSteps before.counted + 1 := by
    rw [Progress.counted_steps] at within
    rw [left, left, Progress.counted_steps]
    omega
  rw [some, drain_succ, andThen_assoc]
  congr 1
  funext next during
  exact drain_append_apply _ _ _ _ _ _

/-! ## The walk gives what the rules derive -/

mutual

/-- A visit and the walk over what follows it give what the rules derive for the step. -/
theorem visit_of_steps {id : String} {before : Progress} {result : RunResult} :
    Steps registry maxSteps id before result →
    (andThen (visit registry id before) fun next during =>
      drain registry maxSteps (left maxSteps before) next during) = leaving maxSteps result
  | .absent missing => by
    rw [visit_of_absent missing, andThen_ok, drain_nil]
    rfl
  | .failed found evaluated => by
    rw [visit_of_failure found evaluated, andThen_error]
    rfl
  | .visited found evaluated branches => by
    rw [visit_of_outputs found evaluated, andThen_ok, Graph.successors_eq_targets]
    exact drain_of_follows branches

/-- The walk over the targets of some edges gives what the rules derive for following them. -/
theorem drain_of_follows {edges : List Edge} {before : Progress} {result : RunResult} :
    Follows registry maxSteps edges before result →
    drain registry maxSteps (left maxSteps before) (edges.filterMap (·.target.node?)) before =
      leaving maxSteps result
  | .done => drain_nil _ _ _ _
  | .exceeded leads beyond => by
    simp only [List.filterMap_cons, leads]
    exact drain_over _ beyond
  | .failed leads within step => by
    simp only [List.filterMap_cons, leads]
    rw [drain_within _ within, visit_of_steps step]
    rfl
  | .next leads within step others => by
    simp only [List.filterMap_cons, leads]
    rw [drain_within _ within, visit_of_steps step]
    exact drain_of_follows others

end

/-- The result exists and takes no steps back. -/
def Derives (rule : RunResult → Prop) (before : Progress) : Prop :=
  ∃ result, rule result ∧ ∀ after, result = .ok () after → before.steps ≤ after.steps

end Run

end NodeFlow
