import NodeFlow.Proofs.Run.Recursion

/-!
# Moments of a run

A run seen step by step. Between two visits it stands at a moment: so much progress, the targets of
followed nodes that are still pending, and the start nodes still to come. What it does next depends
on the moment and the limit alone. Main statement: the result of a run is the result at the one
moment of the run where it ends.
-/

namespace NodeFlow

/-- A visit that was completed: the node as it was found, what it received, and what its evaluation
logged and gave. -/
structure Visit where
  node : Node
  inputs : Fields
  lines : List String
  outputs : Fields

/-- Where a run stands between two visits. The pending nodes come before the start nodes. -/
structure Moment where
  progress : Progress
  pending : List String
  roots : List String

/-- What a run does next. -/
inductive Turn where
  | finish
  /-- The next exec edge leads to the node and is beyond the limit. -/
  | exceed (target : String)
  /-- The node comes next; the progress has counted the exec edge that leads to it. -/
  | enter (id : String) (progress : Progress) (pending roots : List String)

/-- What a run does at a moment. -/
def Moment.turn (maxSteps : Int) (moment : Moment) : Turn :=
  match moment.pending, moment.roots with
  | [], [] => .finish
  | [], root :: roots => .enter root moment.progress [] roots
  | target :: pending, roots =>
    if moment.progress.counted.steps ≤ maxSteps then
      .enter target moment.progress.counted pending roots
    else .exceed target

/-- The run of the graph comes to the moment after some completed visits. -/
inductive Graph.Reaches (registry : Registry) (maxSteps : Int) (graph : Graph) :
    List Visit → Moment → Prop
  | begin : Reaches registry maxSteps graph [] ⟨Run.begin graph, [], graph.roots⟩
  /-- A node that is missing is passed over. -/
  | pass {visits : List Visit} {moment : Moment} {id : String} {progress : Progress}
      {pending roots : List String}
      (earlier : Reaches registry maxSteps graph visits moment)
      (turn : moment.turn maxSteps = .enter id progress pending roots)
      (missing : progress.graph.node? id = none) :
      Reaches registry maxSteps graph visits ⟨progress, pending, roots⟩
  /-- A node is visited, and what follows it goes before what is pending. -/
  | visit {visits : List Visit} {moment : Moment} {id : String} {progress : Progress}
      {pending roots : List String} {node : Node} {lines : List String} {outputs : Fields}
      (earlier : Reaches registry maxSteps graph visits moment)
      (turn : moment.turn maxSteps = .enter id progress pending roots)
      (found : progress.graph.node? id = some node)
      (evaluated : registry.evaluate node (progress.graph.inputs node) = ⟨lines, .ok outputs⟩) :
      Reaches registry maxSteps graph
        (visits ++ [⟨node, progress.graph.inputs node, lines, outputs⟩])
        ⟨(progress.entered node lines).stored node outputs,
          progress.graph.successors id ++ pending, roots⟩

/-- The run ends at the moment with the result. -/
inductive Moment.Ends (registry : Registry) (maxSteps : Int) (moment : Moment) : RunResult → Prop
  | finish (turn : moment.turn maxSteps = .finish) :
      Ends registry maxSteps moment (.ok () moment.progress)
  | exceed {target : String} (turn : moment.turn maxSteps = .exceed target) :
      Ends registry maxSteps moment (.error (.budgetExceeded maxSteps target)
        (moment.progress.counted.logged
          ["! " ++ (RunFailure.budgetExceeded maxSteps target).message]))
  | fail {id : String} {progress : Progress} {pending roots : List String} {node : Node}
      {lines : List String} {failure : EvalFailure}
      (turn : moment.turn maxSteps = .enter id progress pending roots)
      (found : progress.graph.node? id = some node)
      (evaluated : registry.evaluate node (progress.graph.inputs node) = ⟨lines, .error failure⟩) :
      Ends registry maxSteps moment
        (.error (.ofEvaluation node failure) (progress.entered node lines))

namespace Moment

variable {registry : Registry} {maxSteps : Int} {moment : Moment} {id target : String}
  {progress : Progress} {pending roots : List String}

/-! ## The three turns -/

theorem turn_within (within : progress.counted.steps ≤ maxSteps) :
    turn maxSteps ⟨progress, target :: pending, roots⟩ =
      .enter target progress.counted pending roots := by
  simp only [turn, if_pos within]

theorem turn_beyond (beyond : maxSteps < progress.counted.steps) :
    turn maxSteps ⟨progress, target :: pending, roots⟩ = .exceed target := by
  simp only [turn, if_neg (Int.not_le.2 beyond)]

theorem eq_of_turn_finish (turn : moment.turn maxSteps = .finish) :
    moment = ⟨moment.progress, [], []⟩ := by
  obtain ⟨now, _ | ⟨next, rest⟩, roots⟩ := moment
  · cases roots <;> cases turn
    rfl
  · by_cases within : now.counted.steps ≤ maxSteps
    · rw [turn_within within] at turn
      cases turn
    · rw [turn_beyond (Int.not_le.1 within)] at turn
      cases turn

theorem beyond_of_turn_exceed (turn : moment.turn maxSteps = .exceed target) :
    maxSteps < moment.progress.counted.steps ∧
      ∃ rest, moment = ⟨moment.progress, target :: rest, moment.roots⟩ := by
  obtain ⟨now, _ | ⟨next, rest⟩, roots⟩ := moment
  · cases roots <;> cases turn
  · by_cases within : now.counted.steps ≤ maxSteps
    · rw [turn_within within] at turn
      cases turn
    · rw [turn_beyond (Int.not_le.1 within)] at turn
      cases turn
      exact ⟨Int.not_le.1 within, rest, rfl⟩

/-- A node is entered as a start node, or over an exec edge within the limit. -/
theorem cases_of_turn_enter (turn : moment.turn maxSteps = .enter id progress pending roots) :
    (moment = ⟨progress, [], id :: roots⟩ ∧ pending = []) ∨
      (moment = ⟨moment.progress, id :: pending, roots⟩ ∧ progress = moment.progress.counted ∧
        moment.progress.counted.steps ≤ maxSteps) := by
  obtain ⟨now, _ | ⟨next, rest⟩, following⟩ := moment
  · cases following <;> cases turn
    exact .inl ⟨rfl, rfl⟩
  · by_cases within : now.counted.steps ≤ maxSteps
    · rw [turn_within within] at turn
      cases turn
      exact .inr ⟨rfl, rfl, within⟩
    · rw [turn_beyond (Int.not_le.1 within)] at turn
      cases turn

/-- To enter a node changes the count of exec edges at most. -/
theorem frame_of_turn_enter (turn : moment.turn maxSteps = .enter id progress pending roots) :
    progress.graph = moment.progress.graph ∧ progress.log = moment.progress.log ∧
      progress.visited = moment.progress.visited := by
  rcases cases_of_turn_enter turn with ⟨shape, _⟩ | ⟨_, same, _⟩
  · rw [shape]
    exact ⟨rfl, rfl, rfl⟩
  · rw [same]
    exact ⟨rfl, rfl, rfl⟩

theorem steps_le_of_turn_enter (turn : moment.turn maxSteps = .enter id progress pending roots)
    (bounded : moment.progress.steps ≤ maxSteps.toNat) : progress.steps ≤ maxSteps.toNat := by
  rcases cases_of_turn_enter turn with ⟨shape, _⟩ | ⟨_, same, within⟩
  · rwa [shape] at bounded
  · rw [same]
    omega

/-! ## What is left of a run -/

/-- The result of the run from the moment on. -/
def resume (registry : Registry) (maxSteps : Int) (moment : Moment) : RunResult :=
  Run.andThen (Run.drain registry maxSteps (Run.left maxSteps moment.progress) moment.pending
    moment.progress) fun left during => Run.walkRoots registry maxSteps left moment.roots during

/-- A visit follows no exec edge. -/
theorem steps_of_visit {next : List String} {after : Progress}
    (visited : Run.visit registry id progress = .ok next after) : after.steps = progress.steps := by
  obtain ⟨_, outcome⟩ | ⟨node, lines, outputs, _, _, outcome⟩ | ⟨_, _, _, _, _, outcome⟩ :=
    Run.visit_cases registry id progress
  all_goals
    rw [outcome] at visited
    cases visited
  · rfl
  · rfl

/-- To resume a run that enters a node is to visit the node and to resume the run after that. -/
theorem resume_enter (turn : moment.turn maxSteps = .enter id progress pending roots) :
    moment.resume registry maxSteps =
      Run.andThen (Run.visit registry id progress) fun next after =>
        resume registry maxSteps ⟨after, next ++ pending, roots⟩ := by
  have later : ∀ next after, Run.visit registry id progress = .ok next after →
      Run.left maxSteps progress = Run.left maxSteps after := by
    intro next after visited
    rw [Run.left, Run.left, steps_of_visit visited]
  rcases cases_of_turn_enter turn with ⟨shape, rfl⟩ | ⟨shape, rfl, within⟩
  · rw [shape, resume, Run.drain_nil, Run.andThen_ok, Run.walkRoots_cons, Run.andThen_assoc]
    cases visited : Run.visit registry id progress with
    | error failure after => rfl
    | ok next after =>
      rw [Run.andThen_ok, Run.andThen_ok, resume, List.append_nil, later next after visited]
  · rw [shape, resume, Run.drain_within _ within, Run.andThen_assoc, Run.andThen_assoc]
    cases visited : Run.visit registry id moment.progress.counted with
    | error failure after => rfl
    | ok next after =>
      simp only [Run.andThen_ok, resume, Run.drain_append_apply, Run.andThen_assoc,
        later next after visited]

theorem resume_of_ends {result : RunResult} (ends : moment.Ends registry maxSteps result) :
    moment.resume registry maxSteps = result := by
  cases ends with
  | finish turn =>
    rw [eq_of_turn_finish turn, resume, Run.drain_nil]
    rfl
  | exceed turn =>
    obtain ⟨beyond, rest, shape⟩ := beyond_of_turn_exceed turn
    rw [shape, resume, Run.drain_over _ beyond]
    rfl
  | fail turn found evaluated =>
    rw [resume_enter turn, Run.visit_of_failure found evaluated]
    rfl

end Moment

namespace Graph

variable {registry : Registry} {maxSteps : Int} {graph : Graph} {visits : List Visit}
  {moment : Moment}

/-! ## What the visits have left behind -/

/-- The log holds the banner and the lines of the visits. -/
theorem Reaches.log_eq (reaches : graph.Reaches registry maxSteps visits moment) :
    moment.progress.log.toList = Run.banner :: visits.flatMap Visit.lines := by
  induction reaches with
  | begin => rfl
  | pass _ turn _ ih => rw [← ih, (Moment.frame_of_turn_enter turn).2.1]
  | visit _ turn _ _ ih =>
    simp [(Moment.frame_of_turn_enter turn).2.1, ih]

theorem Reaches.visited_eq (reaches : graph.Reaches registry maxSteps visits moment) :
    moment.progress.visited.toList = visits.map (·.node.id) := by
  induction reaches with
  | begin => rfl
  | pass _ turn _ ih => rw [← ih, (Moment.frame_of_turn_enter turn).2.2]
  | visit _ turn _ _ ih =>
    simp [(Moment.frame_of_turn_enter turn).2.2, ih]

/-- Nothing of the graph but data has changed. -/
theorem Reaches.sameShape
    (reaches : graph.Reaches registry maxSteps visits moment) :
    moment.progress.graph.SameShape graph := by
  induction reaches with
  | begin => exact .refl graph
  | pass _ turn _ ih =>
    rw [(Moment.frame_of_turn_enter turn).1]
    exact ih
  | visit _ turn _ _ ih =>
    refine (Progress.stored_sameShape _ _ _).trans ?_
    rw [Progress.entered_graph, (Moment.frame_of_turn_enter turn).1]
    exact ih

/-- No more exec edges are followed than the limit covers. -/
theorem Reaches.steps_le (reaches : graph.Reaches registry maxSteps visits moment) :
    moment.progress.steps ≤ maxSteps.toNat := by
  induction reaches with
  | begin => exact Nat.zero_le _
  | pass _ turn _ ih => exact Moment.steps_le_of_turn_enter turn ih
  | visit _ turn _ _ ih =>
    rw [Progress.stored_steps, Progress.entered_steps]
    exact Moment.steps_le_of_turn_enter turn ih

/-- From every moment that a run comes to, it goes on to its result. -/
theorem Reaches.resume_eq (reaches : graph.Reaches registry maxSteps visits moment) :
    moment.resume registry maxSteps = graph.run registry maxSteps := by
  induction reaches with
  | begin =>
    have budget : Run.left maxSteps (Run.begin graph) = maxSteps.toNat := by
      simp [Run.left, Run.begin]
    rw [Moment.resume, Run.drain_nil, Run.andThen_ok, budget]
    rfl
  | pass _ turn missing ih =>
    rw [← ih, Moment.resume_enter turn, Run.visit_of_absent missing]
    rfl
  | visit _ turn found evaluated ih =>
    rw [← ih, Moment.resume_enter turn, Run.visit_of_outputs found evaluated]
    rfl

/-- A run that has come to a moment comes to one where it ends, with all visits so far: with every
turn it uses up a start node or some of the limit. -/
theorem Reaches.exists_ends (reaches : graph.Reaches registry maxSteps visits moment) :
    ∃ later last result, visits <+: later ∧ graph.Reaches registry maxSteps later last ∧
      last.Ends registry maxSteps result := by
  induction measure : moment.roots.length + Run.left maxSteps moment.progress
    using Nat.strongRecOn generalizing visits moment with
  | ind size ih =>
    have here : ∀ {result}, moment.Ends registry maxSteps result → ∃ later last result,
        visits <+: later ∧ graph.Reaches registry maxSteps later last ∧
          last.Ends registry maxSteps result :=
      fun ends => ⟨visits, moment, _, List.prefix_rfl, reaches, ends⟩
    cases turn : moment.turn maxSteps with
    | finish => exact here (.finish turn)
    | exceed target => exact here (.exceed turn)
    | enter id progress pending roots =>
      have smaller : roots.length + Run.left maxSteps progress < size := by
        rcases Moment.cases_of_turn_enter turn with ⟨shape, _⟩ | ⟨shape, same, within⟩
        · rw [← measure, shape]
          simp
        · rw [← measure, same, shape]
          simp only [Run.left, Progress.counted_steps] at within ⊢
          omega
      cases found : progress.graph.node? id with
      | none => exact ih _ smaller (.pass reaches turn found) rfl
      | some node =>
        rcases evaluated : registry.evaluate node (progress.graph.inputs node) with ⟨lines, outcome⟩
        cases outcome with
        | error failure => exact here (.fail turn found evaluated)
        | ok outputs =>
          obtain ⟨later, last, result, extends', rest⟩ :=
            ih _ smaller (.visit reaches turn found evaluated) rfl
          exact ⟨later, last, result, (List.prefix_append _ _).trans extends', rest⟩

/-- The result of a run is the result at the moment where it ends. -/
theorem run_eq_iff_ends {result : RunResult} : graph.run registry maxSteps = result ↔
    ∃ visits moment, graph.Reaches registry maxSteps visits moment ∧
      moment.Ends registry maxSteps result := by
  have ended : ∀ {visits moment outcome}, graph.Reaches registry maxSteps visits moment →
      moment.Ends registry maxSteps outcome → graph.run registry maxSteps = outcome := by
    intro visits moment outcome reaches ends
    rw [← reaches.resume_eq, Moment.resume_of_ends ends]
  constructor
  · intro same
    have start : graph.Reaches registry maxSteps [] _ := .begin
    obtain ⟨visits, moment, outcome, _, reaches, ends⟩ := start.exists_ends
    rw [ended reaches ends] at same
    exact ⟨visits, moment, reaches, same ▸ ends⟩
  · rintro ⟨visits, moment, reaches, ends⟩
    exact ended reaches ends

end Graph

end NodeFlow
