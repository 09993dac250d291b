import NodeFlow.Proofs.Run.Budget

/-!
# Runs in lockstep

Two runs side by side. If what ties their states together is kept whenever both of them follow an
exec edge and whenever both visit the node that is due, it lasts as long as the first run goes on.
Main statement: for every moment of the first run the second one comes to a moment that is tied to
it, with the same nodes pending and the same start nodes to come; it ends where the first one ends,
unless a failing evaluation has ended that one.
-/

namespace NodeFlow

/-! ## How a run ends -/

/-- The failure that ended a run, if one did. -/
def Run.failure? : RunResult → Option RunFailure
  | .ok _ _ => none
  | .error failure _ => some failure

/-- Whether an evaluator has raised the failure. -/
def RunFailure.isRaised : RunFailure → Bool
  | budgetExceeded _ _ => false
  | evaluation _ _ _ | aborted _ => true

/-- Whether an evaluator's failure ended the run. -/
def Run.isRaised (result : RunResult) : Bool :=
  (failure? result).any RunFailure.isRaised

@[simp] theorem RunFailure.isRaised_ofEvaluation (node : Node) (failure : EvalFailure) :
    (ofEvaluation node failure).isRaised = true := by
  cases failure <;> rfl

/-- The runs log, visit and count the same and end in the same way. -/
structure Run.SameCourse (first second : RunResult) : Prop where
  log : (progressOf first).log = (progressOf second).log
  visited : (progressOf first).visited = (progressOf second).visited
  steps : (progressOf first).steps = (progressOf second).steps
  failure : failure? first = failure? second

namespace Run.SameCourse

variable {first second third : RunResult}

theorem symm (same : SameCourse first second) : SameCourse second first :=
  ⟨same.log.symm, same.visited.symm, same.steps.symm, same.failure.symm⟩

theorem trans (same : SameCourse first second) (other : SameCourse second third) :
    SameCourse first third :=
  ⟨same.log.trans other.log, same.visited.trans other.visited, same.steps.trans other.steps,
    same.failure.trans other.failure⟩

end Run.SameCourse

/-! ## Visits -/

/-- The visit is the one that happens where the node is due. -/
structure Visit.Happens (registry : Registry) (visit : Visit) (before : Progress) : Prop where
  found : before.graph.node? visit.node.id = some visit.node
  inputs : visit.inputs = before.graph.inputs visit.node
  evaluated : registry.evaluate visit.node visit.inputs = ⟨visit.lines, .ok visit.outputs⟩

/-- The progress once the visit is completed. -/
def Progress.past (before : Progress) (visit : Visit) : Progress :=
  (before.entered visit.node visit.lines).stored visit.node visit.outputs

section Past

variable (before : Progress) (visit : Visit)

@[simp] theorem Progress.past_graph : (before.past visit).graph =
    before.graph.changeData visit.node.id (visit.node.store visit.outputs) := rfl

@[simp] theorem Progress.past_log :
    (before.past visit).log = before.log ++ visit.lines.toArray := rfl

@[simp] theorem Progress.past_visited :
    (before.past visit).visited = before.visited.push visit.node.id := rfl

theorem Progress.past_sameShape : (before.past visit).graph.SameShape before.graph :=
  Progress.stored_sameShape _ _ _

end Past

/-- What a moment does next depends on what is pending and on the count of steps. -/
theorem Moment.turn_of_same (maxSteps : Int) {moment other : Moment}
    (pending : other.pending = moment.pending) (roots : other.roots = moment.roots)
    (steps : other.progress.steps = moment.progress.steps) :
    match moment.turn maxSteps with
    | .finish => other.turn maxSteps = .finish
    | .exceed target => other.turn maxSteps = .exceed target
    | .enter id progress next rest =>
      (progress = moment.progress ∧ other.turn maxSteps = .enter id other.progress next rest) ∨
      (progress = moment.progress.counted ∧
        other.turn maxSteps = .enter id other.progress.counted next rest) := by
  obtain ⟨now, _ | ⟨target, after⟩, following⟩ := moment
  all_goals
    obtain ⟨there, _, _⟩ := other
    cases pending
    cases roots
  · cases following with
    | nil => rfl
    | cons root rest => exact .inl ⟨rfl, rfl⟩
  · have counts : there.counted.steps = now.counted.steps := congrArg (· + 1) steps
    by_cases within : now.counted.steps ≤ maxSteps
    · rw [turn_within within, turn_within (counts ▸ within)]
      exact .inr ⟨rfl, rfl⟩
    · rw [turn_beyond (Int.not_le.1 within), turn_beyond (counts ▸ Int.not_le.1 within)]

namespace Graph

/-- A run goes on with the visit that happens at the node that it enters. -/
theorem Reaches.goOn {registry : Registry} {maxSteps : Int} {graph : Graph} {visits : List Visit}
    {moment : Moment} {visit : Visit} {progress : Progress} {pending roots : List String}
    (reaches : graph.Reaches registry maxSteps visits moment)
    (turn : moment.turn maxSteps = .enter visit.node.id progress pending roots)
    (happens : visit.Happens registry progress) :
    graph.Reaches registry maxSteps (visits ++ [visit])
      ⟨progress.past visit, progress.graph.successors visit.node.id ++ pending, roots⟩ := by
  obtain ⟨node, inputs, lines, outputs⟩ := visit
  obtain ⟨found, same, evaluated⟩ := happens
  obtain rfl : inputs = progress.graph.inputs node := same
  exact .visit reaches turn found evaluated

/-- A run has come to each of its visits by the visits before it. -/
theorem Reaches.exists_happens {registry : Registry} {maxSteps : Int} {graph : Graph}
    {visits : List Visit} {moment : Moment}
    (reaches : graph.Reaches registry maxSteps visits moment) {earlier later : List Visit}
    {visit : Visit} (split : visits = earlier ++ visit :: later) :
    ∃ before : Moment, graph.Reaches registry maxSteps earlier before ∧
      ∃ progress, progress.graph = before.progress.graph ∧ visit.Happens registry progress := by
  induction reaches generalizing later with
  | begin => simp at split
  | pass _ _ _ ih => exact ih split
  | @visit visits _ _ progress _ _ _ _ _ before turn found evaluated ih =>
    rcases List.eq_nil_or_concat later with rfl | ⟨rest, last, rfl⟩
    · obtain ⟨rfl, same⟩ := List.append_inj' split rfl
      cases same
      exact ⟨_, before, progress, (Moment.frame_of_turn_enter turn).1,
        id_of_node? found ▸ found, rfl, evaluated⟩
    · rw [List.concat_eq_append, ← List.cons_append, ← List.append_assoc] at split
      exact ih (List.append_inj' split rfl).1

/-- What ties the states of two runs together outlasts the listed visits of the first one. -/
structure Lockstep (registry registry' : Registry) (graph other : Graph) (visits : List Visit)
    (Tied : Progress → Progress → Prop) : Prop where
  begin : Tied (Run.begin graph) (Run.begin other)
  roots : other.roots = graph.roots
  steps : ∀ {before before'}, Tied before before' → before'.steps = before.steps
  counted : ∀ {before before'}, Tied before before' → Tied before.counted before'.counted
  missing : ∀ {before before' id}, Tied before before' →
    before.graph.node? id = none → before'.graph.node? id = none
  visit : ∀ {visit before before'}, visit ∈ visits → Tied before before' →
    visit.Happens registry before → ∃ visit', visit'.node.id = visit.node.id ∧
      visit'.Happens registry' before' ∧
      before'.graph.successors visit.node.id = before.graph.successors visit.node.id ∧
      Tied (before.past visit) (before'.past visit')

namespace Lockstep

variable {registry registry' : Registry} {maxSteps : Int} {graph other : Graph}
  {visits : List Visit} {Tied : Progress → Progress → Prop} {moment : Moment} {id target : String}
  {progress : Progress} {next rest : List String}

/-- Where the first run enters a node the second one enters it too. -/
theorem enter (lockstep : graph.Lockstep registry registry' other visits Tied) {moment' : Moment}
    (tied : Tied moment.progress moment'.progress) (pending : moment'.pending = moment.pending)
    (roots : moment'.roots = moment.roots)
    (turn : moment.turn maxSteps = .enter id progress next rest) :
    ∃ progress', moment'.turn maxSteps = .enter id progress' next rest ∧
      Tied progress progress' := by
  have same := Moment.turn_of_same maxSteps pending roots (lockstep.steps tied)
  rw [turn] at same
  rcases same with ⟨rfl, entered⟩ | ⟨rfl, entered⟩
  · exact ⟨_, entered, tied⟩
  · exact ⟨_, entered, lockstep.counted tied⟩

/-- For every moment that the first run reaches by such visits the second one reaches one that is
tied to it. -/
theorem reaches (lockstep : graph.Lockstep registry registry' other visits Tied)
    {done : List Visit} (reached : graph.Reaches registry maxSteps done moment)
    (among : done ⊆ visits) :
    ∃ done' moment', other.Reaches registry' maxSteps done' moment' ∧
      Tied moment.progress moment'.progress ∧ moment'.pending = moment.pending ∧
      moment'.roots = moment.roots := by
  induction reached with
  | begin => exact ⟨_, _, .begin, lockstep.begin, rfl, lockstep.roots⟩
  | pass _ turn missing ih =>
    obtain ⟨done', moment', reached', tied, pending, roots⟩ := ih among
    obtain ⟨progress', turn', tied⟩ := lockstep.enter tied pending roots turn
    exact ⟨_, _, .pass reached' turn' (lockstep.missing tied missing), tied, rfl, rfl⟩
  | @visit _ _ id _ _ _ _ _ _ _ turn found evaluated ih =>
    obtain ⟨earlier, member⟩ := List.append_subset.1 among
    obtain ⟨done', moment', reached', tied, pending, roots⟩ := ih earlier
    obtain ⟨progress', turn', tied⟩ := lockstep.enter tied pending roots turn
    obtain ⟨visit', same, happens, follow, tied⟩ :=
      lockstep.visit (member List.mem_cons_self) tied ⟨id_of_node? found ▸ found, rfl, evaluated⟩
    have name : visit'.node.id = id := same.trans (id_of_node? found)
    refine ⟨_, _, reached'.goOn (name ▸ turn') happens, tied, ?_, rfl⟩
    rw [name, ← id_of_node? found, follow]

/-! Where the first run ends, or enters the node at which it ends, the second one does so too. -/

theorem finishes (lockstep : graph.Lockstep registry registry' other visits Tied)
    (reached : graph.Reaches registry maxSteps visits moment)
    (turn : moment.turn maxSteps = .finish) :
    ∃ after, other.run registry' maxSteps = .ok () after ∧ Tied moment.progress after := by
  obtain ⟨done, moment', reached', tied, pending, roots⟩ :=
    lockstep.reaches reached (List.Subset.refl _)
  have turn' := Moment.turn_of_same maxSteps pending roots (lockstep.steps tied)
  rw [turn] at turn'
  exact ⟨_, run_eq_iff_ends.2 ⟨done, moment', reached', .finish turn'⟩, tied⟩

theorem exceeds (lockstep : graph.Lockstep registry registry' other visits Tied)
    (reached : graph.Reaches registry maxSteps visits moment)
    (turn : moment.turn maxSteps = .exceed target) :
    ∃ before, other.run registry' maxSteps = .error (.budgetExceeded maxSteps target)
        (before.counted.logged ["! " ++ (RunFailure.budgetExceeded maxSteps target).message]) ∧
      Tied moment.progress before := by
  obtain ⟨done, moment', reached', tied, pending, roots⟩ :=
    lockstep.reaches reached (List.Subset.refl _)
  have turn' := Moment.turn_of_same maxSteps pending roots (lockstep.steps tied)
  rw [turn] at turn'
  exact ⟨_, run_eq_iff_ends.2 ⟨done, moment', reached', .exceed turn'⟩, tied⟩

theorem enters (lockstep : graph.Lockstep registry registry' other visits Tied)
    (reached : graph.Reaches registry maxSteps visits moment)
    (turn : moment.turn maxSteps = .enter id progress next rest) :
    ∃ done moment' progress', other.Reaches registry' maxSteps done moment' ∧
      moment'.turn maxSteps = .enter id progress' next rest ∧ Tied progress progress' := by
  obtain ⟨done, moment', reached', tied, pending, roots⟩ :=
    lockstep.reaches reached (List.Subset.refl _)
  obtain ⟨progress', turn', tied⟩ := lockstep.enter tied pending roots turn
  exact ⟨done, moment', progress', reached', turn', tied⟩

/-- If what is tied has logged and visited the same, and the second run fails at a node at which
the first one fails, both runs take the same course and end tied together. -/
theorem sameCourse (lockstep : graph.Lockstep registry registry' other visits Tied)
    (reached : graph.Reaches registry maxSteps visits moment) {result : RunResult}
    (ends : moment.Ends registry maxSteps result)
    (log : ∀ {before before'}, Tied before before' → before'.log = before.log)
    (visited : ∀ {before before'}, Tied before before' → before'.visited = before.visited)
    (fails : ∀ {id progress progress' next rest node lines failure},
      moment.turn maxSteps = .enter id progress next rest → Tied progress progress' →
      progress.graph.node? id = some node →
      registry.evaluate node (progress.graph.inputs node) = ⟨lines, .error failure⟩ →
        ∃ node', progress'.graph.node? id = some node' ∧ node'.kind = node.kind ∧
          registry'.evaluate node' (progress'.graph.inputs node') = ⟨lines, .error failure⟩) :
    Run.SameCourse result (other.run registry' maxSteps) ∧ ∃ before before', Tied before before' ∧
      (Run.progressOf result).graph = before.graph ∧
      (Run.progressOf (other.run registry' maxSteps)).graph = before'.graph := by
  cases ends with
  | finish turn =>
    obtain ⟨after, ran, tied⟩ := lockstep.finishes reached turn
    rw [ran]
    exact ⟨⟨(log tied).symm, (visited tied).symm, (lockstep.steps tied).symm, rfl⟩,
      _, after, tied, rfl, rfl⟩
  | exceed turn =>
    obtain ⟨before, ran, tied⟩ := lockstep.exceeds reached turn
    rw [ran]
    exact ⟨⟨congrArg (· ++ _) (log tied).symm, (visited tied).symm,
      congrArg (· + 1) (lockstep.steps tied).symm, rfl⟩, _, before, tied, rfl, rfl⟩
  | @fail id progress _ _ node lines failure turn found evaluated =>
    obtain ⟨_, _, progress', reached', turn', tied⟩ := lockstep.enters reached turn
    obtain ⟨node', found', kind, evaluated'⟩ := fails turn tied found evaluated
    have name : node'.id = node.id := (id_of_node? found').trans (id_of_node? found).symm
    rw [run_eq_iff_ends.2 ⟨_, _, reached', .fail turn' found' evaluated'⟩]
    refine ⟨⟨?_, ?_, (lockstep.steps tied).symm, ?_⟩, progress, progress', tied, rfl, rfl⟩
    · simp [Run.progressOf, log tied]
    · simp [Run.progressOf, visited tied, name]
    · cases failure <;> simp [Run.failure?, RunFailure.ofEvaluation, name, kind]

end Lockstep

end Graph

end NodeFlow
