import NodeFlow.Proofs.Edit
import NodeFlow.Proofs.Run.Visit

/-!
# The walk over the pending list

Equations of the walk at a state of progress: what it does with an empty list, without budget, and
with budget for one more exec edge. Later proofs use these and never open the walk itself. However
it ends, a walk leaves the shape of the graph as it was.
-/

namespace NodeFlow.Run

section

variable {ε σ α β γ : Type}

/-- Goes on from a result unless it is a failure. -/
def andThen (result : EStateM.Result ε σ α) (next : α → σ → EStateM.Result ε σ β) :
    EStateM.Result ε σ β :=
  match result with
  | .ok value state => next value state
  | .error failure state => .error failure state

@[simp] theorem andThen_ok (value : α) (state : σ) (next : α → σ → EStateM.Result ε σ β) :
    andThen (.ok value state) next = next value state := rfl

@[simp] theorem andThen_error (failure : ε) (state : σ) (next : α → σ → EStateM.Result ε σ β) :
    andThen (.error failure state) next = .error failure state := rfl

theorem andThen_assoc (result : EStateM.Result ε σ α) (first : α → σ → EStateM.Result ε σ β)
    (second : β → σ → EStateM.Result ε σ γ) :
    andThen (andThen result first) second =
      andThen result fun value state => andThen (first value state) second := by
  cases result <;> rfl

theorem bind_apply (first : EStateM ε σ α) (second : α → EStateM ε σ β) (state : σ) :
    (first >>= second) state = andThen (first state) second := by
  simp only [bind, EStateM.bind, andThen]
  cases first state <;> rfl

end

variable (registry : Registry) (maxSteps : Int)

theorem drain_nil (budget : Nat) (before : Progress) :
    drain registry maxSteps budget [] before = .ok budget before := by
  cases budget <;> rfl

/-- Without budget the next edge is counted and ends the run. -/
theorem drain_zero (target : String) (pending : List String) (before : Progress) :
    drain registry maxSteps 0 (target :: pending) before =
      .error (.budgetExceeded maxSteps target)
        (before.counted.logged ["! " ++ (RunFailure.budgetExceeded maxSteps target).message]) := rfl

/-- With budget the next edge is counted and its target visited; what follows the target goes
before what was pending. -/
theorem drain_succ (budget : Nat) (target : String) (pending : List String) (before : Progress) :
    drain registry maxSteps (budget + 1) (target :: pending) before =
      andThen (visit registry target before.counted) fun next during =>
        drain registry maxSteps budget (next ++ pending) during :=
  bind_apply (visit registry target) (fun next => drain registry maxSteps budget (next ++ pending))
    before.counted

/-- Pending branches are walked one after the other. -/
theorem drain_append_apply (budget : Nat) (first second : List String) (before : Progress) :
    drain registry maxSteps budget (first ++ second) before =
      andThen (drain registry maxSteps budget first before) fun left during =>
        drain registry maxSteps left second during := by
  rw [drain_append]
  exact bind_apply _ _ _

theorem walkRoots_nil (budget : Nat) (before : Progress) :
    walkRoots registry maxSteps budget [] before = .ok () before := rfl

theorem walkRoots_cons (budget : Nat) (root : String) (roots : List String) (before : Progress) :
    walkRoots registry maxSteps budget (root :: roots) before =
      andThen (andThen (visit registry root before) fun next during =>
          drain registry maxSteps budget next during) fun left during =>
        walkRoots registry maxSteps left roots during := by
  rw [andThen_assoc, walkRoots, bind_apply]
  congr 1

/-! ## The shape of the graph -/

theorem keepsShape_visit (graph : Graph) (id : String) :
    Edit.Keeps (fun progress => progress.graph.SameShape graph) (visit registry id) := by
  intro before shape
  unfold Edit.Ends
  obtain ⟨_, visited⟩ | ⟨node, lines, outputs, _, _, visited⟩ |
    ⟨node, lines, failure, _, _, visited⟩ := visit_cases registry id before
  · rw [visited]
    exact shape
  · rw [visited]
    exact (Progress.stored_sameShape _ _ _).trans shape
  · rw [visited]
    exact shape

theorem keepsShape_drain (graph : Graph) (budget : Nat) (pending : List String) :
    Edit.Keeps (fun progress => progress.graph.SameShape graph)
      (drain registry maxSteps budget pending) := by
  induction budget generalizing pending with
  | zero =>
    cases pending with
    | nil => exact .pure 0
    | cons target rest => exact fun _ shape => shape
  | succ budget ih =>
    cases pending with
    | nil => exact .pure (budget + 1)
    | cons target rest =>
      have counted : Edit.Keeps (fun progress => progress.graph.SameShape graph) countStep :=
        fun _ shape => shape
      exact counted.bind fun _ => (keepsShape_visit registry graph target).bind fun next =>
        ih (next ++ rest)

theorem keepsShape_walkRoots (graph : Graph) (budget : Nat) (roots : List String) :
    Edit.Keeps (fun progress => progress.graph.SameShape graph)
      (walkRoots registry maxSteps budget roots) := by
  induction roots generalizing budget with
  | nil => exact .pure ()
  | cons root roots ih =>
    exact (keepsShape_visit registry graph root).bind fun next =>
      (keepsShape_drain registry maxSteps graph budget next).bind fun left => ih left

end NodeFlow.Run
