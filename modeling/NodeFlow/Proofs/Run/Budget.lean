import NodeFlow.Proofs.Run.ExecWalks
import NodeFlow.Proofs.Run.Moments

/-!
# The budget of a run

Until it is used up the budget cannot be noticed: two runs of a graph that differ in the budget come
to the same moments as long as both budgets last. Main statement: a run within its budget is
unchanged by a larger one, and a run that exceeds its budget is the beginning of the run with a
larger one.
-/

namespace NodeFlow

/-- How far a run has come when it ends. -/
def Run.progressOf : RunResult → Progress
  | .ok _ progress | .error _ progress => progress

namespace Moment

variable {registry : Registry} {low high : Int} {moment : Moment}

theorem turn_enter_of_le (le : low ≤ high) {id : String} {progress : Progress}
    {pending roots : List String} (turn : moment.turn low = .enter id progress pending roots) :
    moment.turn high = .enter id progress pending roots := by
  rcases cases_of_turn_enter turn with ⟨shape, rfl⟩ | ⟨shape, rfl, within⟩
  · rw [shape]
    rfl
  · rw [shape]
    exact turn_within (Int.le_trans within le)

/-- What ends a run other than its budget ends it with every budget. -/
theorem Ends.of_le {result : RunResult} (ends : moment.Ends registry low result)
    (le : low ≤ high) (within : ∀ target, moment.turn low ≠ .exceed target) :
    moment.Ends registry high result := by
  cases ends with
  | finish turn =>
    have turn : moment.turn high = .finish := by
      rw [eq_of_turn_finish turn]
      rfl
    exact .finish turn
  | exceed turn => exact absurd turn (within _)
  | fail turn found evaluated => exact .fail (turn_enter_of_le le turn) found evaluated

/-- The end of a run keeps what was logged and visited. -/
theorem Ends.extends_progress {maxSteps : Int} {result : RunResult}
    (ends : moment.Ends registry maxSteps result) :
    moment.progress.log.toList <+: (Run.progressOf result).log.toList ∧
      moment.progress.visited.toList <+: (Run.progressOf result).visited.toList := by
  cases ends with
  | finish turn => exact ⟨List.prefix_rfl, List.prefix_rfl⟩
  | exceed turn => simp [Run.progressOf, Progress.logged]
  | fail turn found evaluated =>
    obtain ⟨_, log, visited⟩ := frame_of_turn_enter turn
    simp [Run.progressOf, log, visited]

end Moment

namespace Graph

variable {registry : Registry} {graph : Graph} {visits : List Visit} {moment : Moment}

/-- A run comes to every moment to which it comes with a smaller budget. -/
theorem Reaches.of_le {low high : Int} (reaches : graph.Reaches registry low visits moment)
    (le : low ≤ high) : graph.Reaches registry high visits moment := by
  induction reaches with
  | begin => exact .begin
  | pass _ turn missing ih => exact .pass ih (Moment.turn_enter_of_le le turn) missing
  | visit _ turn found evaluated ih =>
    exact .visit ih (Moment.turn_enter_of_le le turn) found evaluated

/-- A run keeps what it has logged and visited on the way. -/
theorem Reaches.extends_progress {maxSteps : Int}
    (reaches : graph.Reaches registry maxSteps visits moment) :
    moment.progress.log.toList <+: (Run.progressOf (graph.run registry maxSteps)).log.toList ∧
      moment.progress.visited.toList <+:
        (Run.progressOf (graph.run registry maxSteps)).visited.toList := by
  obtain ⟨later, last, result, ⟨rest, rfl⟩, reachesLast, ends⟩ := reaches.exists_ends
  have log : moment.progress.log.toList <+: last.progress.log.toList := by
    simp [reaches.log_eq, reachesLast.log_eq]
  have visited : moment.progress.visited.toList <+: last.progress.visited.toList := by
    simp [reaches.visited_eq, reachesLast.visited_eq]
  rw [run_eq_iff_ends.2 ⟨_, last, reachesLast, ends⟩]
  exact ⟨log.trans ends.extends_progress.1, visited.trans ends.extends_progress.2⟩

/-- A run that does not exceed its budget is the same with every larger one. A run that exceeds it
has come to a moment of the run with the larger one, with as many exec edges followed as the budget
covers and one more to follow: there the data of the nodes are those that the shorter run left, and
what had been logged and visited, all but the line of the failure, begins the log and the visits of
the longer run. -/
theorem run_of_larger_budget (registry : Registry) (graph : Graph) {low high : Int}
    (le : low ≤ high) :
    match graph.run registry low with
    | .error (.budgetExceeded limit target) after =>
      limit = low ∧ ∃ visits moment,
        graph.Reaches registry high visits moment ∧ moment.pending.head? = some target ∧
        moment.progress.steps = low.toNat ∧ moment.progress.graph = after.graph ∧
        after.log = moment.progress.log.push
          ("! " ++ (RunFailure.budgetExceeded low target).message) ∧
        moment.progress.log.toList <+: (Run.progressOf (graph.run registry high)).log.toList ∧
        after.visited.toList <+: (Run.progressOf (graph.run registry high)).visited.toList
    | result => graph.run registry high = result := by
  obtain ⟨visits, moment, reaches, ends⟩ := run_eq_iff_ends.1 (Eq.refl (graph.run registry low))
  have later := reaches.of_le le
  -- Whatever is no failure of the budget ends both runs at the same moment.
  have unchanged : ∀ {result}, moment.Ends registry low result →
      (∀ target, moment.turn low ≠ .exceed target) → graph.run registry high = result :=
    fun ends within => run_eq_iff_ends.2 ⟨visits, moment, later, ends.of_le le within⟩
  generalize graph.run registry low = result at ends
  cases ends with
  | finish turn => exact unchanged (.finish turn) (by simp [turn])
  | @exceed target turn =>
    obtain ⟨beyond, rest, shape⟩ := Moment.beyond_of_turn_exceed turn
    refine ⟨rfl, visits, moment, later, ?_, ?_, rfl, rfl, later.extends_progress⟩
    · rw [shape]
      rfl
    · have bounded := reaches.steps_le
      rw [Progress.counted_steps] at beyond
      omega
  | @fail _ _ _ _ _ _ failure turn found evaluated =>
    have same := unchanged (.fail turn found evaluated) (by simp [turn])
    cases failure <;> exact same

/-- The second time round the loop is beyond the smaller budget; with the larger one the run goes
on from there. -/
theorem selfLoop_budgets : (1 : Int) ≤ 2 ∧ ∃ visits moment,
    selfLoop.Reaches constantStart 2 visits moment ∧ moment.pending.head? = some "node_1" ∧
    moment.progress.steps = 1 := by
  have ended : (match selfLoop.run constantStart 1 with
      | .error (.budgetExceeded _ target) _ => target == "node_1"
      | _ => false) = true := by
    decide +kernel
  have longer := run_of_larger_budget constantStart selfLoop (show (1 : Int) ≤ 2 by decide)
  split at ended
  · rename_i outcome
    rw [outcome] at longer
    obtain ⟨_, visits, moment, reaches, pending, steps, _⟩ := longer
    exact ⟨by decide, visits, moment, reaches, by simpa [eq_of_beq ended] using pending, steps⟩
  · cases ended

end Graph

end NodeFlow
