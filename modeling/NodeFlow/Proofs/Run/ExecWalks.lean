import Mathlib.Data.Set.Card
import Mathlib.Data.Set.Finite.List
import NodeFlow.Proofs.Run.Walk

/-!
# Counting exec walks

An exec walk is a start node with a chain of exec edges. Edges count by their places in the edge
list, so parallel edges make different walks. Main statement: with evaluators that never fail, a
run completes exactly if the walks that follow an edge are at most as many as the steps it may
take; then it takes one step for each of them and visits a node once for each walk that ends there.
-/

namespace NodeFlow

namespace Graph

/-- The edge at a place of the edge list is a committed exec edge from one node to another. -/
def ExecEdgeAt (graph : Graph) (place : Nat) (id next : String) : Prop :=
  ∃ edge, graph.edges[place]? = some edge ∧ edge.isCommitted = true ∧ edge.isExec = true ∧
    edge.source.node? = some id ∧ edge.target.node? = some next

/-- A chain of exec edges from a node to another: each leaves the node that the one before it
reaches. All its nodes exist except possibly the last. -/
inductive Chain (graph : Graph) : String → List Nat → String → Prop
  | nil (id : String) : Chain graph id [] id
  | cons {id next last : String} {place : Nat} {places : List Nat}
      (present : graph.contains id = true) (edge : graph.ExecEdgeAt place id next)
      (rest : Chain graph next places last) : Chain graph id (place :: places) last

/-- The exec walks that follow at least one edge. -/
def execWalks (graph : Graph) : Set (String × List Nat) :=
  {walk | walk.1 ∈ graph.roots ∧ walk.2 ≠ [] ∧ ∃ last, graph.Chain walk.1 walk.2 last}

/-- The exec walks that end at a node, the empty walk of a start node among them. -/
def walksTo (graph : Graph) (id : String) : Set (String × List Nat) :=
  {walk | walk.1 ∈ graph.roots ∧ graph.Chain walk.1 walk.2 id}

/-- An exec walk leads to a node from which exec edges lead back to it. -/
def ReachesCycle (graph : Graph) : Prop :=
  ∃ root ∈ graph.roots, ∃ node approach cycle, graph.Chain root approach node ∧
    cycle ≠ [] ∧ graph.Chain node cycle node

end Graph

/-- No evaluation of a node fails. -/
def Registry.NeverFails (registry : Registry) : Prop :=
  ∀ node inputs failure, (registry.evaluate node inputs).outcome ≠ .error failure

/-! ## Sizes of sets of lists -/

section Sizes

variable {α β γ : Type}

/-- Lists that begin with a place where `held` has something to show, and go on in a set that
depends on what it shows there. -/
def listsFrom (held : List β) (view : β → Option γ) (tails : γ → Set (List Nat)) :
    Set (List Nat) :=
  {list | ∃ place tail shown, list = place :: tail ∧ held[place]?.bind view = some shown ∧
    tail ∈ tails shown}

/-- The last place adds the lists that begin there. -/
theorem listsFrom_concat (held : List β) (last : β) (view : β → Option γ)
    (tails : γ → Set (List Nat)) :
    listsFrom (held ++ [last]) view tails = listsFrom held view tails ∪
      (held.length :: ·) '' {tail | ∃ shown, view last = some shown ∧ tail ∈ tails shown} := by
  ext list
  simp only [listsFrom, Set.mem_union, Set.mem_image, Set.mem_ofPred_eq]
  constructor
  · rintro ⟨place, tail, shown, rfl, here, member⟩
    rcases Nat.lt_trichotomy place held.length with before | rfl | beyond
    · rw [List.getElem?_append_left before] at here
      exact .inl ⟨place, tail, shown, rfl, here, member⟩
    · rw [List.getElem?_concat_length] at here
      exact .inr ⟨tail, ⟨shown, here, member⟩, rfl⟩
    · rw [List.getElem?_eq_none (by simpa using beyond)] at here
      cases here
  · rintro (⟨place, tail, shown, rfl, here, member⟩ | ⟨tail, ⟨shown, here, member⟩, rfl⟩)
    · have before : place < held.length := by
        by_contra beyond
        rw [List.getElem?_eq_none (Nat.not_lt.1 beyond)] at here
        cases here
      exact ⟨place, tail, shown, rfl, by rwa [List.getElem?_append_left before], member⟩
    · exact ⟨_, tail, shown, rfl, by rwa [List.getElem?_concat_length], member⟩

/-- There are as many such lists as in all the sets together. -/
theorem encard_listsFrom (held : List β) (view : β → Option γ) (tails : γ → Set (List Nat)) :
    (listsFrom held view tails).encard =
      ((held.filterMap view).map fun shown => (tails shown).encard).sum := by
  induction held using List.reverseRecOn with
  | nil => simp [listsFrom]
  | append_singleton held last ih =>
    have apart : Disjoint (listsFrom held view tails)
        ((held.length :: ·) '' {tail | ∃ shown, view last = some shown ∧ tail ∈ tails shown}) := by
      rw [Set.disjoint_left]
      rintro list ⟨place, tail, shown, rfl, here, _⟩ ⟨other, _, same⟩
      have place_eq : held.length = place := (List.cons.inj same).1
      rw [← place_eq, List.getElem?_eq_none (Nat.le_refl _)] at here
      cases here
    rw [listsFrom_concat, Set.encard_union_eq apart, ih,
      (@List.cons_injective Nat held.length).encard_image, List.filterMap_append,
      List.map_append, List.sum_append]
    congr 1
    cases shown : view last with
    | none => simp [shown]
    | some item => simp [shown]

/-- Pairs of a list's items with what a set holds for them: there are as many as in all the sets
together, if the items are distinct. -/
theorem encard_pairs (items : List α) (distinct : items.Nodup) (sets : α → Set β) :
    {pair : α × β | pair.1 ∈ items ∧ pair.2 ∈ sets pair.1}.encard =
      (items.map fun item => (sets item).encard).sum := by
  induction items with
  | nil => simp
  | cons item rest ih =>
    obtain ⟨fresh, distinct⟩ := List.nodup_cons.1 distinct
    have split : {pair : α × β | pair.1 ∈ item :: rest ∧ pair.2 ∈ sets pair.1} =
        (item, ·) '' sets item ∪ {pair : α × β | pair.1 ∈ rest ∧ pair.2 ∈ sets pair.1} := by
      ext ⟨left, right⟩
      simp only [List.mem_cons, Set.mem_ofPred_eq, Set.mem_union, Set.mem_image, Prod.mk.injEq]
      constructor
      · rintro ⟨rfl | later, member⟩
        · exact .inl ⟨right, member, rfl, rfl⟩
        · exact .inr ⟨later, member⟩
      · rintro (⟨_, member, rfl, rfl⟩ | ⟨later, member⟩)
        · exact ⟨.inl rfl, member⟩
        · exact ⟨.inr later, member⟩
    have apart : Disjoint ((item, ·) '' sets item)
        {pair : α × β | pair.1 ∈ rest ∧ pair.2 ∈ sets pair.1} := by
      rw [Set.disjoint_left]
      rintro _ ⟨right, _, rfl⟩ ⟨later, _⟩
      exact fresh later
    rw [split, Set.encard_union_eq apart, ih distinct, (Prod.mk_right_injective item).encard_image,
      List.map_cons, List.sum_cons]

end Sizes

namespace Graph

/-! ## Chains from a node -/

/-- The chains from a node to the ends of a class. -/
def chainsTo (graph : Graph) (ends : String → Prop) (id : String) : Set (List Nat) :=
  {places | ∃ last, ends last ∧ graph.Chain id places last}

theorem execEdgeAt_iff {graph : Graph} {place : Nat} {id next : String} :
    graph.ExecEdgeAt place id next ↔ graph.edges[place]?.bind (Edge.follows? id) = some next := by
  cases here : graph.edges[place]? with
  | none => simp [ExecEdgeAt, here]
  | some edge =>
    simp only [ExecEdgeAt, here, Option.some.injEq, exists_eq_left', Option.bind_some]
    exact Edge.follows?_eq_some_iff.symm

/-- A chain is empty, or begins with an exec edge of an existing node. -/
theorem mem_chainsTo_iff {graph : Graph} {ends : String → Prop} {id : String}
    {places : List Nat} :
    places ∈ graph.chainsTo ends id ↔ places = [] ∧ ends id ∨ graph.contains id = true ∧
      places ∈ listsFrom graph.edges (Edge.follows? id) (graph.chainsTo ends) := by
  constructor
  · rintro ⟨last, reached, chain⟩
    cases chain with
    | nil => exact .inl ⟨rfl, reached⟩
    | cons present edge rest =>
      exact .inr ⟨present, _, _, _, rfl, execEdgeAt_iff.1 edge, last, reached, rest⟩
  · rintro (⟨rfl, reached⟩ | ⟨present, place, tail, next, rfl, edge, last, reached, rest⟩)
    · exact ⟨id, reached, .nil id⟩
    · exact ⟨last, reached, .cons present (execEdgeAt_iff.2 edge) rest⟩

variable (graph : Graph) (ends : String → Prop) [DecidablePred ends]

/-- No exec edge is followed from a missing node. -/
theorem encard_chainsTo_absent {id : String} (absent : graph.contains id = false) :
    (graph.chainsTo ends id).encard = if ends id then 1 else 0 := by
  have only : graph.chainsTo ends id = {places | places = [] ∧ ends id} := by
    ext places
    simp [mem_chainsTo_iff, absent]
  rw [only]
  split
  · simp_all
  · simp_all

/-- From an existing node there are the chains of each of its successors, and the empty one. -/
theorem encard_chainsTo_present {id : String} (present : graph.contains id = true) :
    (graph.chainsTo ends id).encard = (if ends id then 1 else 0) +
      ((graph.successors id).map fun next => (graph.chainsTo ends next).encard).sum := by
  have split : graph.chainsTo ends id = {places | places = [] ∧ ends id} ∪
      listsFrom graph.edges (Edge.follows? id) (graph.chainsTo ends) := by
    ext places
    simp [mem_chainsTo_iff, present]
  have apart : Disjoint {places | places = [] ∧ ends id}
      (listsFrom graph.edges (Edge.follows? id) (graph.chainsTo ends)) := by
    rw [Set.disjoint_left]
    rintro _ ⟨rfl, _⟩ ⟨place, tail, _, same, _⟩
    cases same
  rw [split, Set.encard_union_eq apart, encard_listsFrom]
  congr 1
  by_cases here : ends id <;> simp [here]

end Graph

/-! ## Walks of a run -/

namespace Run

variable {registry : Registry}

/-- The chains from some nodes to the ends of a class, counted together. -/
noncomputable def chainCount (graph : Graph) (ends : String → Prop) (ids : List String) : ℕ∞ :=
  (ids.map fun id => (graph.chainsTo ends id).encard).sum

theorem chainCount_append (graph : Graph) (ends : String → Prop) (first second : List String) :
    chainCount graph ends (first ++ second) =
      chainCount graph ends first + chainCount graph ends second := by
  simp [chainCount]

/-- What a completed walk over a pending list has done: one step for each chain that begins in the
list, and one visit of an existing node for each of them that ends there. -/
structure Walked (graph : Graph) (budget left : Nat) (pending : List String)
    (before after : Progress) : Prop where
  shape : after.graph.SameShape graph
  steps : after.steps + left = before.steps + budget
  chains : (after.steps : ℕ∞) = before.steps + chainCount graph (fun _ => True) pending
  visits : ∀ id, graph.contains id = true →
    (after.visited.count id : ℕ∞) =
      before.visited.count id + chainCount graph (· = id) pending

/-- What one visit does to the counts when no evaluation fails. -/
theorem visit_counts (never : registry.NeverFails) {graph : Graph} {before : Progress}
    (shape : before.graph.SameShape graph) (id : String) :
    ∃ next after, visit registry id before = .ok next after ∧ after.graph.SameShape graph ∧
      after.steps = before.steps ∧ (graph.contains id = true → next = graph.successors id) ∧
      (∀ (ends : String → Prop) [DecidablePred ends], chainCount graph ends [id] =
        (if ends id then 1 else 0) + chainCount graph ends next) ∧
      ∀ node, graph.contains node = true →
        after.visited.count node = before.visited.count node + if node = id then 1 else 0 := by
  have here := shape.contains id
  rcases visit_cases registry id before with
    ⟨missing, visited⟩ | ⟨node, lines, outputs, found, _, visited⟩ |
      ⟨node, lines, failure, _, evaluated, _⟩
  · have absent : graph.contains id = false := by
      rw [← here]
      by_contra present
      rw [Bool.not_eq_false, Graph.contains_iff, missing] at present
      obtain ⟨_, impossible⟩ := present
      cases impossible
    refine ⟨_, _, visited, shape, rfl, ?_, ?_, ?_⟩
    · intro present
      rw [absent] at present
      cases present
    · intro ends _
      simp [chainCount, Graph.encard_chainsTo_absent graph ends absent]
    · intro node present
      have other : node ≠ id := by
        rintro rfl
        rw [absent] at present
        cases present
      simp [other]
  · have present : graph.contains id = true := by
      rw [← here, Graph.contains_iff]
      exact ⟨node, found⟩
    refine ⟨_, _, visited, (Progress.stored_sameShape _ _ _).trans shape, rfl, ?_, ?_, ?_⟩
    · intro _
      exact shape.successors id
    · intro ends _
      simp [chainCount, Graph.encard_chainsTo_present graph ends present, shape.successors id]
    · intro other _
      rw [Progress.stored_visited, Progress.entered_visited, Array.count_push,
        Graph.id_of_node? found]
      by_cases same : other = id
      · simp [same]
      · simp [same, Ne.symm same]
  · exact absurd (congrArg Evaluation.outcome evaluated) (never _ _ _)

theorem chainCount_cons_eq {graph : Graph} {ends : String → Prop} [DecidablePred ends]
    {id : String} {next : List String} (pending : List String)
    (first : chainCount graph ends [id] = (if ends id then 1 else 0) + chainCount graph ends next) :
    chainCount graph ends (id :: pending) =
      (if ends id then 1 else 0) + chainCount graph ends (next ++ pending) := by
  rw [← List.singleton_append, chainCount_append, first, chainCount_append, add_assoc]

/-- A walk over a pending list completes if the budget covers the chains that begin in it; else it
ends at the budget. -/
theorem drain_counts (never : registry.NeverFails) (maxSteps : Int) {graph : Graph} (budget : Nat)
    (pending : List String) {before : Progress} (shape : before.graph.SameShape graph) :
    (∃ left after, drain registry maxSteps budget pending before = .ok left after ∧
      Walked graph budget left pending before after) ∨
    (∃ node after, drain registry maxSteps budget pending before =
        .error (.budgetExceeded maxSteps node) after ∧
      (budget : ℕ∞) < chainCount graph (fun _ => True) pending) := by
  induction budget generalizing pending before with
  | zero =>
    cases pending with
    | nil =>
      refine .inl ⟨0, before, drain_nil _ _ _ _, shape, rfl, ?_, ?_⟩
      · simp [chainCount]
      · simp [chainCount]
    | cons target pending =>
      obtain ⟨next, _, _, _, _, _, counts, _⟩ := visit_counts never shape target
      refine .inr ⟨_, _, drain_zero _ _ _ _ _, ?_⟩
      rw [chainCount_cons_eq _ (counts fun _ => True), if_pos trivial]
      exact lt_of_lt_of_le (by simp) le_self_add
  | succ budget ih =>
    cases pending with
    | nil =>
      refine .inl ⟨budget + 1, before, drain_nil _ _ _ _, shape, rfl, ?_, ?_⟩
      · simp [chainCount]
      · simp [chainCount]
    | cons target pending =>
      obtain ⟨next, during, visited, same, steps, _, counts, visits⟩ :=
        visit_counts never (show before.counted.graph.SameShape graph from shape) target
      have opened : drain registry maxSteps (budget + 1) (target :: pending) before =
          drain registry maxSteps budget (next ++ pending) during := by
        rw [drain_succ, visited, andThen_ok]
      have chains := chainCount_cons_eq pending (counts fun _ => True)
      rw [if_pos trivial] at chains
      rw [opened, chains]
      rcases ih (next ++ pending) same with
        ⟨left, after, walked, done⟩ | ⟨node, after, ended, beyond⟩
      · refine .inl ⟨left, after, walked, done.shape, ?_, ?_, ?_⟩
        · have taken := done.steps
          rw [steps, Progress.counted_steps] at taken
          omega
        · rw [done.chains, chains, steps, Progress.counted_steps, Nat.cast_add, add_assoc]
          rfl
        · intro id present
          rw [done.visits id present, visits id present, Progress.counted_visited,
            chainCount_cons_eq _ (counts (· = id))]
          by_cases here : id = target
          · simp [here, add_assoc]
          · simp [here, Ne.symm here]
      · refine .inr ⟨node, after, ended, ?_⟩
        rw [add_comm, Nat.cast_add]
        exact (ENat.add_lt_add_iff_left (ENat.natCast_ne_top 1)).2 beyond

private theorem exists_of_cast_eq_add {total start : Nat} {count : ℕ∞}
    (same : (total : ℕ∞) = start + count) : ∃ n : Nat, count = n ∧ total = start + n := by
  have finite : count ≠ ⊤ := by
    rintro rfl
    simp at same
  lift count to ℕ using finite
  exact ⟨count, rfl, by exact_mod_cast same⟩

/-- What completed walks from some start nodes have done. -/
structure WalkedRoots (graph : Graph) (budget : Nat) (roots : List String)
    (before after : Progress) : Prop where
  bounded : after.steps ≤ before.steps + budget
  chains : (after.steps : ℕ∞) =
    before.steps + (roots.map fun root => chainCount graph (fun _ => True)
      (graph.successors root)).sum
  visits : ∀ id, graph.contains id = true →
    (after.visited.count id : ℕ∞) = before.visited.count id + chainCount graph (· = id) roots

theorem walkRoots_counts (never : registry.NeverFails) (maxSteps : Int) {graph : Graph}
    (budget : Nat)
    (roots : List String) (exist : ∀ root ∈ roots, graph.contains root = true)
    {before : Progress} (shape : before.graph.SameShape graph) :
    (∃ after, walkRoots registry maxSteps budget roots before = .ok () after ∧
      WalkedRoots graph budget roots before after) ∨
    (∃ node after, walkRoots registry maxSteps budget roots before =
        .error (.budgetExceeded maxSteps node) after ∧
      (budget : ℕ∞) < (roots.map fun root => chainCount graph (fun _ => True)
        (graph.successors root)).sum) := by
  induction roots generalizing budget before with
  | nil =>
    refine .inl ⟨before, walkRoots_nil _ _ _ _, Nat.le_add_right _ _, ?_, ?_⟩
    · simp
    · simp [chainCount]
  | cons root roots ih =>
    obtain ⟨next, during, visited, same, steps, follow, counts, visits⟩ :=
      visit_counts never shape root
    obtain rfl := follow (exist root List.mem_cons_self)
    rw [walkRoots_cons, visited, andThen_ok, List.map_cons, List.sum_cons]
    rcases drain_counts never maxSteps budget (graph.successors root) same with
      ⟨left, later, walked, done⟩ | ⟨node, later, ended, beyond⟩
    · rw [walked, andThen_ok]
      have taken := done.steps
      obtain ⟨count, counted, spent⟩ := exists_of_cast_eq_add done.chains
      rw [counted]
      rcases ih left (fun root member => exist root (List.mem_cons_of_mem _ member)) done.shape with
        ⟨after, all, rest⟩ | ⟨node, after, ended, beyond⟩
      · refine .inl ⟨after, all, ?_, ?_, ?_⟩
        · have bound := rest.bounded
          omega
        · rw [rest.chains, spent, steps, Nat.cast_add, add_assoc, List.map_cons, List.sum_cons,
            counted]
        · intro id present
          rw [rest.visits id present, done.visits id present, visits id present,
            chainCount_cons_eq _ (counts (· = id)), chainCount_append]
          by_cases here : id = root
          · simp [here, add_assoc]
          · simp [here, Ne.symm here, add_assoc]
      · refine .inr ⟨node, after, ended, ?_⟩
        have covered : budget = count + left := by omega
        rw [covered, Nat.cast_add]
        exact (ENat.add_lt_add_iff_left (ENat.natCast_ne_top count)).2 beyond
    · rw [ended, andThen_error]
      refine .inr ⟨node, later, rfl, ?_⟩
      exact lt_of_lt_of_le beyond le_self_add

end Run

/-! ## Walks of a graph -/

namespace Graph

variable (graph : Graph)

theorem roots_nodup : graph.roots.Nodup :=
  graph.distinct.sublist (List.filter_sublist.map Node.id)

theorem contains_of_mem_roots {root : String} (member : root ∈ graph.roots) :
    graph.contains root = true := by
  obtain ⟨node, kept, rfl⟩ := List.mem_map.1 member
  simpa [contains] using ⟨node, (List.mem_filter.1 kept).1, rfl⟩

/-- The walks that follow an edge go on from the successors of the start nodes. -/
theorem encard_execWalks :
    graph.execWalks.encard =
      (graph.roots.map fun root =>
        Run.chainCount graph (fun _ => True) (graph.successors root)).sum := by
  have pairs : graph.execWalks = {walk | walk.1 ∈ graph.roots ∧
      walk.2 ∈ {places | places ≠ [] ∧ ∃ last, graph.Chain walk.1 places last}} := rfl
  rw [pairs, encard_pairs graph.roots graph.roots_nodup
    fun root => {places | places ≠ [] ∧ ∃ last, graph.Chain root places last}]
  congr 1
  refine List.map_congr_left fun root member => ?_
  have present := graph.contains_of_mem_roots member
  rw [Run.chainCount, successors, ← encard_listsFrom]
  congr 1
  ext places
  have chains := @mem_chainsTo_iff graph (fun _ => True) root places
  simp only [chainsTo, Set.mem_ofPred_eq, true_and, and_true, present] at chains ⊢
  rw [chains]
  constructor
  · rintro ⟨filled, rfl | listed⟩
    · exact absurd rfl filled
    · exact listed
  · intro listed
    refine ⟨?_, .inr listed⟩
    obtain ⟨place, tail, _, rfl, _⟩ := listed
    exact List.cons_ne_nil place tail

theorem encard_walksTo (id : String) :
    (graph.walksTo id).encard = Run.chainCount graph (· = id) graph.roots := by
  have pairs : graph.walksTo id = {walk | walk.1 ∈ graph.roots ∧
      walk.2 ∈ graph.chainsTo (· = id) walk.1} := by
    ext walk
    simp [walksTo, chainsTo]
  rw [pairs, encard_pairs graph.roots graph.roots_nodup (graph.chainsTo (· = id))]
  rfl

variable {graph}

theorem Chain.append {id middle last : String} {first second : List Nat}
    (start : graph.Chain id first middle) (rest : graph.Chain middle second last) :
    graph.Chain id (first ++ second) last := by
  induction start with
  | nil id => exact rest
  | cons present edge _ ih => exact .cons present edge (ih rest)

/-- Going round a cycle once more gives another walk. -/
theorem execWalks_infinite_of_cycle (reaches : graph.ReachesCycle) : graph.execWalks.Infinite := by
  obtain ⟨root, member, node, approach, cycle, reached, filled, back⟩ := reaches
  have rounds : ∀ n : Nat, graph.Chain node (List.replicate n cycle).flatten node := by
    intro n
    induction n with
    | zero => exact .nil node
    | succ n ih => simpa [List.replicate_succ] using back.append ih
  have walk : ∀ n : Nat,
      (root, approach ++ (List.replicate (n + 1) cycle).flatten) ∈ graph.execWalks := by
    intro n
    refine ⟨member, ?_, node, reached.append (rounds (n + 1))⟩
    simp [List.replicate_succ, filled]
  refine Set.infinite_of_injective_forall_mem ?_ walk
  intro m n same
  have sizes := congrArg (fun walk => walk.2.length) same
  have long : 0 < cycle.length := List.length_pos_iff.2 filled
  simpa [Nat.ne_of_gt long] using sizes

/-- How a run ends when no evaluation fails. -/
theorem run_counts {registry : Registry} (never : registry.NeverFails) (graph : Graph)
    (maxSteps : Int) :
    (∃ after, graph.run registry maxSteps = .ok () after ∧ after.steps ≤ maxSteps.toNat ∧
      graph.execWalks.encard = after.steps ∧
      ∀ id, graph.contains id = true → (graph.walksTo id).encard = after.visited.count id) ∨
    (∃ node after, graph.run registry maxSteps = .error (.budgetExceeded maxSteps node) after ∧
      (maxSteps.toNat : ℕ∞) < graph.execWalks.encard) := by
  have shape : (Run.begin graph).graph.SameShape graph := SameShape.refl graph
  rcases Run.walkRoots_counts never maxSteps maxSteps.toNat graph.roots
      (fun _ member => graph.contains_of_mem_roots member) shape with
    ⟨after, walked, done⟩ | ⟨node, after, ended, beyond⟩
  · have bounded := done.bounded
    have chains := done.chains
    simp only [Run.begin, Nat.cast_zero, zero_add] at bounded chains
    refine .inl ⟨after, walked, bounded, ?_, ?_⟩
    · rw [graph.encard_execWalks, chains]
    · intro id present
      rw [graph.encard_walksTo, done.visits id present]
      simp [Run.begin]
  · refine .inr ⟨node, after, ended, ?_⟩
    rwa [graph.encard_execWalks]

/-- Exec walks account for a run without failing evaluations. It completes exactly if the walks
that follow an edge are finitely many and at most as many as the limit; then it has taken one step
for each of them, and visited every node once for each walk that ends there. A cycle within reach
makes it exceed every limit. -/
theorem run_accounting {registry : Registry} (never : registry.NeverFails) (graph : Graph) :
    (∀ limit : Nat, ((∃ after, graph.run registry limit = .ok () after) ↔
        graph.execWalks.Finite ∧ graph.execWalks.ncard ≤ limit) ∧
      ∀ after, graph.run registry limit = .ok () after →
        after.steps = graph.execWalks.ncard ∧
        ∀ id, graph.contains id = true →
          (graph.walksTo id).Finite ∧ after.visited.count id = (graph.walksTo id).ncard) ∧
    (graph.ReachesCycle → ∀ maxSteps : Int, ∃ node after,
      graph.run registry maxSteps = .error (.budgetExceeded maxSteps node) after) := by
  refine ⟨fun limit => ?_, fun reaches maxSteps => ?_⟩
  · rw [← Set.encard_le_coe_iff_finite_ncard_le]
    rcases run_counts never graph limit with
      ⟨after, completed, bounded, walks, visits⟩ | ⟨node, after, ended, beyond⟩
    · refine ⟨iff_of_true ⟨after, completed⟩ ?_, ?_⟩
      · rw [walks]
        exact_mod_cast bounded
      · intro other same
        rw [completed] at same
        cases same
        refine ⟨?_, fun id present => ⟨?_, ?_⟩⟩
        · rw [Set.ncard, walks, ENat.toNat_natCast]
        · exact Set.finite_of_encard_eq_coe (visits id present)
        · rw [Set.ncard, visits id present, ENat.toNat_natCast]
    · refine ⟨iff_of_false ?_ (not_le_of_gt beyond), ?_⟩
      · rintro ⟨other, completed⟩
        rw [ended] at completed
        cases completed
      · intro other completed
        rw [ended] at completed
        cases completed
  · rcases run_counts never graph maxSteps with ⟨after, _, _, walks, _⟩ | ⟨node, after, ended, _⟩
    · exact absurd (Set.finite_of_encard_eq_coe walks) (execWalks_infinite_of_cycle reaches)
    · exact ⟨node, after, ended⟩

/-- A start node whose exec output leads back to it. -/
def selfLoop : Graph where
  nodes := [{ Node.blank "node_1" with kind := "start" }]
  edges := [⟨"edge_2", .ref "node_1:execOut", .ref "node_1:execIn", true⟩]
  distinct := by simp

/-- Start nodes with an evaluator of their own. -/
def constantStart : Registry :=
  Registry.empty.define "start" (.constant [("out", .int 1)])

theorem selfLoop_exceeds : constantStart.NeverFails ∧ selfLoop.ReachesCycle ∧
    ∀ maxSteps : Int, ∃ node after,
      selfLoop.run constantStart maxSteps = .error (.budgetExceeded maxSteps node) after := by
  have never : constantStart.NeverFails := by
    intro node inputs failure
    by_cases start : "start" = node.kind <;>
      simp [constantStart, Registry.evaluate, Registry.define, Registry.get?, Registry.empty,
        Keyed.set, Keyed.get?, Evaluator.evaluate, Evaluator.constant, Evaluation.nothing, start]
  have edge : selfLoop.ExecEdgeAt 0 "node_1" "node_1" :=
    ⟨_, rfl, rfl, rfl, by decide +kernel, by decide +kernel⟩
  have around : selfLoop.Chain "node_1" [0] "node_1" := .cons (by decide) edge (.nil _)
  have reaches : selfLoop.ReachesCycle :=
    ⟨"node_1", by decide, "node_1", [], [0], .nil _, by decide, around⟩
  exact ⟨never, reaches, (run_accounting never selfLoop).2 reaches⟩

end Graph

end NodeFlow
