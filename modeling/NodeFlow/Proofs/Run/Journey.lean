import NodeFlow.Proofs.Run.Budget

/-!
# The journey of a run

A run seen over the exec edges that it follows. Its journey lists how it came to one node after the
other: as to a start node, or over an exec edge, whether the node exists or not. Main statement: no
journey is longer than the start nodes and the limit allow, so every run ends, and the journey
accounts for the steps, the visits and the edge at which the limit is exceeded.
-/

namespace NodeFlow

/-- How a run comes to a node. -/
inductive Arrival where
  | start (id : String)
  | across (edge : Edge)

namespace Arrival

/-- The node to which the run comes. -/
def node? : Arrival → Option String
  | start id => some id
  | across edge => edge.target.node?

/-- The start nodes of a journey. -/
def started (arrivals : List Arrival) : List String :=
  arrivals.filterMap fun
    | start id => some id
    | across _ => none

/-- The exec edges that a journey follows. -/
def followed (arrivals : List Arrival) : List Edge :=
  arrivals.filterMap fun
    | start _ => none
    | across edge => some edge

end Arrival

/-- Where a run stands, with the exec edges that it still has to follow. -/
structure Waypoint where
  progress : Progress
  pending : List Edge
  roots : List String

/-- The moment at which the run stands there. -/
def Waypoint.moment (point : Waypoint) : Moment :=
  ⟨point.progress, point.pending.filterMap (·.target.node?), point.roots⟩

namespace Graph

/-- The exec edges to be followed after a node; none if the node is missing. -/
def exits (graph : Graph) (id : String) : List Edge :=
  if graph.contains id then graph.execEdges id else []

/-- Whether an edge leads to a node that is missing. -/
def misses (graph : Graph) (edge : Edge) : Bool :=
  edge.target.node?.any fun id => !graph.contains id

/-- The run of the graph comes to the waypoint by the arrivals. -/
inductive Journey (registry : Registry) (maxSteps : Int) (graph : Graph) :
    List Arrival → Waypoint → Prop
  | begin : Journey registry maxSteps graph [] ⟨Run.begin graph, [], graph.roots⟩
  /-- A start node is due when no exec edge is left to follow. -/
  | start {arrivals : List Arrival} {root : String} {roots next : List String}
      {before after : Progress}
      (earlier : Journey registry maxSteps graph arrivals ⟨before, [], root :: roots⟩)
      (visited : Run.visit registry root before = .ok next after) :
      Journey registry maxSteps graph (arrivals ++ [.start root])
        ⟨after, graph.exits root, roots⟩
  /-- An exec edge is counted before its target is looked up. -/
  | follow {arrivals : List Arrival} {edge : Edge} {pending : List Edge} {target : String}
      {roots next : List String} {before after : Progress}
      (earlier : Journey registry maxSteps graph arrivals ⟨before, edge :: pending, roots⟩)
      (leads : edge.target.node? = some target)
      (within : before.counted.steps ≤ maxSteps)
      (visited : Run.visit registry target before.counted = .ok next after) :
      Journey registry maxSteps graph (arrivals ++ [.across edge])
        ⟨after, graph.exits target ++ pending, roots⟩

/-! ## One visit -/

theorem target_of_mem_exits {graph : Graph} {id : String} {edge : Edge}
    (member : edge ∈ graph.exits id) : ∃ target, edge.target.node? = some target := by
  unfold exits at member
  split at member
  · exact target_of_mem_execEdges member
  · cases member

/-- What a visit that does not fail has done. -/
structure Passed (graph : Graph) (id : String) (next : List String) (before after : Progress) :
    Prop where
  shape : after.graph.SameShape graph
  steps : after.steps = before.steps
  visited : after.visited.toList = before.visited.toList ++ [id].filter graph.contains
  next : next = (graph.exits id).filterMap (·.target.node?)

theorem passed_of_visit {registry : Registry} {graph : Graph} {id : String} {next : List String}
    {before after : Progress} (shape : before.graph.SameShape graph)
    (visited : Run.visit registry id before = .ok next after) :
    graph.Passed id next before after := by
  have here := shape.contains id
  obtain ⟨missing, outcome⟩ | ⟨node, lines, outputs, found, _, outcome⟩ |
      ⟨_, _, _, _, _, outcome⟩ := Run.visit_cases registry id before <;>
    rw [outcome] at visited <;> cases visited
  · have absent : graph.contains id = false := by
      rw [← here, Bool.eq_false_iff]
      intro present
      obtain ⟨node, found⟩ := contains_iff.1 present
      rw [missing] at found
      cases found
    exact ⟨shape, rfl, by simp [absent], by simp [exits, absent]⟩
  · have present : graph.contains id = true := by
      rw [← here, contains_iff]
      exact ⟨node, found⟩
    refine ⟨(Progress.stored_sameShape _ _ _).trans shape, rfl, ?_, ?_⟩
    · simp [present, id_of_node? found]
    · rw [shape.successors, successors_eq_targets, exits, if_pos present]

/-! ## What a journey has done -/

/-- The accounts of a journey: what its arrivals say about the progress of the run. -/
structure Accounts (graph : Graph) (maxSteps : Int) (arrivals : List Arrival) (point : Waypoint) :
    Prop where
  shape : point.progress.graph.SameShape graph
  leads : ∀ edge ∈ point.pending, ∃ target, edge.target.node? = some target
  started : Arrival.started arrivals ++ point.roots = graph.roots
  steps : point.progress.steps = (Arrival.followed arrivals).length
  within : point.progress.steps ≤ maxSteps.toNat
  length : arrivals.length = (Arrival.started arrivals).length + (Arrival.followed arrivals).length
  visited : point.progress.visited.toList =
    (arrivals.filterMap Arrival.node?).filter graph.contains
  balance : point.progress.visited.toList.length +
      ((Arrival.followed arrivals).filter graph.misses).length = arrivals.length

variable {registry : Registry} {maxSteps : Int} {graph : Graph} {arrivals : List Arrival}
  {point : Waypoint}

theorem Journey.accounts (journey : graph.Journey registry maxSteps arrivals point) :
    graph.Accounts maxSteps arrivals point := by
  induction journey with
  | begin => exact ⟨.refl graph, by simp, rfl, rfl, Nat.zero_le _, rfl, rfl, rfl⟩
  | @start arrivals root roots next before after _ visited ih =>
    have passed := passed_of_visit ih.shape visited
    have present : graph.contains root = true := by
      apply graph.contains_of_mem_roots
      rw [← ih.started]
      simp
    refine ⟨passed.shape, fun _ => target_of_mem_exits, ?_, ?_, ?_, ?_, ?_, ?_⟩
    · simpa [Arrival.started] using ih.started
    · simpa [passed.steps, Arrival.followed] using ih.steps
    · rw [passed.steps]
      exact ih.within
    · have length := ih.length
      simp [Arrival.started, Arrival.followed] at length ⊢
      omega
    · simpa [passed.visited, Arrival.node?] using ih.visited
    · have balance := ih.balance
      simp [passed.visited, present, Arrival.followed] at balance ⊢
      omega
  | @follow arrivals edge pending target roots next before after _ leads within visited ih =>
    have passed := passed_of_visit (show before.counted.graph.SameShape graph from ih.shape) visited
    refine ⟨passed.shape, ?_, ?_, ?_, ?_, ?_, ?_, ?_⟩
    · intro other member
      rcases List.mem_append.1 member with new | old
      · exact target_of_mem_exits new
      · exact ih.leads other (List.mem_cons_of_mem _ old)
    · simpa [Arrival.started] using ih.started
    · simpa [passed.steps, Arrival.followed] using ih.steps
    · rw [passed.steps]
      omega
    · have length := ih.length
      simp [Arrival.started, Arrival.followed] at length ⊢
      omega
    · simpa [passed.visited, Arrival.node?, leads] using ih.visited
    · have balance := ih.balance
      cases present : graph.contains target <;>
        simp [passed.visited, present, Arrival.followed, misses, leads] at balance ⊢ <;>
        omega

/-- No journey is longer than the start nodes and the limit allow. -/
theorem Journey.length_le (journey : graph.Journey registry maxSteps arrivals point) :
    arrivals.length ≤ graph.roots.length + maxSteps.toNat := by
  have accounts := journey.accounts
  have started := congrArg List.length accounts.started
  rw [List.length_append] at started
  rw [accounts.length, ← accounts.steps, ← started]
  have within := accounts.within
  omega

/-! ## The journey of a run -/

/-- A journey goes on with every visit that does not fail. -/
theorem Journey.enter (journey : graph.Journey registry maxSteps arrivals point) {id : String}
    {progress after : Progress} {pending roots next : List String}
    (turn : point.moment.turn maxSteps = .enter id progress pending roots)
    (visited : Run.visit registry id progress = .ok next after) :
    ∃ arrivals point, graph.Journey registry maxSteps arrivals point ∧
      point.moment = ⟨after, next ++ pending, roots⟩ := by
  have accounts := journey.accounts
  obtain ⟨before, edges, following⟩ := point
  rcases Moment.cases_of_turn_enter turn with ⟨shape, rfl⟩ | ⟨shape, rfl, within⟩
  · obtain ⟨rfl, none, rfl⟩ := Moment.mk.inj shape
    cases edges with
    | nil =>
      have passed := passed_of_visit accounts.shape visited
      refine ⟨_, _, .start journey visited, ?_⟩
      rw [Waypoint.moment, ← passed.next, List.append_nil]
    | cons edge rest =>
      obtain ⟨target, leads⟩ := accounts.leads edge List.mem_cons_self
      simp [leads] at none
  · obtain ⟨_, same, rfl⟩ := Moment.mk.inj shape
    cases edges with
    | nil => cases same
    | cons edge rest =>
      obtain ⟨target, leads⟩ := accounts.leads edge List.mem_cons_self
      simp only [List.filterMap_cons, leads, List.cons.injEq] at same
      obtain ⟨rfl, rfl⟩ := same
      have passed := passed_of_visit (show before.counted.graph.SameShape graph from accounts.shape)
        visited
      refine ⟨_, _, .follow journey leads within visited, ?_⟩
      rw [Waypoint.moment, List.filterMap_append, ← passed.next]

end Graph

end NodeFlow
