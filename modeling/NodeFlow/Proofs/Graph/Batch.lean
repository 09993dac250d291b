import NodeFlow.Proofs.Graph.Removal

/-!
# Removals in batches

A removal looks at the groups of the graph it finds, so after a first removal the second one sees
fewer groups and shorter lists of members. Main statement: it makes no difference. To remove two
lists of nodes one after the other is to remove them together, and to remove nodes singly, in any
order and as often as one likes, is to remove them at once.
-/

namespace NodeFlow

namespace Node

variable {gone other : List String}

/-! What becomes of a node depends on which nodes go, not on their order. -/

private theorem contains_congr (same : ∀ id, id ∈ gone ↔ id ∈ other) (id : String) :
    gone.contains id = other.contains id := by
  rw [Bool.eq_iff_iff, List.contains_iff_mem, List.contains_iff_mem, same]

theorem survives_congr (same : ∀ id, id ∈ gone ↔ id ∈ other) (node : Node) :
    node.survives gone = node.survives other := by
  simp only [survives, contains_congr same]

theorem prune_congr (same : ∀ id, id ∈ gone ↔ id ∈ other) (node : Node) :
    node.prune gone = node.prune other := by
  simp only [prune, contains_congr same]

theorem prune_nil (node : Node) : node.prune [] = node := by
  unfold prune
  split
  · simp
  · rfl

theorem survives_nil (node : Node) : node.survives [] = true := by
  rw [← Bool.not_eq_false, survives_eq_false_iff]
  rintro (named | emptied)
  · cases named
  · obtain ⟨id, listed⟩ := List.exists_mem_of_ne_nil _ emptied.nonempty
    cases emptied.all id listed

theorem prune_append (node : Node) (first second : List String) :
    node.prune (first ++ second) = (node.prune first).prune second := by
  cases isGroup : node.isGroup with
  | false => simp [prune, isGroup]
  | true =>
    simp only [prune, isGroup, if_true, List.filter_filter]
    congr 1
    refine List.filter_congr fun id _ => ?_
    rw [List.contains_eq_mem, List.contains_eq_mem, List.contains_eq_mem]
    by_cases early : id ∈ first <;> by_cases late : id ∈ second <;> simp [early, late]

/-- Two removals together empty a group if the first one does, or else the second one empties what
the first one has left of it. -/
theorem emptiedBy_append (node : Node) (first second : List String) :
    node.EmptiedBy (first ++ second) ↔
      node.EmptiedBy first ∨ (node.prune first).EmptiedBy second := by
  have left : node.isGroup = true → ∀ id, id ∈ (node.prune first).members ↔
      id ∈ node.members ∧ id ∉ first := fun isGroup _ => Graph.mem_members_prune isGroup
  constructor
  · rintro ⟨isGroup, nonempty, all⟩
    by_cases none : (node.prune first).members = []
    · refine .inl ⟨isGroup, nonempty, fun id listed => ?_⟩
      by_contra stays
      have kept := (left isGroup id).2 ⟨listed, stays⟩
      rw [none] at kept
      cases kept
    · refine .inr ⟨(redraws_prune first node).isGroup.trans isGroup, none, fun id kept => ?_⟩
      obtain ⟨listed, stays⟩ := (left isGroup id).1 kept
      exact (List.mem_append.1 (all id listed)).resolve_left stays
  · rintro (⟨isGroup, nonempty, all⟩ | ⟨stillGroup, nonempty, all⟩)
    · exact ⟨isGroup, nonempty, fun id listed => List.mem_append_left _ (all id listed)⟩
    · have isGroup := (redraws_prune first node).isGroup.symm.trans stillGroup
      obtain ⟨some, kept⟩ := List.exists_mem_of_ne_nil _ nonempty
      refine ⟨isGroup, List.ne_nil_of_mem ((left isGroup some).1 kept).1, fun id listed => ?_⟩
      by_cases early : id ∈ first
      · exact List.mem_append_left _ early
      · exact List.mem_append_right _ (all id ((left isGroup id).2 ⟨listed, early⟩))

/-- A node outlives two removals together if it outlives one after the other. -/
theorem survives_append (node : Node) (first second : List String) :
    node.survives (first ++ second) =
      (node.survives first && (node.prune first).survives second) := by
  rw [Bool.eq_iff_iff, ← not_iff_not, Bool.not_eq_true, Bool.not_eq_true,
    Bool.and_eq_false_iff, survives_eq_false_iff, survives_eq_false_iff, survives_eq_false_iff,
    emptiedBy_append, (redraws_prune first node).id, List.mem_append]
  exact or_or_or_comm

end Node

namespace Graph

variable (graph : Graph)

theorem removeNodes_congr {gone other : List String} (same : ∀ id, id ∈ gone ↔ id ∈ other) :
    graph.removeNodes gone = graph.removeNodes other := by
  refine eq_of_parts ?_ (List.filter_congr fun edge _ => ?_)
  · show (graph.nodes.filter (Node.survives gone)).map (Node.prune gone) =
      (graph.nodes.filter (Node.survives other)).map (Node.prune other)
    rw [funext (Node.survives_congr same), funext (Node.prune_congr same)]
  · rw [Bool.eq_iff_iff, Bool.not_eq_true', Bool.not_eq_true', List.any_eq_false, List.any_eq_false]
    exact forall_congr' fun id => by rw [same]

theorem removeNodes_nil : graph.removeNodes [] = graph := by
  refine eq_of_parts ?_ (List.filter_eq_self.2 fun edge _ => rfl)
  show (graph.nodes.filter (Node.survives [])).map (Node.prune []) = graph.nodes
  rw [List.filter_eq_self.2 fun node _ => node.survives_nil, funext Node.prune_nil]
  exact List.map_id _

/-- What the first removal changes of the groups does not matter to the second one. -/
theorem removeNodes_append (first second : List String) :
    graph.removeNodes (first ++ second) = (graph.removeNodes first).removeNodes second := by
  refine eq_of_parts ?_ ?_
  · show (graph.nodes.filter (Node.survives (first ++ second))).map
        (Node.prune (first ++ second)) =
      (((graph.nodes.filter (Node.survives first)).map (Node.prune first)).filter
        (Node.survives second)).map (Node.prune second)
    rw [List.filter_map, List.map_map, List.filter_filter]
    refine congr (congrArg List.map (funext fun node => node.prune_append first second)) ?_
    refine List.filter_congr fun node _ => ?_
    rw [node.survives_append, Bool.and_comm]
    rfl
  · show graph.edges.filter _ = (graph.edges.filter _).filter _
    rw [List.filter_filter]
    refine List.filter_congr fun edge _ => ?_
    rw [List.any_append, Bool.not_or, Bool.and_comm]

end Graph

namespace Workspace

/-- Two changes in a row are one. -/
theorem change_bind_change (first second : Graph → Graph) :
    (change first >>= fun _ => change second) = change (second ∘ first) := rfl

theorem removeNodes_append (first second : List String) :
    removeNodes (first ++ second) = (do removeNodes first; removeNodes second) := by
  rw [removeNodes, removeNodes, removeNodes, change_bind_change]
  exact congrArg change (funext fun graph => graph.removeNodes_append first second)

/-- To remove nodes one by one is to remove all of them. -/
theorem forM_removeNode (ids : List String) : ids.forM removeNode = removeNodes ids := by
  induction ids with
  | nil => exact congrArg change (funext fun graph => graph.removeNodes_nil.symm)
  | cons id rest ih =>
    rw [← List.singleton_append, removeNodes_append, ← ih]
    rfl

/-- Whatever the graph is like, to remove two lists of nodes at once is to remove the first one and
then the second one; so nodes can be removed one by one, in any order and with repetitions. -/
theorem removeNodes_in_batches :
    (∀ first second, removeNodes (first ++ second) = (do removeNodes first; removeNodes second)) ∧
    ∀ ids order : List String, (∀ id, id ∈ order ↔ id ∈ ids) →
      order.forM removeNode = removeNodes ids := by
  refine ⟨removeNodes_append, fun ids order same => ?_⟩
  rw [forM_removeNode]
  exact congrArg change (funext fun graph => graph.removeNodes_congr same)

/-- The leaf of a group can go before the group or after it, though after it the group is gone
already. -/
theorem leaf_and_group_in_turn :
    (∀ id, id ∈ ["leaf", "inner", "leaf"] ↔ id ∈ ["inner", "leaf"]) ∧
    ["leaf", "inner", "leaf"].forM removeNode = removeNodes ["inner", "leaf"] := by
  have same : ∀ id, id ∈ ["leaf", "inner", "leaf"] ↔ id ∈ ["inner", "leaf"] := by
    intro id
    simp only [List.mem_cons, List.not_mem_nil, or_false]
    tauto
  exact ⟨same, removeNodes_in_batches.2 _ _ same⟩

end Workspace

end NodeFlow
