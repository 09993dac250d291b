import NodeFlow.Proofs.Session.References

/-!
# What goes with removed nodes

The edges at removed nodes and the memberships of removed nodes go with them, and so do the groups
that lose all their members. What refers to such a group is kept. Main statement: after a removal
the graph refers to none of the nodes that were named; it refers to a group that was emptied
wherever it did so before and the edge or the other group is still there.
-/

namespace NodeFlow

/-- A group that had members and loses all of them with the nodes. -/
structure Node.EmptiedBy (gone : List String) (node : Node) : Prop where
  isGroup : node.isGroup = true
  nonempty : node.members ≠ []
  all : ∀ id ∈ node.members, id ∈ gone

/-- The edge, or the group, is in the graph. -/
def Reference.IsIn (graph : Graph) : Reference → Prop
  | .edge link => link ∈ graph.edges
  | .members group => ∃ node ∈ graph.groups, node.id = group

theorem Node.survives_eq_false_iff {gone : List String} {node : Node} :
    node.survives gone = false ↔ node.id ∈ gone ∨ node.EmptiedBy gone := by
  have emptied : (node.isGroup && !node.members.isEmpty &&
      node.members.all fun id => gone.contains id) = true ↔ node.EmptiedBy gone := by
    simp only [Bool.and_eq_true, Bool.not_eq_true', List.isEmpty_eq_false_iff, List.all_eq_true,
      List.contains_iff_mem]
    exact ⟨fun ⟨⟨isGroup, nonempty⟩, all⟩ => ⟨isGroup, nonempty, all⟩,
      fun ⟨isGroup, nonempty, all⟩ => ⟨⟨isGroup, nonempty⟩, all⟩⟩
  rw [← emptied, Node.survives, Bool.and_eq_false_iff, Bool.not_eq_false', Bool.not_eq_false',
    List.contains_iff_mem]

/-! A node that is no group goes only if it is named, and stays as it is if it does not go. -/

theorem Node.survives_of_plain {gone : List String} {node : Node} (plain : node.isGroup = false)
    (unnamed : node.id ∉ gone) : node.survives gone = true := by
  simp [Node.survives, plain, unnamed]

theorem Node.prune_of_plain {node : Node} (gone : List String) (plain : node.isGroup = false) :
    node.prune gone = node := by
  simp [Node.prune, plain]

theorem Node.prune_withData (gone : List String) (node : Node) (data : Fields) :
    (node.withData data).prune gone = (node.prune gone).withData data := by
  cases isGroup : node.isGroup <;> simp [prune, withData, isGroup]

theorem Node.data_prune (gone : List String) (node : Node) : (node.prune gone).data = node.data := by
  unfold Node.prune
  split <;> rfl

namespace Graph

variable {graph : Graph} {gone : List String} {node : Node} {reference : Reference} {id : String}

theorem map_id_removeNodes (graph : Graph) (gone : List String) :
    (graph.removeNodes gone).nodes.map Node.id =
      (graph.nodes.filter (Node.survives gone)).map Node.id := by
  show ((graph.nodes.filter (Node.survives gone)).map (Node.prune gone)).map Node.id = _
  rw [List.map_map]
  exact List.map_congr_left fun other _ => (Node.redraws_prune gone other).id

theorem node?_removeNodes (graph : Graph) (gone : List String) (id : String) :
    (graph.removeNodes gone).node? id =
      ((graph.node? id).filter (Node.survives gone)).map (Node.prune gone) := by
  rw [← node?_filterNodes]
  exact node?_mapNodes _ id fun node => (Node.redraws_prune gone node).id

/-- A node is missing after a removal if it does not survive it. -/
theorem contains_removeNodes_eq_false_iff (member : node ∈ graph.nodes) :
    (graph.removeNodes gone).contains node.id = false ↔
      node.id ∈ gone ∨ node.EmptiedBy gone := by
  rw [← Node.survives_eq_false_iff]
  simp only [contains, map_id_removeNodes, List.contains_eq_mem, decide_eq_false_iff_not]
  constructor
  · intro missing
    cases survives : node.survives gone with
    | false => rfl
    | true => exact absurd (List.mem_map_of_mem (List.mem_filter.2 ⟨member, survives⟩)) missing
  · intro lost listed
    obtain ⟨other, survivor, same⟩ := List.mem_map.1 listed
    obtain ⟨inGraph, survives⟩ := List.mem_filter.1 survivor
    rw [eq_of_id member inGraph same, lost] at survives
    cases survives

theorem mem_edges_removeNodes {edge : Edge} :
    edge ∈ (graph.removeNodes gone).edges ↔
      edge ∈ graph.edges ∧ ∀ id ∈ gone, edge.touches id = false := by
  show edge ∈ graph.edges.filter _ ↔ _
  simp [List.mem_filter]

/-- A group that is kept lists the members it had, but for those that are gone. -/
theorem mem_groups_removeNodes :
    node ∈ (graph.removeNodes gone).groups ↔
      ∃ origin ∈ graph.groups, origin.survives gone = true ∧ node = origin.prune gone := by
  have flag := fun origin => (Node.redraws_prune gone origin).isGroup
  constructor
  · intro inGroups
    obtain ⟨inAfter, isGroup⟩ := List.mem_filter.1 inGroups
    obtain ⟨origin, survivor, rfl⟩ := List.mem_map.1 inAfter
    obtain ⟨inGraph, survives⟩ := List.mem_filter.1 survivor
    exact ⟨origin, List.mem_filter.2 ⟨inGraph, flag origin ▸ isGroup⟩, survives, rfl⟩
  · rintro ⟨origin, inGroups, survives, rfl⟩
    obtain ⟨inGraph, isGroup⟩ := List.mem_filter.1 inGroups
    refine List.mem_filter.2 ⟨?_, (flag origin).trans isGroup⟩
    exact List.mem_map_of_mem (List.mem_filter.2 ⟨inGraph, survives⟩)

theorem mem_members_prune (isGroup : node.isGroup = true) :
    id ∈ (node.prune gone).members ↔ id ∈ node.members ∧ id ∉ gone := by
  simp [Node.prune, isGroup, List.mem_filter]

/-- What a removal leaves refers to a node if it did so before and the node is not named. -/
theorem refers_removeNodes_iff :
    (graph.removeNodes gone).Refers reference id ↔
      graph.Refers reference id ∧ reference.IsIn (graph.removeNodes gone) ∧ id ∉ gone := by
  cases reference with
  | edge edge =>
    constructor
    · rintro ⟨stays, touches⟩
      obtain ⟨inGraph, untouched⟩ := mem_edges_removeNodes.1 stays
      refine ⟨⟨inGraph, touches⟩, stays, fun named => ?_⟩
      rw [untouched id named] at touches
      cases touches
    · rintro ⟨⟨_, touches⟩, stays, _⟩
      exact ⟨stays, touches⟩
  | members group =>
    constructor
    · rintro ⟨node, inGroups, sameId, listed⟩
      obtain ⟨origin, inGraph, _, rfl⟩ := mem_groups_removeNodes.1 inGroups
      obtain ⟨wasListed, absent⟩ := (mem_members_prune (List.mem_filter.1 inGraph).2).1 listed
      have originId := (Node.redraws_prune gone origin).id.symm.trans sameId
      exact ⟨⟨origin, inGraph, originId, wasListed⟩, ⟨_, inGroups, sameId⟩, absent⟩
    · rintro ⟨⟨other, otherGroup, otherId, listed⟩, ⟨node, inGroups, sameId⟩, absent⟩
      obtain ⟨origin, inGraph, _, rfl⟩ := mem_groups_removeNodes.1 inGroups
      have originId := (Node.redraws_prune gone origin).id.symm.trans sameId
      -- Ids are distinct, so the group that is kept is the one that listed the node.
      obtain rfl := eq_of_id (List.mem_filter.1 inGraph).1 (List.mem_filter.1 otherGroup).1
        (otherId.trans originId.symm)
      have kept := (mem_members_prune (List.mem_filter.1 inGraph).2).2 ⟨listed, absent⟩
      exact ⟨_, inGroups, sameId, kept⟩

/-- A removal keeps the order of nodes and edges. It takes the nodes that are named and the groups
that lose all their members. No edge touches a node that was named and no group lists it any more.
A group that was lost only because it was emptied is still referred to by all edges and groups that
referred to it and are still there. -/
theorem removeNodes_references (graph : Graph) (gone : List String) :
    ((graph.removeNodes gone).nodes.map Node.id).Sublist (graph.nodes.map Node.id) ∧
    (graph.removeNodes gone).edges.Sublist graph.edges ∧
    ∀ node ∈ graph.nodes,
      ((graph.removeNodes gone).contains node.id = false ↔
        node.id ∈ gone ∨ node.EmptiedBy gone) ∧
      (node.id ∈ gone → ∀ reference, ¬ (graph.removeNodes gone).Refers reference node.id) ∧
      (node.id ∉ gone → node.EmptiedBy gone → ∀ reference,
        (graph.removeNodes gone).Refers reference node.id ↔
          graph.Refers reference node.id ∧ reference.IsIn (graph.removeNodes gone)) := by
  refine ⟨?_, List.filter_sublist, fun node member => ⟨?_, ?_, ?_⟩⟩
  · rw [map_id_removeNodes]
    exact List.filter_sublist.map Node.id
  · exact contains_removeNodes_eq_false_iff member
  · intro named reference refers
    exact (refers_removeNodes_iff.1 refers).2.2 named
  · intro unnamed _ reference
    rw [refers_removeNodes_iff]
    exact and_congr_right fun _ => and_iff_left unnamed

/-- A group of one leaf, with an output port. -/
def innerGroup : Node :=
  { Node.blank "inner" with
    ports := [⟨"p1", .text "inner", "out", .text "number", .text "out", false⟩]
    isGroup := true, members := ["leaf"] }

/-- The group lies in another one, and an edge leads from it to the other member. -/
def nestedGroups : Graph where
  nodes :=
    [{ Node.blank "outer" with isGroup := true, members := ["inner", "other"] }, innerGroup,
     Node.blank "leaf",
     { Node.blank "other" with
        ports := [⟨"p2", .text "other", "in", .text "number", .text "in", false⟩] }]
  edges := [⟨"link", .ref "inner:out", .ref "other:in", false⟩]
  distinct := by simp [Node.blank, innerGroup]

/-- The edge of the inner group is kept when the leaf is removed. -/
theorem innerGroup_referred :
    innerGroup ∈ nestedGroups.nodes ∧ innerGroup.id ∉ ["leaf"] ∧ innerGroup.EmptiedBy ["leaf"] ∧
      ∃ edge ∈ nestedGroups.edges,
        (nestedGroups.removeNodes ["leaf"]).Refers (.edge edge) innerGroup.id := by
  have member : innerGroup ∈ nestedGroups.nodes := List.mem_cons_of_mem _ List.mem_cons_self
  have unnamed : innerGroup.id ∉ ["leaf"] := by decide
  have emptied : innerGroup.EmptiedBy ["leaf"] := ⟨rfl, by simp [innerGroup], by simp [innerGroup]⟩
  have kept := (removeNodes_references nestedGroups ["leaf"]).2.2 innerGroup member
  refine ⟨member, unnamed, emptied, _, List.mem_cons_self, ?_⟩
  refine (kept.2.2 unnamed emptied (.edge _)).2 ⟨⟨List.mem_cons_self, ?_⟩, ?_⟩
  · decide +kernel
  · exact mem_edges_removeNodes.2 ⟨List.mem_cons_self, by decide +kernel⟩

/-- So a node can be gone while an edge still begins at it and a group still lists it. -/
theorem innerGroup_left_behind :
    nestedGroups.contains "inner" = true ∧
      (nestedGroups.removeNodes ["leaf"]).contains "inner" = false ∧
      (∃ edge ∈ (nestedGroups.removeNodes ["leaf"]).edges, edge.touches "inner" = true) ∧
      ∃ group ∈ (nestedGroups.removeNodes ["leaf"]).groups, "inner" ∈ group.members := by
  decide +kernel

end Graph

end NodeFlow
