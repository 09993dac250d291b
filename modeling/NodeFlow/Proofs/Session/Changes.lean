import NodeFlow.Proofs.Run.Visit
import NodeFlow.Proofs.Session.WellFormed

/-!
# Changes that keep graphs sound

One lemma for each change of a graph that an editor makes. Changes of the drawing or the data keep
a graph sound because soundness does not read them; what takes nodes or edges away keeps it because
edges and memberships go with the nodes; what adds a node or an edge needs ids that are new.
-/

namespace NodeFlow

namespace Node

/-- What soundness reads of a node. -/
def outline (node : Node) : String × List Port × Bool × List String :=
  (node.id, node.ports, node.isGroup, node.members)

theorem redraws_of_outline {node origin : Node} (same : node.outline = origin.outline) :
    node.Redraws origin := by
  unfold outline at same
  simp only [Prod.mk.injEq] at same
  exact ⟨same.1, same.2.1, same.2.2.1⟩

theorem redraws_prune (gone : List String) (node : Node) : (node.prune gone).Redraws node := by
  unfold prune
  split <;> exact ⟨rfl, rfl, rfl⟩

end Node

namespace Graph

/-- Nothing is left out with an id that nothing has. -/
theorem filter_ne_of_absent {α : Type} (name : α → String) {items : List α} {id : String}
    (absent : id ∉ items.map name) : items.filter (fun item => name item != id) = items := by
  refine List.filter_eq_self.2 fun item member => ?_
  have different : name item ≠ id := fun same => absent (same ▸ List.mem_map_of_mem member)
  simpa using different

/-- A node of a new id goes before the others and moves none of them. -/
theorem nodes_insertFirst {graph : Graph} {node : Node}
    (absent : node.id ∉ graph.nodes.map Node.id) :
    (graph.insertFirst node).nodes = node :: graph.nodes := by
  have none := node?_eq_none_iff.2 absent
  simp only [Graph.insertFirst, none, filter_ne_of_absent Node.id absent, Option.getD_none]

namespace Sound

variable {made : List Node} {last : Nat} {graph after : Graph}

/-! ## Taking away -/

theorem empty_of_made (genuine : ∀ node ∈ made, node.Genuine)
    (distinct : (made.flatMap Node.marks).Nodup)
    (issued : ∀ id ∈ made.flatMap Node.marks, IdSource.number id ≤ last) :
    Graph.empty.Sound made last where
  genuine := genuine
  distinct := by simpa [Graph.empty] using distinct
  issued := by simpa [Graph.empty] using issued
  drawn := by simp [Graph.empty]
  edges := by simp [Graph.empty]
  groupsFirst := List.Pairwise.nil
  groups := by simp [Graph.empty]

theorem clear (sound : graph.Sound made last) : Graph.empty.Sound made last := by
  have ofMade := (List.nodup_append.1 sound.distinct).1
  refine empty_of_made sound.genuine ofMade fun id member => ?_
  exact sound.issued id (List.mem_append_left _ member)

/-- Fewer edges. -/
theorem withEdges (sound : graph.Sound made last) {edges : List Edge}
    (fewer : edges.Sublist graph.edges) : (graph.withEdges edges).Sound made last := by
  refine sound.shrink fewer ?_ ?_ sound.groupsFirst sound.groups
  · intro node member
    exact ⟨node, member, .refl node⟩
  · intro edge _ node member _ _
    exact ⟨node, member, .refl node⟩

theorem disconnect (sound : graph.Sound made last) (id : String) :
    (graph.disconnect id).Sound made last :=
  sound.withEdges List.filter_sublist

/-- Whether groups come first depends on the flags of the nodes alone. -/
private theorem groupsFirst_of_flags {nodes others : List Node}
    (flags : others.map Node.isGroup = nodes.map Node.isGroup)
    (ordered : nodes.Pairwise fun earlier later => later.isGroup = true → earlier.isGroup = true) :
    others.Pairwise fun earlier later => later.isGroup = true → earlier.isGroup = true := by
  have onFlags : (nodes.map Node.isGroup).Pairwise fun earlier later =>
      later = true → earlier = true := List.pairwise_map.2 ordered
  rw [← flags] at onFlags
  exact List.pairwise_map.1 onFlags

/-- The nodes may change in everything that soundness does not read. -/
theorem redraw (sound : graph.Sound made last) (edges : after.edges = graph.edges)
    (outlines : after.nodes.map Node.outline = graph.nodes.map Node.outline) :
    after.Sound made last := by
  have origin : ∀ node ∈ after.nodes, ∃ other ∈ graph.nodes, node.outline = other.outline := by
    intro node member
    have listed : node.outline ∈ graph.nodes.map Node.outline :=
      outlines ▸ List.mem_map_of_mem member
    obtain ⟨other, inGraph, same⟩ := List.mem_map.1 listed
    exact ⟨other, inGraph, same.symm⟩
  have image : ∀ node ∈ graph.nodes, ∃ other ∈ after.nodes, other.outline = node.outline := by
    intro node member
    have listed : node.outline ∈ after.nodes.map Node.outline :=
      outlines ▸ List.mem_map_of_mem member
    obtain ⟨other, inAfter, same⟩ := List.mem_map.1 listed
    exact ⟨other, inAfter, same⟩
  have flags : after.nodes.map Node.isGroup = graph.nodes.map Node.isGroup := by
    have read := congrArg (List.map fun outline => outline.2.2.1) outlines
    rw [List.map_map, List.map_map] at read
    exact read
  refine sound.shrink (edges ▸ List.Sublist.refl _) ?_ ?_
    (groupsFirst_of_flags flags sound.groupsFirst) ?_
  · intro node member
    obtain ⟨other, inGraph, same⟩ := origin node member
    exact ⟨other, inGraph, Node.redraws_of_outline same⟩
  · intro edge _ node member _ _
    obtain ⟨other, inAfter, same⟩ := image node member
    exact ⟨other, inAfter, Node.redraws_of_outline same⟩
  · intro group member isGroup
    obtain ⟨other, inGraph, same⟩ := origin group member
    have members : group.members = other.members := congrArg (·.2.2.2) same
    have otherGroup : other.isGroup = true := (Node.redraws_of_outline same).isGroup ▸ isGroup
    have encloses := sound.groups other inGraph otherGroup
    refine ⟨members ▸ encloses.nonempty, members ▸ encloses.distinct, ?_⟩
    intro id listed
    obtain ⟨node, inNodes, sameId, plain⟩ := encloses.present id (members ▸ listed)
    obtain ⟨image, inAfter, same⟩ := image node inNodes
    have redraws := Node.redraws_of_outline same
    exact ⟨image, inAfter, redraws.id.trans sameId, redraws.isGroup.trans plain⟩

theorem mapNodes (sound : graph.Sound made last) {change : Node → Node}
    (keepsId : ∀ node, (change node).id = node.id)
    (keeps : ∀ node, (change node).outline = node.outline) :
    (graph.mapNodes change keepsId).Sound made last := by
  refine sound.redraw rfl ?_
  simp only [Graph.mapNodes, List.map_map, Function.comp_def, keeps]

theorem place (sound : graph.Sound made last) (id : String) (x y : Binary64) :
    (graph.place id x y).Sound made last := by
  apply sound.mapNodes
  intro node
  split <;> rfl

theorem changeData (sound : graph.Sound made last) (id : String) (change : Fields → Fields) :
    (graph.changeData id change).Sound made last := by
  apply sound.mapNodes
  intro node
  split <;> rfl

theorem sameShape (sound : graph.Sound made last) (same : after.SameShape graph) :
    after.Sound made last :=
  sound.redraw same.edges (same.map_nodes Node.outline fun _ => rfl)

/-- A group goes and its members stay. -/
theorem dissolve (sound : graph.Sound made last) {group : Node} (member : group ∈ graph.nodes)
    (isGroup : group.isGroup = true) :
    (graph.filterNodes fun other => other.id != group.id).Sound made last := by
  have keeps : ∀ node ∈ graph.nodes, node.isGroup = false →
      node ∈ (graph.filterNodes fun other => other.id != group.id).nodes := by
    intro node inGraph plain
    refine List.mem_filter.2 ⟨inGraph, ?_⟩
    simp only [bne_iff_ne]
    intro sameId
    have same := List.inj_on_of_nodup_map graph.distinct inGraph member sameId
    rw [same, isGroup] at plain
    cases plain
  refine sound.shrink (List.Sublist.refl _) ?_ ?_ (sound.groupsFirst.sublist List.filter_sublist) ?_
  · intro node inAfter
    exact ⟨node, (List.mem_filter.1 inAfter).1, .refl node⟩
  · intro edge _ node inGraph plain _
    exact ⟨node, keeps node inGraph plain, .refl node⟩
  · intro other inAfter otherGroup
    have encloses := sound.groups other (List.mem_filter.1 inAfter).1 otherGroup
    refine ⟨encloses.nonempty, encloses.distinct, ?_⟩
    intro id listed
    obtain ⟨node, inGraph, sameId, plain⟩ := encloses.present id listed
    exact ⟨node, keeps node inGraph plain, sameId, plain⟩

/-- Edges and memberships go with removed nodes, and so do the groups that this empties. -/
theorem removeNodes (sound : graph.Sound made last) (gone : List String) :
    (graph.removeNodes gone).Sound made last := by
  have keeps : ∀ node ∈ graph.nodes, node.isGroup = false → node.id ∉ gone →
      node.prune gone ∈ (graph.removeNodes gone).nodes := by
    intro node inGraph plain absent
    apply List.mem_map_of_mem
    refine List.mem_filter.2 ⟨inGraph, ?_⟩
    simp [Node.survives, plain, absent]
  have flags : ((graph.nodes.filter (Node.survives gone)).map (Node.prune gone)).map Node.isGroup =
      (graph.nodes.filter (Node.survives gone)).map Node.isGroup := by
    rw [List.map_map]
    exact List.map_congr_left fun node _ => (Node.redraws_prune gone node).isGroup
  refine sound.shrink List.filter_sublist ?_ ?_
    (groupsFirst_of_flags flags (sound.groupsFirst.sublist List.filter_sublist)) ?_
  · intro node inAfter
    obtain ⟨origin, survivor, rfl⟩ := List.mem_map.1 inAfter
    exact ⟨origin, (List.mem_filter.1 survivor).1, Node.redraws_prune gone origin⟩
  · intro edge inAfter node inGraph plain touches
    have untouched := (List.mem_filter.1 inAfter).2
    simp only [Bool.not_eq_true', List.any_eq_false] at untouched
    have absent : node.id ∉ gone := fun listed => untouched node.id listed touches
    exact ⟨node.prune gone, keeps node inGraph plain absent, Node.redraws_prune gone node⟩
  · intro group inAfter isGroup
    obtain ⟨origin, survivor, rfl⟩ := List.mem_map.1 inAfter
    obtain ⟨inGraph, survives⟩ := List.mem_filter.1 survivor
    rw [(Node.redraws_prune gone origin).isGroup] at isGroup
    have encloses := sound.groups origin inGraph isGroup
    have members : (origin.prune gone).members =
        origin.members.filter fun id => !gone.contains id := by
      simp [Node.prune, isGroup]
    refine ⟨?_, ?_, ?_⟩
    · simp only [Node.survives, isGroup, Bool.true_and, Bool.and_eq_true, Bool.not_eq_true',
        Bool.and_eq_false_iff, Bool.not_eq_false', List.isEmpty_iff, List.all_eq_false] at survives
      obtain ⟨id, listed, stays⟩ := survives.2.resolve_left encloses.nonempty
      rw [members]
      exact List.ne_nil_of_mem (List.mem_filter.2 ⟨listed, by simpa using stays⟩)
    · rw [members]
      exact encloses.distinct.filter _
    · intro id listed
      rw [members] at listed
      obtain ⟨inMembers, stays⟩ := List.mem_filter.1 listed
      obtain ⟨node, inNodes, sameId, plain⟩ := encloses.present id inMembers
      have absent : node.id ∉ gone := by simpa [sameId] using stays
      have redraws := Node.redraws_prune gone node
      exact ⟨_, keeps node inNodes plain absent, redraws.id.trans sameId,
        redraws.isGroup.trans plain⟩

/-! ## Adding -/

/-- A node is made under new ids. -/
theorem make (sound : graph.Sound made last) {node : Node} {high : Nat} (genuine : node.Genuine)
    (issued : IdSource.Issued last high node.marks) (forward : last ≤ high) :
    graph.Sound (node :: made) high where
  genuine := by
    intro other member
    rcases List.mem_cons.1 member with rfl | old
    · exact genuine
    · exact sound.genuine other old
  distinct := by
    rw [List.flatMap_cons, List.append_assoc]
    exact issued.nodup_append sound.distinct sound.issued
  issued := by
    intro id member
    rw [List.flatMap_cons, List.append_assoc] at member
    rcases List.mem_append.1 member with new | old
    · exact issued.upTo id new
    · exact Nat.le_trans (sound.issued id old) forward
  drawn := by
    intro other member
    obtain ⟨origin, inMade, redraws⟩ := sound.drawn other member
    exact ⟨origin, List.mem_cons_of_mem _ inMade, redraws⟩
  edges := sound.edges
  groupsFirst := sound.groupsFirst
  groups := sound.groups

/-- No node has an id that is issued later. -/
theorem absent_of_issued (sound : graph.Sound made last) {high : Nat} {ids : List String}
    (issued : IdSource.Issued last high ids) {id : String} (member : id ∈ ids) :
    id ∉ graph.nodes.map Node.id := by
  intro present
  obtain ⟨node, inGraph, rfl⟩ := List.mem_map.1 present
  have mark := sound.mark_mem inGraph (show node.id ∈ node.marks from List.mem_cons_self)
  have upper := sound.issued node.id (List.mem_append_left _ mark)
  have lower := issued.above node.id member
  omega

/-- More nodes, all of them drawn from made ones. -/
theorem draw (sound : graph.Sound made last) (edges : after.edges = graph.edges)
    (more : ∀ node ∈ graph.nodes, node ∈ after.nodes)
    (drawn : ∀ node ∈ after.nodes, node ∉ graph.nodes → ∃ origin ∈ made, node.Redraws origin)
    (groupsFirst : after.nodes.Pairwise fun earlier later =>
      later.isGroup = true → earlier.isGroup = true)
    (groups : ∀ group ∈ after.nodes, group ∉ graph.nodes → group.isGroup = true →
      group.Encloses graph.nodes) : after.Sound made last where
  genuine := sound.genuine
  distinct := edges ▸ sound.distinct
  issued := edges ▸ sound.issued
  drawn := by
    intro node inAfter
    by_cases inGraph : node ∈ graph.nodes
    · exact sound.drawn node inGraph
    · exact drawn node inAfter inGraph
  edges := by
    intro edge member
    rw [edges] at member
    obtain ⟨source, target, joins⟩ := sound.edges edge member
    refine ⟨source, target, sound.joins_after joins ?_⟩
    intro node inGraph _ _
    exact ⟨node, more node inGraph, .refl node⟩
  groupsFirst := groupsFirst
  groups := by
    intro group inAfter isGroup
    have encloses : group.Encloses graph.nodes := by
      by_cases inGraph : group ∈ graph.nodes
      · exact sound.groups group inGraph isGroup
      · exact groups group inAfter inGraph isGroup
    refine ⟨encloses.nonempty, encloses.distinct, ?_⟩
    intro id listed
    obtain ⟨node, inGraph, sameId, plain⟩ := encloses.present id listed
    exact ⟨node, more node inGraph, sameId, plain⟩

/-- A made node that is no group goes behind the others. -/
theorem insertLast (sound : graph.Sound made last) {node origin : Node} (inMade : origin ∈ made)
    (redraws : node.Redraws origin) (plain : node.isGroup = false)
    (absent : node.id ∉ graph.nodes.map Node.id) :
    (graph.insertLast node absent).Sound made last := by
  have new : ∀ other ∈ (graph.insertLast node absent).nodes, other ∉ graph.nodes →
      other = node :=
    fun _ inAfter notInGraph => (mem_insertLast.1 inAfter).resolve_left notInGraph
  refine sound.draw rfl ?_ ?_ ?_ ?_
  · intro other inGraph
    exact List.mem_append_left _ inGraph
  · intro other inAfter notInGraph
    rw [new other inAfter notInGraph]
    exact ⟨origin, inMade, redraws⟩
  · refine List.pairwise_append.2 ⟨sound.groupsFirst, List.pairwise_singleton _ _, ?_⟩
    intro earlier _ later inLast isGroup
    rw [List.mem_singleton.1 inLast, plain] at isGroup
    cases isGroup
  · intro other inAfter notInGraph isGroup
    rw [new other inAfter notInGraph, plain] at isGroup
    cases isGroup

/-- A made group goes before the others. -/
theorem insertFirst (sound : graph.Sound made last) {group : Node} (inMade : group ∈ made)
    (isGroup : group.isGroup = true) (absent : group.id ∉ graph.nodes.map Node.id)
    (encloses : group.Encloses graph.nodes) : (graph.insertFirst group).Sound made last := by
  have shape := nodes_insertFirst absent
  have new : ∀ other ∈ (graph.insertFirst group).nodes, other ∉ graph.nodes → other = group :=
    fun _ inAfter notInGraph => (mem_of_insertFirst inAfter).resolve_right notInGraph
  refine sound.draw rfl ?_ ?_ ?_ ?_
  · intro other inGraph
    rw [shape]
    exact List.mem_cons_of_mem _ inGraph
  · intro other inAfter notInGraph
    rw [new other inAfter notInGraph]
    exact ⟨group, inMade, .refl group⟩
  · rw [shape]
    exact List.pairwise_cons.2 ⟨fun _ _ _ => isGroup, sound.groupsFirst⟩
  · intro other inAfter notInGraph _
    rw [new other inAfter notInGraph]
    exact encloses

/-- An edge that joins two ports is added under a new id. -/
theorem insertEdge (sound : graph.Sound made last) {edge : Edge} {high : Nat} {source target : Port}
    (issued : IdSource.Issued last high [edge.id]) (forward : last ≤ high)
    (joins : edge.Joins graph.nodes source target) : (graph.insertEdge edge).Sound made high := by
  have order : (made.flatMap Node.marks ++ (graph.insertEdge edge).edges.map Edge.id).Perm
      ([edge.id] ++ (made.flatMap Node.marks ++ graph.edges.map Edge.id)) := by
    simp only [Graph.insertEdge, Graph.withEdges, List.map_append, List.map_cons, List.map_nil,
      ← List.append_assoc]
    exact List.perm_append_comm
  refine ⟨sound.genuine, ?_, ?_, sound.drawn, ?_, sound.groupsFirst, sound.groups⟩
  · rw [order.nodup_iff]
    exact issued.nodup_append sound.distinct sound.issued
  · intro id member
    rcases List.mem_append.1 (order.mem_iff.1 member) with new | old
    · exact issued.upTo id new
    · exact Nat.le_trans (sound.issued id old) forward
  · intro other member
    rcases List.mem_append.1 member with old | new
    · exact sound.edges other old
    · rw [List.mem_singleton.1 new]
      exact ⟨source, target, joins⟩

end Sound

end Graph

end NodeFlow
