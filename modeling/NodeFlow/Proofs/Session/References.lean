import NodeFlow.Proofs.Session.Identifiers
import NodeFlow.Proofs.Session.Parts

/-!
# References to nodes that are still to come

Edges and groups name nodes by their ids. Whatever an editor brings into a graph names nodes that
are there. Client code can also bring in names of nodes that are not, and the counter does not pass
these. Main statement: a graph refers to a node that is new only if such a name was brought in
before; to create a node and remove it again takes these references away and nothing else.
-/

namespace NodeFlow

/-- Where a graph refers to nodes. -/
inductive Reference where
  | edge (edge : Edge)
  /-- The members of the group of an id. -/
  | members (group : String)

/-- The graph refers there to the node of an id. -/
def Graph.Refers (graph : Graph) : Reference → String → Prop
  | .edge edge, id => edge ∈ graph.edges ∧ edge.touches id = true
  | .members group, id => ∃ node ∈ graph.groups, node.id = group ∧ id ∈ node.members

/-- The graph gets a node of the id, above or below all others, and stays as it was otherwise. -/
structure Graph.Gains (graph : Graph) (id : String) (after : Graph) : Prop where
  nodes : ∃ node : Node, node.id = id ∧
    (after.nodes = graph.nodes ++ [node] ∨ after.nodes = node :: graph.nodes)
  edges : after.edges = graph.edges

/-- What adds a node under an identifier that it generates. -/
inductive NodeMaker where
  | create (kind : String) (x y : Value)
  | createShape (kind : String) (x y : Value)
  | new (node : Node)
  | group (keys : List NodeKey) (label : String)

/-- Adds the node, if there is one. -/
def NodeMaker.edit : NodeMaker → Edit Workspace (Option Node)
  | .create kind x y => return some (← Workspace.createNode kind x y)
  | .createShape kind x y => return some (← Workspace.createShape kind x y)
  | .new node => return some (← Workspace.newNode none node)
  | .group keys label => Workspace.groupNodes keys label

/-- Whether the action adds nodes or edges as they are given. -/
def ClientAction.isUnchecked : ClientAction → Bool
  | .addNode _ | .newNode .. | .addEdge _ | .newEdge .. | .restore _ | .load _ => true
  | .editor _ | .issue _ => false

/-! ## References in changed graphs -/

namespace Graph

variable {graph after : Graph} {reference : Reference} {id : String}

/-- The edges and the groups with their members come from the other graph. -/
theorem Refers.before (refers : after.Refers reference id) (edges : after.edges ⊆ graph.edges)
    (groups : ∀ node ∈ after.nodes, node.isGroup = true → ∃ origin ∈ graph.nodes,
      origin.isGroup = true ∧ origin.id = node.id ∧ node.members ⊆ origin.members) :
    graph.Refers reference id := by
  cases reference with
  | edge edge => exact ⟨edges refers.1, refers.2⟩
  | members group =>
    obtain ⟨node, inGroups, rfl, listed⟩ := refers
    obtain ⟨inAfter, isGroup⟩ := List.mem_filter.1 inGroups
    obtain ⟨origin, inGraph, originGroup, same, fewer⟩ := groups node inAfter isGroup
    exact ⟨origin, List.mem_filter.2 ⟨inGraph, originGroup⟩, same, fewer listed⟩

theorem Refers.of_mapNodes {change : Node → Node} {keepsId : ∀ node, (change node).id = node.id}
    (keeps : ∀ node, (change node).outline = node.outline)
    (refers : (graph.mapNodes change keepsId).Refers reference id) : graph.Refers reference id := by
  refine refers.before (List.Subset.refl _) fun node inAfter isGroup => ?_
  obtain ⟨origin, inGraph, rfl⟩ := List.mem_map.1 inAfter
  have flags : (change origin).isGroup = origin.isGroup := congrArg (·.2.2.1) (keeps origin)
  have members : (change origin).members = origin.members := congrArg (·.2.2.2) (keeps origin)
  exact ⟨origin, inGraph, flags ▸ isGroup, (keepsId origin).symm, members ▸ List.Subset.refl _⟩

theorem Refers.of_filterNodes {keep : Node → Bool}
    (refers : (graph.filterNodes keep).Refers reference id) : graph.Refers reference id := by
  refine refers.before (List.Subset.refl _) fun node inAfter isGroup => ?_
  exact ⟨node, (List.mem_filter.1 inAfter).1, isGroup, rfl, List.Subset.refl _⟩

theorem Refers.of_withEdges {edges : List Edge} (fewer : edges ⊆ graph.edges)
    (refers : (graph.withEdges edges).Refers reference id) : graph.Refers reference id :=
  refers.before fewer fun node inAfter isGroup =>
    ⟨node, inAfter, isGroup, rfl, List.Subset.refl _⟩

theorem Refers.of_removeNodes {gone : List String}
    (refers : (graph.removeNodes gone).Refers reference id) : graph.Refers reference id := by
  refine refers.before List.filter_sublist.subset fun node inAfter isGroup => ?_
  obtain ⟨origin, survivor, rfl⟩ := List.mem_map.1 inAfter
  have redraws := Node.redraws_prune gone origin
  refine ⟨origin, (List.mem_filter.1 survivor).1, redraws.isGroup ▸ isGroup, redraws.id.symm, ?_⟩
  unfold Node.prune
  split
  · exact List.filter_sublist.subset
  · exact List.Subset.refl _

theorem Refers.of_sameShape (same : after.SameShape graph) (refers : after.Refers reference id) :
    graph.Refers reference id := by
  have outlines := same.map_nodes Node.outline fun _ => rfl
  refine refers.before (same.edges ▸ List.Subset.refl _) fun node inAfter isGroup => ?_
  have listed : node.outline ∈ graph.nodes.map Node.outline :=
    outlines ▸ List.mem_map_of_mem inAfter
  obtain ⟨origin, inGraph, shape⟩ := List.mem_map.1 listed
  have redraws := Node.redraws_of_outline shape
  have members : origin.members = node.members := congrArg (·.2.2.2) shape
  exact ⟨origin, inGraph, redraws.isGroup.trans isGroup, redraws.id,
    members ▸ List.Subset.refl _⟩

theorem Refers.of_insertLast {node : Node} {absent : node.id ∉ graph.nodes.map Node.id}
    (plain : node.isGroup = false) (refers : (graph.insertLast node absent).Refers reference id) :
    graph.Refers reference id := by
  refine refers.before (List.Subset.refl _) fun other inAfter isGroup => ?_
  rcases mem_insertLast.1 inAfter with old | rfl
  · exact ⟨other, old, isGroup, rfl, List.Subset.refl _⟩
  · rw [plain] at isGroup
    cases isGroup

theorem Refers.of_insertEdge {edge : Edge} (refers : (graph.insertEdge edge).Refers reference id) :
    graph.Refers reference id ∨ edge.touches id = true := by
  cases reference with
  | members group => exact .inl refers
  | edge other =>
    rcases mem_insertEdge.1 refers.1 with old | rfl
    · exact .inl ⟨old, refers.2⟩
    · exact .inr refers.2

theorem Refers.of_insertFirst {node : Node}
    (refers : (graph.insertFirst node).Refers reference id) :
    graph.Refers reference id ∨ id ∈ node.members := by
  cases reference with
  | edge edge => exact .inl refers
  | members group =>
    obtain ⟨other, inGroups, same, listed⟩ := refers
    obtain ⟨inAfter, isGroup⟩ := List.mem_filter.1 inGroups
    rcases mem_of_insertFirst inAfter with rfl | old
    · exact .inr listed
    · exact .inl ⟨other, List.mem_filter.2 ⟨old, isGroup⟩, same, listed⟩

/-- A sound graph refers to its own nodes only. -/
theorem Sound.refers {made : List Node} {last : Nat} (sound : graph.Sound made last)
    (refers : graph.Refers reference id) : id ∈ graph.nodes.map Node.id := by
  have named : ∀ {side endpoint port}, Endpoint.NamesPort graph.nodes side endpoint port →
      endpoint.node? = some id → id ∈ graph.nodes.map Node.id := by
    intro side endpoint port names touched
    obtain ⟨node, member, _, rfl⟩ := names.owner
    obtain ⟨origin, inMade, redraws⟩ := sound.drawn node member
    have clean := (redraws.genuine (sound.genuine origin inMade)).colon_not_mem
    rw [Endpoint.node?, Ref.node_make _ clean] at touched
    exact Option.some.inj touched ▸ List.mem_map_of_mem member
  cases reference with
  | edge edge =>
    obtain ⟨member, touches⟩ := refers
    obtain ⟨source, target, joins⟩ := sound.edges edge member
    simp only [Edge.touches, Bool.or_eq_true, beq_iff_eq] at touches
    exact touches.elim (named joins.begins) (named joins.ends)
  | members group =>
    obtain ⟨node, inGroups, _, listed⟩ := refers
    obtain ⟨member, isGroup⟩ := List.mem_filter.1 inGroups
    obtain ⟨other, inGraph, same, _⟩ := (sound.groups node member isGroup).present id listed
    exact same ▸ List.mem_map_of_mem inGraph

/-- An edge that is not refused touches nodes of the graph only. -/
theorem mem_of_accepted {source target : String}
    (accepted : graph.connectionError? source target = none) {edge : Edge}
    (begins : edge.source = .ref source) (ends : edge.target = .ref target)
    (touches : edge.touches id = true) : id ∈ graph.nodes.map Node.id := by
  have named : ∀ {ref side port}, graph.port? ref side = some port →
      (Endpoint.ref ref).node? = some id → id ∈ graph.nodes.map Node.id := by
    intro ref side port found touched
    obtain ⟨node, member, same, _⟩ := port?_eq_some found
    exact Option.some.inj touched ▸ same ▸ List.mem_map_of_mem member
  unfold connectionError? at accepted
  cases sourceFound : graph.sourcePort? source with
  | none => simp [sourceFound] at accepted
  | some sourcePort =>
    cases targetFound : graph.targetPort? target with
    | none => simp [sourceFound, targetFound] at accepted
    | some targetPort =>
      simp only [Edge.touches, begins, ends, Bool.or_eq_true, beq_iff_eq] at touches
      exact touches.elim (named sourceFound) (named targetFound)

/-! ## A node that comes and goes -/

/-- To remove the new node is to remove it from the graph without it. -/
theorem Gains.removeNodes (gains : graph.Gains id after) :
    after.removeNodes [id] = graph.removeNodes [id] := by
  obtain ⟨node, rfl, placed⟩ := gains.nodes
  have goes : node.survives [node.id] = false := by simp [Node.survives]
  have survivors : after.nodes.filter (Node.survives [node.id]) =
      graph.nodes.filter (Node.survives [node.id]) := by
    rcases placed with shape | shape
    · rw [shape, List.filter_append, List.filter_cons_of_neg (Bool.eq_false_iff.1 goes),
        List.filter_nil, List.append_nil]
    · rw [shape, List.filter_cons_of_neg (Bool.eq_false_iff.1 goes)]
  exact eq_of_parts (congrArg (List.map _) survivors) (congrArg (List.filter _) gains.edges)

/-- A graph stays as it is without a node that it neither has nor refers to. -/
theorem removeNodes_of_not_refers (absent : id ∉ graph.nodes.map Node.id)
    (unreferred : ∀ reference, ¬ graph.Refers reference id) : graph.removeNodes [id] = graph := by
  have notListed : ∀ node ∈ graph.nodes, node.isGroup = true → id ∉ node.members :=
    fun node inGraph isGroup listed =>
      unreferred (.members node.id) ⟨node, List.mem_filter.2 ⟨inGraph, isGroup⟩, rfl, listed⟩
  have survive : graph.nodes.filter (Node.survives [id]) = graph.nodes := by
    refine List.filter_eq_self.2 fun node inGraph => ?_
    have different : node.id ≠ id := fun same => absent (same ▸ List.mem_map_of_mem inGraph)
    by_cases isGroup : node.isGroup = true
    · cases members : node.members with
      | nil => simp [Node.survives, different, members]
      | cons first rest =>
        have stays : first ≠ id := fun same =>
          notListed node inGraph isGroup (members ▸ same ▸ List.mem_cons_self)
        simp [Node.survives, different, members, stays]
    · simp [Node.survives, different, isGroup]
  have unpruned : ∀ node ∈ graph.nodes, node.prune [id] = node := by
    intro node inGraph
    unfold Node.prune
    split
    · rename_i isGroup
      have all : node.members.filter (fun member => !List.contains [id] member) = node.members := by
        refine List.filter_eq_self.2 fun member listed => ?_
        have different : member ≠ id :=
          fun same => notListed node inGraph isGroup (same ▸ listed)
        simpa using different
      rw [all]
    · rfl
  have untouched : graph.edges.filter (fun edge => !List.any [id] edge.touches) = graph.edges := by
    refine List.filter_eq_self.2 fun edge inGraph => ?_
    have apart : edge.touches id = false :=
      Bool.eq_false_iff.2 fun touches => unreferred (.edge edge) ⟨inGraph, touches⟩
    simp [apart]
  refine eq_of_parts ?_ untouched
  show (graph.nodes.filter (Node.survives [id])).map (Node.prune [id]) = graph.nodes
  rw [survive]
  exact (List.map_congr_left unpruned).trans (List.map_id _)

end Graph

/-! ## Edits -/

/-- A created node has an id that the counter had not passed. -/
theorem Node.New.not_covers {ids later : IdSource} {node : Node}
    (new : node.New ids.last later.last) : ¬ ids.Covers node.id := by
  obtain ⟨number, _, shape⟩ := new.made.id
  have above := new.issued.above node.id List.mem_cons_self
  rw [shape, IdSource.number_generated] at above
  rw [shape, IdSource.covers_generated_iff]
  omega

namespace Workspace

variable {origin : Graph} {before after : Workspace}

/-- The graph refers to nothing to which the other one does not refer. -/
def RefersWithin (origin : Graph) (workspace : Workspace) : Prop :=
  ∀ reference id, workspace.graph.Refers reference id → origin.Refers reference id

/-- What the graph refers to in addition are ids that the counter has passed. -/
def BringsCovered (before after : Workspace) : Prop :=
  ∀ reference id, after.graph.Refers reference id →
    before.graph.Refers reference id ∨ after.ids.Covers id

theorem RefersWithin.bringsCovered (within : after.RefersWithin before.graph) :
    before.BringsCovered after :=
  fun reference id refers => .inl (within reference id refers)

theorem keepsWithin_change {edit : Graph → Graph}
    (fewer : ∀ (graph : Graph) reference id, (edit graph).Refers reference id →
      graph.Refers reference id) : Edit.Keeps (RefersWithin origin) (change edit) :=
  fun _ within reference id refers => within reference id (fewer _ reference id refers)

theorem keepsWithin_naming {α : Type} (operation : Edit IdSource α) :
    Edit.Keeps (RefersWithin origin) (naming operation) := by
  intro before within
  rw [ends_naming]
  unfold Edit.Ends
  cases operation before.ids <;> exact within

theorem keepsWithin_addNode {node : Node} (plain : node.isGroup = false) :
    Edit.Keeps (RefersWithin origin) (addNode node) := by
  intro workspace within
  apply ends_addNode
  · intro absent _ ids _ reference id refers
    have claimed : node.claimPorts.isGroup = false := plain
    have inGraph := @Graph.Refers.of_insertLast _ _ _ _ absent claimed refers
    exact within reference id inGraph
  · intro _ ids _
    exact within

theorem keepsWithin_moveNode (id : String) (x y : Value) :
    Edit.Keeps (RefersWithin origin) (moveNode id x y) := by
  unfold moveNode
  refine Edit.Keeps.bind (fun _ within => within) fun graph => ?_
  split
  · refine (Edit.Keeps.convert _).bind fun x => (Edit.Keeps.convert _).bind fun y => ?_
    refine keepsWithin_change fun graph _ _ refers => refers.of_mapNodes fun node => ?_
    split <;> rfl
  · exact .pure ()

theorem keepsWithin_setData (id name : String) (value : Value) :
    Edit.Keeps (RefersWithin origin) (setData id name value) :=
  keepsWithin_change fun graph _ _ refers =>
    refers.of_sameShape (graph.sameShape_changeData id _)

theorem keepsWithin_setValue (id name : String) (value : Value) :
    Edit.Keeps (RefersWithin origin) (setValue id name value) := by
  unfold setValue
  refine Edit.Keeps.bind (fun _ within => within) fun graph => ?_
  cases graph.node? id with
  | none => exact .pure ()
  | some node =>
    refine (keepsWithin_setData id name value).bind fun _ => ?_
    refine (Edit.Keeps.convert _).bind fun output => ?_
    cases output with
    | none => exact .pure ()
    | some output => exact keepsWithin_setData id "v" output

theorem keepsWithin_ungroup (id : String) : Edit.Keeps (RefersWithin origin) (ungroup id) := by
  intro workspace within
  refine ends_ungroup (fun _ _ _ reference id refers => ?_) fun _ => within
  exact within reference id refers.of_filterNodes

section

variable (covered : ∀ id ∈ before.graph.ids, before.ids.Covers id)

include covered

theorem covers_node {id : String} (listed : id ∈ before.graph.nodes.map Node.id) :
    before.ids.Covers id := by
  obtain ⟨node, member, rfl⟩ := List.mem_map.1 listed
  exact covered _ (Graph.mem_ids_iff.2 (.inl ⟨node, member, List.mem_cons_self⟩))

theorem bringsCovered_connect (source target : String) :
    before.BringsCovered (Edit.stateAfter (connect source target) before) := by
  have same : ∀ ids, before.BringsCovered ⟨before.graph, ids⟩ := fun _ _ _ refers => .inl refers
  have ends : Edit.Ends (connect source target) (fun _ => before.BringsCovered)
      before.BringsCovered before := by
    refine ends_connect (fun _ => same _) (fun accepted _ reference id refers => ?_)
      fun _ => same _
    refine refers.of_insertEdge.imp_right fun touches => ?_
    have present := Graph.mem_of_accepted accepted rfl rfl touches
    exact (covers_node covered present).advance (Nat.le_succ _)
  exact ends.whenOver

theorem bringsCovered_groupNodes (keys : List NodeKey) (label : String) :
    before.BringsCovered (Edit.stateAfter (groupNodes keys label) before) := by
  have same : ∀ ids, before.BringsCovered ⟨before.graph, ids⟩ := fun _ _ _ refers => .inl refers
  have ends : Edit.Ends (groupNodes keys label) (fun _ => before.BringsCovered)
      before.BringsCovered before := by
    refine ends_groupNodes (fun _ _ => same _) (fun _ => same _)
      (fun first rest named _ reference id refers => ?_) fun _ => same _
    refine refers.of_insertFirst.imp_right fun listed => ?_
    have inGroup : id ∈ (first :: rest).map Node.id := listed
    obtain ⟨node, member, rfl⟩ := List.mem_map.1 inGroup
    have present : node.id ∈ before.graph.nodes.map Node.id :=
      List.mem_map_of_mem (Graph.mem_of_groupable named member).1
    exact (covers_node covered present).advance (Nat.le_succ _)
  exact ends.whenOver

/-- The graph of a preset is sound, and the counter has passed its nodes. -/
theorem bringsCovered_openPreset (id : String) :
    before.BringsCovered (Edit.stateAfter (openPreset id) before) := by
  have past : before.Past [] := ⟨List.Pairwise.nil, by simp, covered⟩
  obtain ⟨_, _, issued⟩ := IssuesNew.openPreset id before [] past
  have passed := (issued.mono (fun _ _ both => both.1) fun _ failed => failed).whenOver.present
  have built : Edit.Ends (openPreset id)
      (fun _ after => ∃ made last, after.graph.Sound made last)
      (fun after => after.graph = before.graph) before := by
    unfold openPreset
    cases found : Preset.find? id with
    | none => rfl
    | some preset =>
      have empty : (⟨.empty, before.ids⟩ : Workspace).Sound [] 0 :=
        ⟨Nat.zero_le _, [], by simp, .empty_of_made (by simp) List.nodup_nil (by simp)⟩
      have keeps := closed_keepsSound.build (List.mem_of_find?_eq_some found) _ empty
      rw [ends_replacing]
      refine keeps.mono ?_ fun _ _ => rfl
      rintro _ after ⟨_, made, _, sound⟩
      exact ⟨made, _, sound⟩
  intro reference other refers
  unfold Edit.Ends at built
  unfold Edit.stateAfter at refers passed ⊢
  cases outcome : openPreset id before with
  | ok _ after =>
    rw [outcome] at built refers passed
    obtain ⟨made, last, sound⟩ := built
    exact .inr (covers_node passed (sound.refers refers))
  | error _ after =>
    rw [outcome] at built refers
    exact .inl (built ▸ refers)

/-- What an editor's action brings into a graph refers to ids that the counter has passed. -/
theorem bringsCovered_editor {created : List Node} (made : ∀ node ∈ created, node.Made)
    (action : EditorAction) :
    before.BringsCovered (Edit.stateAfter (action.edit created) before) := by
  have within : before.RefersWithin before.graph := fun _ _ refers => refers
  cases action with
  | create kind x y =>
    rw [EditorAction.edit, Edit.stateAfter_discard]
    exact ((keepsWithin_naming _).stateAfter within).bringsCovered
  | createShape kind x y =>
    rw [EditorAction.edit, Edit.stateAfter_discard]
    exact ((keepsWithin_naming _).stateAfter within).bringsCovered
  | add turn x y data =>
    rw [EditorAction.edit]
    cases found : created[turn]? with
    | none => exact within.bringsCovered
    | some node =>
      have plain : Node.isGroup { node with x, y, data } = false :=
        (made node (List.mem_of_getElem? found)).plain
      exact ((keepsWithin_addNode plain).stateAfter within).bringsCovered
  | connect source target =>
    rw [EditorAction.edit, Edit.stateAfter_discard]
    exact bringsCovered_connect covered source target
  | disconnect edge =>
    exact RefersWithin.bringsCovered fun _ _ refers =>
      refers.of_withEdges List.filter_sublist.subset
  | removeNode id => exact RefersWithin.bringsCovered fun _ _ refers => refers.of_removeNodes
  | removeNodes ids => exact RefersWithin.bringsCovered fun _ _ refers => refers.of_removeNodes
  | clear =>
    refine RefersWithin.bringsCovered fun _ _ refers => refers.before ?_ ?_
    · exact List.nil_subset _
    · exact fun _ member => absurd member List.not_mem_nil
  | moveNode id x y => exact ((keepsWithin_moveNode id x y).stateAfter within).bringsCovered
  | setValue id name value =>
    exact ((keepsWithin_setValue id name value).stateAfter within).bringsCovered
  | writeData id write =>
    exact RefersWithin.bringsCovered fun _ _ refers =>
      refers.of_sameShape (before.graph.sameShape_changeData id write)
  | groupNodes keys label =>
    rw [EditorAction.edit, Edit.stateAfter_discard]
    exact bringsCovered_groupNodes covered keys label
  | ungroup id =>
    rw [EditorAction.edit, Edit.stateAfter_discard]
    exact ((keepsWithin_ungroup id).stateAfter within).bringsCovered
  | openPreset id => exact bringsCovered_openPreset covered id
  | run registry maxSteps =>
    exact RefersWithin.bringsCovered fun _ _ refers =>
      refers.of_sameShape (Graph.sameShape_afterRun registry maxSteps before.graph)

end

/-! ## Making nodes -/

/-- The graph gains the node under an id that the counter had not passed. -/
structure Makes (before : Workspace) (node : Node) (later : Workspace) : Prop where
  ahead : ¬ before.ids.Covers node.id
  gains : before.graph.Gains node.id later.graph

theorem ends_addNode_gains (node : Node) :
    Edit.Ends (addNode node) (fun _ later => before.graph.Gains node.id later.graph)
      (fun _ => True) before :=
  ends_addNode (fun _ _ _ _ => ⟨⟨node.claimPorts, rfl, .inl rfl⟩, rfl⟩) fun _ _ _ => trivial

theorem ends_addCreated {operation : Edit IdSource Node} (creates : IdSource.Creates operation) :
    Edit.Ends (do
        let node ← naming operation
        addNode node
        return node) before.Makes (fun _ => True) before := by
  rw [Edit.ends_bind, ends_naming]
  refine (creates before.ids).mono (fun node ids new => ?_) fun _ _ => trivial
  rw [Edit.ends_bind]
  exact (ends_addNode_gains node).mono (fun _ _ gains => ⟨new.not_covers, gains⟩) fun _ _ => trivial

theorem ends_newNode (node : Node) :
    Edit.Ends (newNode none node) before.Makes (fun _ => True) before := by
  unfold newNode
  rw [Edit.ends_bind, ends_naming]
  refine IdSource.ends_fresh (fun _ => ?_) fun _ => trivial
  rw [Edit.ends_bind]
  refine (ends_addNode_gains _).mono (fun _ _ gains => ⟨?_, gains⟩) fun _ _ => trivial
  exact IdSource.not_covers_next before.ids "node"

theorem makes_of_some {edit : Edit Workspace Node}
    (ends : Edit.Ends edit before.Makes (fun _ => True) before) {node : Node} {later : Workspace}
    (made : (do return some (← edit)) before = .ok (some node) later) :
    before.Makes node later := by
  have wrapped : Edit.Ends (do return some (← edit))
      (fun made later => ∀ node, made = some node → before.Makes node later) (fun _ => True)
      before := by
    rw [Edit.ends_bind]
    refine ends.mono (fun result after makes node same => ?_) fun _ _ => trivial
    cases same
    exact makes
  exact wrapped.of_ok made node rfl

/-- Whatever makes a node makes it under a new id and changes nothing else. -/
theorem makes_of_made (covered : ∀ id ∈ before.graph.ids, before.ids.Covers id)
    {maker : NodeMaker} {node : Node} {later : Workspace}
    (made : maker.edit before = .ok (some node) later) : before.Makes node later := by
  cases maker with
  | create kind x y => exact makes_of_some (ends_addCreated (Node.creates_create kind x y)) made
  | createShape kind x y =>
    exact makes_of_some (ends_addCreated (Node.creates_createShape kind x y)) made
  | new node => exact makes_of_some (ends_newNode node) made
  | group keys label =>
    obtain ⟨generated, graph⟩ := groupNodes_eq_some made
    have ahead := (IdSource.covers_of_fresh generated).2.1
    have absent : node.id ∉ before.graph.nodes.map Node.id :=
      fun listed => ahead (covers_node covered listed)
    have nodes := Graph.nodes_insertFirst absent
    rw [← graph] at nodes
    have edges : later.graph.edges = before.graph.edges := by
      rw [graph]
      rfl
    exact ⟨ahead, ⟨node, rfl, .inr nodes⟩, edges⟩

end Workspace

/-! ## Sessions -/

namespace Session

/-- An unchecked action brought the reference in, and the counter was not past the id when the
action was over. -/
structure Anticipates (ids : IdSource) (earlier : List ClientAction) (action : ClientAction)
    (reference : Reference) (id : String) : Prop where
  unchecked : action.isUnchecked = true
  absent : ¬ (reached ids earlier).workspace.graph.Refers reference id
  present : (reached ids (earlier ++ [action])).workspace.graph.Refers reference id
  ahead : ¬ (reached ids (earlier ++ [action])).workspace.ids.Covers id

/-- At some time in the session the reference was brought in before the id was. -/
def Anticipated (ids : IdSource) (actions : List ClientAction) (reference : Reference)
    (id : String) : Prop :=
  ∃ earlier action, earlier ++ [action] <+: actions ∧ Anticipates ids earlier action reference id

theorem Anticipated.later {ids : IdSource} {actions : List ClientAction} {reference : Reference}
    {id : String} (anticipated : Anticipated ids actions reference id) (action : ClientAction) :
    Anticipated ids (actions ++ [action]) reference id := by
  obtain ⟨earlier, first, before, anticipates⟩ := anticipated
  exact ⟨earlier, first, before.trans (List.prefix_append _ _), anticipates⟩

/-- Only created nodes are held back to be added. -/
theorem made_act {session : Session} (made : ∀ node ∈ session.created, node.Made)
    (action : ClientAction) : ∀ node ∈ (session.act action).created, node.Made := by
  have each : session.Each (fun _ => True) fun _ => True :=
    ⟨made, fun _ _ => trivial, fun _ _ => trivial⟩
  cases action with
  | editor action =>
    rw [act_editor]
    cases action with
    | create kind x y => exact (each.create (Node.creates_create kind x y)).made
    | createShape kind x y => exact (each.create (Node.creates_createShape kind x y)).made
    | add turn x y data => exact (session.created_add turn x y data).symm ▸ made
    | _ => exact made
  | _ => exact made

theorem made_reached (ids : IdSource) (actions : List ClientAction) :
    ∀ node ∈ (reached ids actions).created, node.Made := by
  induction actions using List.reverseRecOn with
  | nil => exact fun _ member => absurd member List.not_mem_nil
  | append_singleton actions action ih =>
    rw [reached_append]
    exact made_act ih action

/-- One action: what a graph refers to was referred to before, or is an id that the counter has
passed, unless the reference is anticipated. -/
theorem refers_act {ids : IdSource} {actions : List ClientAction} {action : ClientAction}
    {reference : Reference} {id : String}
    (refers : (reached ids (actions ++ [action])).workspace.graph.Refers reference id) :
    (reached ids actions).workspace.graph.Refers reference id ∨
      (reached ids (actions ++ [action])).workspace.ids.Covers id ∨
        Anticipates ids actions action reference id := by
  by_cases present : (reached ids actions).workspace.graph.Refers reference id
  · exact .inl present
  by_cases covered : (reached ids (actions ++ [action])).workspace.ids.Covers id
  · exact .inr (.inl covered)
  cases unchecked : action.isUnchecked with
  | true => exact .inr (.inr ⟨unchecked, present, refers, covered⟩)
  | false =>
    have passed := @covers_earlier ids actions actions (List.prefix_refl actions)
    have brings : (reached ids actions).workspace.BringsCovered
        (reached ids (actions ++ [action])).workspace := by
      rw [reached_append]
      cases action with
      | editor action =>
        exact Workspace.bringsCovered_editor passed (made_reached ids actions) action
      | issue label =>
        show Workspace.BringsCovered _ (Edit.stateAfter (discard _) _)
        rw [Edit.stateAfter_discard]
        exact ((Workspace.keepsWithin_naming _).stateAfter fun _ _ refers => refers).bringsCovered
      | _ => cases unchecked
    exact (brings reference id refers).imp_right .inl

/-- The whole session: every reference names an id that the counter has passed or is anticipated. -/
theorem covers_or_anticipated {ids : IdSource} {actions : List ClientAction}
    {reference : Reference} {id : String}
    (refers : (reached ids actions).workspace.graph.Refers reference id) :
    (reached ids actions).workspace.ids.Covers id ∨ Anticipated ids actions reference id := by
  induction actions using List.reverseRecOn with
  | nil =>
    cases reference <;>
      simp [Graph.Refers, reached, start, Graph.empty, Graph.groups] at refers
  | append_singleton actions action ih =>
    rcases refers_act refers with before | covered | anticipates
    · refine (ih before).imp (fun covered => ?_) fun anticipated => anticipated.later action
      exact covered.advance (forward_act ids actions action)
    · exact .inl covered
    · exact .inr ⟨actions, action, List.prefix_refl _, anticipates⟩

/-- A node that is made under a generated id changes no edge and no other node, and is referred to
at once only where an unchecked action brought in its id before it was generated. To remove it takes
away these references and nothing else; without them everything is as it was before. -/
theorem refers_to_made_node {ids : IdSource} {actions : List ClientAction} {maker : NodeMaker}
    {node : Node} {later : Workspace}
    (made : maker.edit (reached ids actions).workspace = .ok (some node) later) :
    (reached ids actions).workspace.graph.Gains node.id later.graph ∧
    (∀ reference, (reached ids actions).workspace.graph.Refers reference node.id →
      Anticipated ids actions reference node.id) ∧
    later.graph.removeNodes [node.id] =
      (reached ids actions).workspace.graph.removeNodes [node.id] ∧
    ((∀ reference, ¬ (reached ids actions).workspace.graph.Refers reference node.id) →
      later.graph.removeNodes [node.id] = (reached ids actions).workspace.graph) := by
  have passed := @covers_earlier ids actions actions (List.prefix_refl actions)
  obtain ⟨ahead, gains⟩ := Workspace.makes_of_made passed made
  refine ⟨gains, fun reference refers => ?_, gains.removeNodes, fun unreferred => ?_⟩
  · exact (covers_or_anticipated refers).resolve_left ahead
  · have absent : node.id ∉ (reached ids actions).workspace.graph.nodes.map Node.id :=
      fun listed => ahead (Workspace.covers_node passed listed)
    rw [gains.removeNodes, Graph.removeNodes_of_not_refers absent unreferred]

/-- An edge between two nodes that are not there. It takes the first identifier and begins at the
second one. -/
def danglingEdge : List ClientAction :=
  [.newEdge none (.ref "node_2:execOut") (.ref "node_9:execIn") true]

/-- The start node that is created next is the source of the edge. -/
private theorem ends_make_danglingEdge :
    Edit.Ends (NodeMaker.create "start" (.int 0) (.int 0)).edit
      (fun made _ => ∃ node ∈ made,
        ∃ edge ∈ (reached ⟨0⟩ danglingEdge).workspace.graph.edges, edge.touches node.id = true)
      (fun _ => False) (reached ⟨0⟩ danglingEdge).workspace := by
  decide +kernel

private theorem makes_source_of_danglingEdge : ∃ node later edge,
    (NodeMaker.create "start" (.int 0) (.int 0)).edit (reached ⟨0⟩ danglingEdge).workspace =
      .ok (some node) later ∧
    (reached ⟨0⟩ danglingEdge).workspace.graph.Refers (.edge edge) node.id := by
  obtain ⟨made, later, outcome, node, rfl, edge, member, touches⟩ :=
    ends_make_danglingEdge.of_passes not_false
  exact ⟨node, later, edge, outcome, member, touches⟩

/-- The edge anticipates the node, which takes it along when it is removed. -/
theorem danglingEdge_anticipates : ∃ node later edge,
    (NodeMaker.create "start" (.int 0) (.int 0)).edit (reached ⟨0⟩ danglingEdge).workspace =
      .ok (some node) later ∧
    Anticipated ⟨0⟩ danglingEdge (.edge edge) node.id ∧
    later.graph.removeNodes [node.id] =
      (reached ⟨0⟩ danglingEdge).workspace.graph.removeNodes [node.id] := by
  obtain ⟨node, later, edge, made, refers⟩ := makes_source_of_danglingEdge
  obtain ⟨_, anticipated, removed, _⟩ := refers_to_made_node made
  exact ⟨node, later, edge, made, anticipated (.edge edge) refers, removed⟩

/-- So a node that was just created can have an edge, and what was there before it is not all there
after it. -/
theorem danglingEdge_lost : ∃ node later edge,
    (NodeMaker.create "start" (.int 0) (.int 0)).edit (reached ⟨0⟩ danglingEdge).workspace =
      .ok (some node) later ∧
    edge ∈ (reached ⟨0⟩ danglingEdge).workspace.graph.edges ∧ edge.touches node.id = true ∧
    edge ∉ (later.graph.removeNodes [node.id]).edges := by
  obtain ⟨node, later, edge, made, member, touches⟩ := makes_source_of_danglingEdge
  refine ⟨node, later, edge, made, member, touches, fun stays => ?_⟩
  have untouched := (List.mem_filter.1 stays).2
  simp [touches] at untouched

end Session

end NodeFlow
