import NodeFlow.Proofs.Run.Projection
import NodeFlow.Proofs.Run.Repetition
import NodeFlow.Proofs.Session.Typing

/-!
# Groups and places mean nothing to a run

Groups have no ports and no exec edge leads to them, and evaluators do not ask where a node is
drawn. A graph without groups and places therefore shows all that a run sees of the graph, and to
move, group and ungroup nodes does not change what it shows. Main statement: however the nodes of
an edited graph are moved, grouped and ungrouped, its run takes the same course and leaves the same
data in all nodes that are no groups.
-/

namespace NodeFlow

/-! ## Groups have a kind of their own -/

/-- If the node is a group it is of the kind of groups. -/
def Node.WellKinded (node : Node) : Prop :=
  node.isGroup = true → node.kind = "group"

theorem lasting_wellKinded : Lasting Node.WellKinded fun _ => True where
  made _ made isGroup := by
    rw [made.plain] at isGroup
    cases isGroup
  grouped _ _ _ _ _ _ := rfl
  placed _ _ _ wellKinded := wellKinded
  pruned node gone wellKinded := by
    unfold Node.prune
    split <;> exact wellKinded
  joined _ _ _ _ _ := trivial

theorem closed_keepsWellKinded :
    Preset.Closed fun edit => Edit.Keeps (Workspace.Each Node.WellKinded fun _ => True) edit where
  pure := .pure
  bind := .bind
  createNode kind x y := Workspace.keepsEach_createNode lasting_wellKinded kind (.int x) (.int y)
  setValue _ _ _ _ each := Workspace.ends_setValue each fun node member _ =>
    ⟨each.nodes node member, fun _ _ => each.nodes node member⟩
  connect := Workspace.keepsEach_connect lasting_wellKinded
  groupNodes := Workspace.keepsEach_groupNodes lasting_wellKinded

namespace Session

/-- Data do not matter to the kinds, so every action respects them. -/
theorem wellKinded_after (ids : IdSource) (actions : List EditorAction) :
    (after ids actions).Each Node.WellKinded fun _ => True := by
  refine each_after_of_respects lasting_wellKinded ids fun session each action _ => ?_
  cases action with
  | add turn x y data =>
    intro node found isGroup
    rw [show node.isGroup = false from (each.made node (List.mem_of_getElem? found)).plain]
      at isGroup
    cases isGroup
  | setValue id name value =>
    exact fun node member _ =>
      ⟨each.graph.nodes node member, fun _ _ => each.graph.nodes node member⟩
  | writeData id write => exact fun node member _ => each.graph.nodes node member
  | openPreset id => exact fun preset listed => closed_keepsWellKinded.build listed
  | run registry maxSteps => exact fun graph ofGraph node member _ _ _ => ofGraph.nodes node member
  | _ => trivial

end Session

/-! ## Graphs without groups and places -/

/-- The node moved to the origin. -/
def Node.unplaced (node : Node) : Node :=
  { node with x := Node.coordinate 0, y := Node.coordinate 0 }

theorem Node.id_unplaced (node : Node) : node.unplaced.id = node.id := rfl

/-- Evaluations do not depend on where the node is drawn. -/
def Registry.Placeless (registry : Registry) : Prop :=
  ∀ (node : Node) x y inputs,
    registry.evaluate { node with x, y } inputs = registry.evaluate node inputs

theorem Registry.placeless_builtin : builtin.Placeless :=
  fun node _ _ => shallow_builtin _ node rfl rfl rfl

theorem Registry.Placeless.confuses {registry : Registry} (placeless : registry.Placeless)
    (node : Node) : registry.Confuses node node.unplaced :=
  ⟨rfl, rfl, rfl, rfl, placeless node _ _⟩

namespace Graph

/-- The graph without its groups and without the places of its nodes. -/
def undrawn (graph : Graph) : Graph :=
  (graph.filterNodes fun node => !node.isGroup).mapNodes Node.unplaced Node.id_unplaced

/-- The data of all nodes that are no groups, by id. -/
def plainData (graph : Graph) : List (String × Fields) :=
  (graph.nodes.filter fun node => !node.isGroup).map fun node => (node.id, node.data)

variable {graph other : Graph} {made : List Node} {last : Nat}

theorem nodes_undrawn (graph : Graph) : graph.undrawn.nodes =
    (graph.nodes.filter fun node => !node.isGroup).map Node.unplaced := rfl

theorem plainData_eq (graph : Graph) :
    graph.plainData = graph.undrawn.nodes.map fun node => (node.id, node.data) := by
  rw [nodes_undrawn, List.map_map]
  rfl

theorem undrawn_eq_of_nodes (edges : other.edges = graph.edges)
    (nodes : (other.nodes.filter fun node => !node.isGroup).map Node.unplaced =
      (graph.nodes.filter fun node => !node.isGroup).map Node.unplaced) :
    other.undrawn = graph.undrawn :=
  eq_of_parts nodes edges

/-- What is changed in the nodes shows as a change of the nodes that show. -/
theorem nodes_undrawn_mapNodes (graph : Graph) {change shown : Node → Node}
    (keeps : ∀ node, (change node).id = node.id)
    (groups : ∀ node, (change node).isGroup = node.isGroup)
    (shows : ∀ node, (change node).unplaced = shown node.unplaced) :
    (graph.mapNodes change keeps).undrawn.nodes = graph.undrawn.nodes.map shown := by
  have sameGroups : (fun node : Node => !node.isGroup) ∘ change = fun node => !node.isGroup :=
    funext fun node => congrArg _ (groups node)
  rw [nodes_undrawn, nodes_undrawn, mapNodes, List.filter_map, sameGroups, List.map_map,
    List.map_map]
  exact List.map_congr_left fun node _ => shows node

theorem undrawn_changeData (graph : Graph) (id : String) (change : Fields → Fields) :
    (graph.changeData id change).undrawn = graph.undrawn.changeData id change := by
  refine eq_of_parts (graph.nodes_undrawn_mapNodes _ (fun node => ?_) fun node => ?_) rfl
  · split <;> rfl
  · rw [Node.id_unplaced]
    split <;> rfl

/-- Places do not show. -/
theorem undrawn_place (graph : Graph) (id : String) (x y : Binary64) :
    (graph.place id x y).undrawn = graph.undrawn := by
  have nodes : (graph.place id x y).undrawn.nodes = graph.undrawn.nodes.map fun node => node := by
    refine graph.nodes_undrawn_mapNodes _ (fun node => ?_) fun node => ?_ <;>
    · split <;> rfl
  exact eq_of_parts (nodes.trans (List.map_id' _)) rfl

/-- A new group does not show. -/
theorem undrawn_insertFirst {group : Node} (absent : group.id ∉ graph.nodes.map Node.id)
    (isGroup : group.isGroup = true) : (graph.insertFirst group).undrawn = graph.undrawn := by
  refine undrawn_eq_of_nodes rfl ?_
  rw [nodes_insertFirst absent, List.filter_cons_of_neg (by simp [isGroup])]

/-- That a group is gone does not show. -/
theorem undrawn_dissolve {group : Node} (member : group ∈ graph.nodes)
    (isGroup : group.isGroup = true) :
    (graph.filterNodes fun other => other.id != group.id).undrawn = graph.undrawn := by
  refine undrawn_eq_of_nodes rfl ?_
  show (List.filter _ (graph.nodes.filter _)).map _ = _
  rw [List.filter_filter]
  congr 1
  refine List.filter_congr fun node inGraph => ?_
  by_cases same : node.id = group.id
  · rw [eq_of_id member inGraph same, isGroup]
    rfl
  · simp [same]

theorem node?_undrawn (graph : Graph) (id : String) : graph.undrawn.node? id =
    ((graph.node? id).filter fun node => !node.isGroup).map Node.unplaced := by
  rw [undrawn, node?_mapNodes, node?_filterNodes]

theorem node?_undrawn_of_absent {id : String} (absent : graph.node? id = none) :
    graph.undrawn.node? id = none := by
  rw [node?_undrawn, absent]
  rfl

theorem node?_undrawn_of_plain {id : String} {node : Node} (found : graph.node? id = some node)
    (plain : node.isGroup = false) : graph.undrawn.node? id = some node.unplaced := by
  rw [node?_undrawn, found, Option.filter_some_pos (by simp [plain]), Option.map_some]

theorem roots_undrawn (wellKinded : ∀ node ∈ graph.nodes, node.WellKinded) :
    graph.undrawn.roots = graph.roots := by
  rw [roots, roots, nodes_undrawn, List.filter_map, List.map_map, List.filter_filter]
  refine congrArg (List.map Node.id) (List.filter_congr fun node member => ?_)
  cases isGroup : node.isGroup with
  | false => simp [Node.unplaced]
  | true => simp [Node.unplaced, wellKinded node member isGroup]

/-! ## What a run sees of a sound graph -/

/-- Groups have no ports. -/
theorem Sound.plain_of_port (sound : graph.Sound made last) {node : Node}
    (member : node ∈ graph.nodes) {port : Port} (hasPort : port ∈ node.ports) :
    node.isGroup = false := by
  obtain ⟨origin, inMade, redraws⟩ := sound.drawn node member
  cases isGroup : node.isGroup with
  | false => rfl
  | true =>
    have none := (redraws.genuine (sound.genuine origin inMade)).group isGroup
    rw [none] at hasPort
    cases hasPort

/-- No edge touches a group. -/
theorem Sound.plain_of_touches (sound : graph.Sound made last) {edge : Edge}
    (member : edge ∈ graph.edges) {node : Node} (inGraph : node ∈ graph.nodes)
    (touches : edge.touches node.id = true) : node.isGroup = false := by
  have named : ∀ {side endpoint port}, Endpoint.NamesPort graph.nodes side endpoint port →
      endpoint.node? = some node.id → node.isGroup = false := by
    intro side endpoint port names lies
    obtain ⟨owner, ofGraph, hasPort, rfl⟩ := names.owner
    rw [Endpoint.node?, Ref.node_make _ (sound.colon_not_mem ofGraph)] at lies
    exact eq_of_id inGraph ofGraph (Option.some.inj lies) ▸ sound.plain_of_port ofGraph hasPort
  obtain ⟨source, target, joins⟩ := sound.edges edge member
  simp only [Edge.touches, Bool.or_eq_true, beq_iff_eq] at touches
  exact touches.elim (named joins.begins) (named joins.ends)

/-- What feeds an input is the output of a node that is no group, if the node is there. -/
theorem Sound.plain_of_feed (sound : graph.Sound made last) {input ref : String} {source : Node}
    (feed : graph.feed? input = some ref) (found : graph.node? (Ref.node ref) = some source) :
    source.isGroup = false := by
  obtain ⟨edge, member, feeds⟩ := List.mem_filterMap.1 (List.mem_of_getLast? feed)
  rw [Edge.feeds?] at feeds
  split at feeds
  · refine sound.plain_of_touches member (mem_of_node? found) ?_
    simp [Edge.touches, Endpoint.eq_of_ref? feeds, Endpoint.node?, id_of_node? found]
  · cases feeds

/-- A start node is no group. -/
theorem plain_of_root (wellKinded : ∀ node ∈ graph.nodes, node.WellKinded) {id : String}
    (listed : id ∈ graph.roots) {node : Node} (member : node ∈ graph.nodes) (same : node.id = id) :
    node.isGroup = false := by
  obtain ⟨root, isRoot, rfl⟩ := List.mem_map.1 listed
  obtain ⟨inGraph, kind⟩ := List.mem_filter.1 isRoot
  obtain rfl := eq_of_id inGraph member same
  cases isGroup : node.isGroup with
  | false => rfl
  | true =>
    rw [wellKinded node member isGroup] at kind
    exact absurd kind (by decide)

/-- No exec edge leads to a group. -/
theorem Sound.plain_of_successor (sound : graph.Sound made last) {id next : String}
    (listed : next ∈ graph.successors id) {node : Node} (member : node ∈ graph.nodes)
    (same : node.id = next) : node.isGroup = false := by
  obtain ⟨edge, inGraph, follows⟩ := List.mem_filterMap.1 listed
  obtain ⟨_, _, _, ends⟩ := Edge.follows?_eq_some_iff.1 follows
  exact sound.plain_of_touches inGraph member (by simp [Edge.touches, ends, same])

/-- Every node that is no group receives the same inputs in the graph without groups and places. -/
theorem Sound.inputs_undrawn (sound : graph.Sound made last) (node : Node) :
    graph.undrawn.inputs node.unplaced = graph.inputs node := by
  refine inputs_congr rfl fun name _ => ?_
  show ((graph.feed? _).map graph.undrawn.outputValue).getD _ = _
  rw [inputValue]
  cases feed : graph.feed? (Ref.make node.id name) with
  | none => exact congrArg (Option.getD · _) (congrArg (Option.map _) feed)
  | some ref =>
    show ((graph.feed? (Ref.make node.id name)).map _).getD _ = graph.outputValue ref
    rw [feed, Option.map_some, Option.getD_some, outputValue, outputValue]
    cases found : graph.node? (Ref.node ref) with
    | none => rw [node?_undrawn_of_absent found]
    | some source =>
      rw [node?_undrawn_of_plain found (sound.plain_of_feed feed found)]
      rfl

/-- Without groups and places the graph shows all that runs see of it. -/
theorem Sound.seenBy_undrawn (sound : graph.Sound made last)
    (wellKinded : ∀ node ∈ graph.nodes, node.WellKinded) {registry : Registry}
    (placeless : registry.Placeless) :
    graph.SeenBy registry (fun id => ∀ node ∈ graph.nodes, node.id = id → node.isGroup = false)
      undrawn where
  changeData := undrawn_changeData
  roots := roots_undrawn wellKinded
  start _ listed _ member same := plain_of_root wellKinded listed member same
  follow _ _ _ listed _ member same := sound.plain_of_successor listed member same
  successors _ _ := rfl
  missing := node?_undrawn_of_absent
  node := by
    intro now id node shape inReach found
    obtain ⟨origin, inGraph, alike⟩ := shape.exists_node? found
    have plain : node.isGroup = false := by
      rw [← Node.view_eq alike Node.isGroup fun _ => rfl]
      exact inReach origin (mem_of_node? inGraph) (id_of_node? inGraph)
    exact ⟨node.unplaced, node?_undrawn_of_plain found plain, placeless.confuses node,
      (sound.sameShape shape).inputs_undrawn node⟩

end Graph

/-! ## Drawing -/

/-- Whether the action only moves, groups or ungroups nodes. -/
def EditorAction.isDrawing : EditorAction → Bool
  | .moveNode .. | .groupNodes .. | .ungroup _ => true
  | _ => false

namespace Workspace

variable {workspace : Workspace} {origin : Graph}

/-- Without groups and places the graph is the given one. -/
def Shows (origin : Graph) (workspace : Workspace) : Prop :=
  workspace.graph.undrawn = origin

theorem ends_moveNode_shows (shows : workspace.Shows origin) (id : String) (x y : Value) :
    Edit.Ends (moveNode id x y) (fun _ => Shows origin) (Shows origin) workspace := by
  unfold moveNode
  rw [Edit.ends_bind, ends_graphNow]
  split
  · have moves : Edit.Keeps (Shows origin) (do
        let x ← Edit.convert x.toFloat
        let y ← Edit.convert y.toFloat
        change (·.place id x y)) :=
      (Edit.Keeps.convert _).bind fun x => (Edit.Keeps.convert _).bind fun y =>
        fun during holds => (during.graph.undrawn_place id x y).trans holds
    exact moves workspace shows
  · exact shows

/-- The id of the new group is fresh, so it takes the place of no node. -/
theorem ends_groupNodes_shows {created : List Node} {least : Nat}
    (sound : workspace.Sound created least) (shows : workspace.Shows origin) (keys : List NodeKey)
    (label : String) :
    Edit.Ends (groupNodes keys label) (fun _ => Shows origin) (Shows origin) workspace := by
  obtain ⟨_, made, _, graphSound⟩ := sound
  refine ends_groupNodes (fun _ _ => shows) (fun _ => shows) (fun first rest _ _ => ?_)
    fun _ => shows
  have issued := IdSource.Issued.single "node" workspace.ids.last
  have absent := graphSound.absent_of_issued issued List.mem_cons_self
  exact (Graph.undrawn_insertFirst absent rfl).trans shows

theorem ends_ungroup_shows (shows : workspace.Shows origin) (id : String) :
    Edit.Ends (ungroup id) (fun _ => Shows origin) (Shows origin) workspace := by
  refine ends_ungroup (fun node found isGroup => ?_) fun _ => shows
  obtain rfl := Graph.id_of_node? found
  exact (Graph.undrawn_dissolve (Graph.mem_of_node? found) isGroup).trans shows

end Workspace

namespace Session

theorem undrawn_step {session : Session} (sound : session.Sound) {action : EditorAction}
    (drawing : action.isDrawing = true) :
    (session.step action).workspace.graph.undrawn = session.workspace.graph.undrawn := by
  have shows : session.workspace.Shows session.workspace.graph.undrawn := rfl
  cases action with
  | moveNode id x y => exact (Workspace.ends_moveNode_shows shows id x y).whenOver
  | groupNodes keys label => exact (Workspace.ends_groupNodes_shows sound shows keys label).whenOver
  | ungroup id => exact (Workspace.ends_ungroup_shows shows id).whenOver
  | _ => cases drawing

theorem undrawn_after (ids : IdSource) (actions : List EditorAction)
    {drawings : List EditorAction} (drawing : ∀ action ∈ drawings, action.isDrawing = true) :
    (after ids (actions ++ drawings)).workspace.graph.undrawn =
      (after ids actions).workspace.graph.undrawn := by
  induction drawings using List.reverseRecOn with
  | nil => rw [List.append_nil]
  | append_singleton drawings action ih =>
    have earlier := ih fun other member => drawing other (List.mem_append_left _ member)
    have now := undrawn_step (sound_after ids (actions ++ drawings))
      (drawing action (List.mem_append_right _ List.mem_cons_self))
    have last : after ids (actions ++ (drawings ++ [action])) =
        (after ids (actions ++ drawings)).step action := by
      simp [after]
    rw [last, now, earlier]

/-- To run the graph of a session is to run it without groups and places. -/
theorem run_undrawn (ids : IdSource) (actions : List EditorAction) {registry : Registry}
    (placeless : registry.Placeless) (maxSteps : Int) :
    Run.SameCourse ((after ids actions).workspace.graph.run registry maxSteps)
        ((after ids actions).workspace.graph.undrawn.run registry maxSteps) ∧
      (Run.progressOf ((after ids actions).workspace.graph.undrawn.run registry maxSteps)).graph =
        (Run.progressOf
          ((after ids actions).workspace.graph.run registry maxSteps)).graph.undrawn := by
  obtain ⟨_, _, _, sound⟩ := sound_after ids actions
  have wellKinded := (wellKinded_after ids actions).graph.nodes
  exact (sound.seenBy_undrawn wellKinded placeless).run maxSteps

/-- Whatever was done in a session, if then nodes are only moved, grouped and ungrouped, in any
order and any number of times, a run of the graph logs, visits and counts the same and ends in the
same way as before, and leaves the same data in all nodes that are no groups, provided that no
evaluator depends on where a node is drawn. -/
theorem run_after_drawing (ids : IdSource) (actions : List EditorAction)
    {drawings : List EditorAction} (drawing : ∀ action ∈ drawings, action.isDrawing = true)
    {registry : Registry} (placeless : registry.Placeless) (maxSteps : Int) :
    Run.SameCourse ((after ids actions).workspace.graph.run registry maxSteps)
        ((after ids (actions ++ drawings)).workspace.graph.run registry maxSteps) ∧
      (Run.progressOf
          ((after ids actions).workspace.graph.run registry maxSteps)).graph.plainData =
        (Run.progressOf
          ((after ids (actions ++ drawings)).workspace.graph.run registry maxSteps)).graph.plainData
        := by
  obtain ⟨course, left⟩ := run_undrawn ids actions placeless maxSteps
  obtain ⟨course', left'⟩ := run_undrawn ids (actions ++ drawings) placeless maxSteps
  rw [undrawn_after ids actions drawing] at course' left'
  refine ⟨course.trans course'.symm, ?_⟩
  rw [Graph.plainData_eq, Graph.plainData_eq, ← left, ← left']

/-- A node is moved, both nodes are grouped, the group is dissolved, and one of them is grouped
again. -/
def regrouping : List EditorAction :=
  [.moveNode "node_1" (.int 40) (.int 2),
   .groupNodes [.text "node_1", .text "node_3"] "both", .ungroup "node_11",
   .groupNodes [.text "node_3"] "sum"]

/-- The start node still leads to the node that adds its own sum. -/
theorem selfAdding_regrouped :
    (∀ action ∈ regrouping, action.isDrawing = true) ∧ Registry.builtin.Placeless ∧
    Run.SameCourse ((after ⟨0⟩ selfAdding).workspace.graph.run Registry.builtin 1)
      ((after ⟨0⟩ (selfAdding ++ regrouping)).workspace.graph.run Registry.builtin 1) := by
  have drawing : ∀ action ∈ regrouping, action.isDrawing = true := by
    simp [regrouping, EditorAction.isDrawing]
  exact ⟨drawing, Registry.placeless_builtin,
    (run_after_drawing ⟨0⟩ selfAdding drawing Registry.placeless_builtin 1).1⟩

end Session

end NodeFlow
