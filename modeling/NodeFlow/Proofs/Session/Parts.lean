import NodeFlow.Proofs.Preset
import NodeFlow.Proofs.Run.Moments
import NodeFlow.Proofs.Session.Invariant

/-!
# What holds of every node and every edge

A property of single nodes and a property of single edges hold throughout a session if they hold of
what is created and last when nodes are moved and pruned; what writes data has to respect the
property of nodes. Main statement: actions that respect the properties keep them, runs included.
-/

namespace NodeFlow

/-- The properties hold of all nodes and of all edges. -/
structure Graph.Each (ofNode : Node → Prop) (ofEdge : Edge → Prop) (graph : Graph) : Prop where
  nodes : ∀ node ∈ graph.nodes, ofNode node
  edges : ∀ edge ∈ graph.edges, ofEdge edge

/-- The properties hold of what is created, and moving and pruning nodes keeps them. -/
structure Lasting (ofNode : Node → Prop) (ofEdge : Edge → Prop) : Prop where
  made : ∀ node : Node, node.Made → ofNode node
  grouped : ∀ id, IdSource.Generates "node" id → ∀ label first rest,
    ofNode (Graph.groupAround id label first rest)
  placed : ∀ (node : Node) x y, ofNode node → ofNode { node with x, y }
  pruned : ∀ (node : Node) gone, ofNode node → ofNode (node.prune gone)
  joined : ∀ id, IdSource.Generates "edge" id → ∀ source target isExec,
    ofEdge ⟨id, .ref source, .ref target, isExec⟩

/-- To write a field of a node, and then the output that follows it, keeps the property. -/
structure Node.Accepts (ofNode : Node → Prop) (name : String) (value : Value) (node : Node) :
    Prop where
  written : ofNode (node.withData (node.data.set name value))
  derived : ∀ output, node.derivedOutput name (node.data.set name value) = .ok (some output) →
    ofNode (node.withData ((node.data.set name value).set "v" output))

/-- To store what the evaluation of a node of any graph gives keeps the property. -/
def Registry.Respects (ofNode : Node → Prop) (ofEdge : Edge → Prop) (registry : Registry) : Prop :=
  ∀ graph : Graph, graph.Each ofNode ofEdge → ∀ node ∈ graph.nodes, ∀ lines outputs,
    registry.evaluate node (graph.inputs node) = ⟨lines, .ok outputs⟩ →
      ofNode (node.withData (node.store outputs node.data))

variable {ofNode : Node → Prop} {ofEdge : Edge → Prop}

namespace Graph.Each

variable {graph : Graph}

theorem empty : Graph.empty.Each ofNode ofEdge :=
  ⟨by simp [Graph.empty], by simp [Graph.empty]⟩

theorem withEdges (each : graph.Each ofNode ofEdge) {edges : List Edge}
    (fewer : edges ⊆ graph.edges) : (graph.withEdges edges).Each ofNode ofEdge :=
  ⟨each.nodes, fun edge member => each.edges edge (fewer member)⟩

theorem filterNodes (each : graph.Each ofNode ofEdge) (keep : Node → Bool) :
    (graph.filterNodes keep).Each ofNode ofEdge :=
  ⟨fun node member => each.nodes node (List.mem_filter.1 member).1, each.edges⟩

theorem mapNodes (each : graph.Each ofNode ofEdge) {change : Node → Node}
    (keepsId : ∀ node, (change node).id = node.id)
    (keeps : ∀ node ∈ graph.nodes, ofNode node → ofNode (change node)) :
    (graph.mapNodes change keepsId).Each ofNode ofEdge where
  nodes := by
    intro node member
    obtain ⟨origin, inGraph, rfl⟩ := List.mem_map.1 member
    exact keeps origin inGraph (each.nodes origin inGraph)
  edges := each.edges

theorem removeNodes (each : graph.Each ofNode ofEdge) (lasting : Lasting ofNode ofEdge)
    (gone : List String) : (graph.removeNodes gone).Each ofNode ofEdge := by
  refine Each.withEdges ?_ List.filter_sublist.subset
  exact (each.filterNodes _).mapNodes _ fun node _ holds => lasting.pruned node gone holds

theorem place (each : graph.Each ofNode ofEdge) (lasting : Lasting ofNode ofEdge) (id : String)
    (x y : Binary64) : (graph.place id x y).Each ofNode ofEdge := by
  refine each.mapNodes _ fun node _ holds => ?_
  split
  · exact lasting.placed node x y holds
  · exact holds

theorem changeData (each : graph.Each ofNode ofEdge) {id : String} {change : Fields → Fields}
    (written : ∀ node ∈ graph.nodes, node.id = id → ofNode (node.withData (change node.data))) :
    (graph.changeData id change).Each ofNode ofEdge := by
  refine each.mapNodes _ fun node inGraph holds => ?_
  split
  · rename_i same
    exact written node inGraph same
  · exact holds

theorem insertLast (each : graph.Each ofNode ofEdge) {node : Node} (holds : ofNode node)
    (absent : node.id ∉ graph.nodes.map Node.id) :
    (graph.insertLast node absent).Each ofNode ofEdge where
  nodes := by
    intro other member
    rcases mem_insertLast.1 member with old | rfl
    · exact each.nodes other old
    · exact holds
  edges := each.edges

theorem insertFirst (each : graph.Each ofNode ofEdge) {node : Node} (holds : ofNode node) :
    (graph.insertFirst node).Each ofNode ofEdge where
  nodes := by
    intro other member
    rcases mem_of_insertFirst member with rfl | old
    · exact holds
    · exact each.nodes other old
  edges := each.edges

theorem insertEdge (each : graph.Each ofNode ofEdge) {edge : Edge} (holds : ofEdge edge) :
    (graph.insertEdge edge).Each ofNode ofEdge where
  nodes := each.nodes
  edges := by
    intro other member
    rcases mem_insertEdge.1 member with old | rfl
    · exact each.edges other old
    · exact holds

end Graph.Each

/-! ## Runs -/

namespace Graph

variable {registry : Registry} {maxSteps : Int} {graph : Graph}

theorem Reaches.each {visits : List Visit} {moment : Moment}
    (reaches : graph.Reaches registry maxSteps visits moment)
    (respects : registry.Respects ofNode ofEdge) (each : graph.Each ofNode ofEdge) :
    moment.progress.graph.Each ofNode ofEdge := by
  induction reaches with
  | begin => exact each
  | pass _ turn _ ih =>
    rw [(Moment.frame_of_turn_enter turn).1]
    exact ih
  | @visit _ _ _ progress _ _ node _ _ _ turn found evaluated ih =>
    have now : progress.graph.Each ofNode ofEdge := by
      rw [(Moment.frame_of_turn_enter turn).1]
      exact ih
    have member := mem_of_node? found
    refine now.changeData fun other inGraph same => ?_
    rw [eq_of_id member inGraph same]
    exact respects _ now node member _ _ evaluated

/-- A run leaves behind the graph of the moment where it ends. -/
theorem exists_moment_afterRun (registry : Registry) (maxSteps : Int) (graph : Graph) :
    ∃ visits moment, graph.Reaches registry maxSteps visits moment ∧
      graph.afterRun registry maxSteps = moment.progress.graph := by
  obtain ⟨visits, moment, reaches, ends⟩ :=
    (@run_eq_iff_ends registry maxSteps graph _).1 rfl
  refine ⟨visits, moment, reaches, ?_⟩
  unfold afterRun
  generalize graph.run registry maxSteps = result at ends
  cases ends with
  | finish => rfl
  | exceed => rfl
  | fail turn => exact (Moment.frame_of_turn_enter turn).1

theorem Each.afterRun (each : graph.Each ofNode ofEdge)
    (respects : registry.Respects ofNode ofEdge) (maxSteps : Int) :
    (graph.afterRun registry maxSteps).Each ofNode ofEdge := by
  obtain ⟨visits, moment, reaches, same⟩ := exists_moment_afterRun registry maxSteps graph
  rw [same]
  exact reaches.each respects each

end Graph

/-! ## Edits -/

namespace Workspace

/-- The properties hold of all nodes and of all edges. -/
def Each (ofNode : Node → Prop) (ofEdge : Edge → Prop) (workspace : Workspace) : Prop :=
  workspace.graph.Each ofNode ofEdge

theorem keepsEach_change {edit : Graph → Graph}
    (keeps : ∀ graph : Graph, graph.Each ofNode ofEdge → (edit graph).Each ofNode ofEdge) :
    Edit.Keeps (Each ofNode ofEdge) (change edit) :=
  fun workspace each => keeps workspace.graph each

theorem keepsEach_addNode {node : Node} (holds : ofNode node.claimPorts) :
    Edit.Keeps (Each ofNode ofEdge) (addNode node) := by
  intro workspace each
  apply ends_addNode
  · intro absent _ ids _
    exact Graph.Each.insertLast each holds absent
  · intro _ ids _
    exact each

/-- The counter does not matter, and what is created is made. -/
theorem ends_made {operation : Edit IdSource Node} (creates : IdSource.Creates operation)
    {workspace : Workspace} (each : workspace.Each ofNode ofEdge) :
    Edit.Ends (naming operation) (fun node after => node.Made ∧ after.Each ofNode ofEdge)
      (Each ofNode ofEdge) workspace := by
  rw [ends_naming]
  refine (creates workspace.ids).mono ?_ fun ids _ => each
  intro node ids new
  exact ⟨new.made, each⟩

section

variable (lasting : Lasting ofNode ofEdge)

include lasting

theorem keepsEach_createNode (kind : String) (x y : Value) :
    Edit.Keeps (Each ofNode ofEdge) (createNode kind x y) := by
  intro workspace each
  unfold createNode
  rw [Edit.ends_bind]
  refine (ends_made (Node.creates_create kind x y) each).mono ?_ fun _ failed => failed
  rintro node during ⟨made, later⟩
  have holds : ofNode node.claimPorts := made.genuine.claimPorts_eq.symm ▸ lasting.made node made
  exact (keepsEach_addNode holds).bind (fun _ => .pure node) during later

theorem keepsEach_connect (source target : String) :
    Edit.Keeps (Each ofNode ofEdge) (connect source target) := by
  intro workspace each
  refine ends_connect (fun _ => each) (fun _ short => ?_) fun _ => each
  exact Graph.Each.insertEdge each (lasting.joined _ ⟨_, short, rfl⟩ _ _ _)

theorem keepsEach_groupNodes (keys : List NodeKey) (label : String) :
    Edit.Keeps (Each ofNode ofEdge) (groupNodes keys label) := by
  intro workspace each
  refine ends_groupNodes (fun _ _ => each) (fun _ => each) (fun first rest _ short => ?_)
    fun _ => each
  exact Graph.Each.insertFirst each (lasting.grouped _ ⟨_, short, rfl⟩ label first rest)

theorem keepsEach_moveNode (id : String) (x y : Value) :
    Edit.Keeps (Each ofNode ofEdge) (moveNode id x y) := by
  intro workspace each
  unfold moveNode
  rw [Edit.ends_bind, ends_graphNow]
  split
  · have moves : Edit.Keeps (Each ofNode ofEdge) (do
        let x ← Edit.convert x.toFloat
        let y ← Edit.convert y.toFloat
        change (·.place id x y)) :=
      (Edit.Keeps.convert _).bind fun x => (Edit.Keeps.convert _).bind fun y =>
        keepsEach_change fun graph holds => holds.place lasting id x y
    exact moves workspace each
  · exact each

end

theorem keepsEach_ungroup (id : String) : Edit.Keeps (Each ofNode ofEdge) (ungroup id) := by
  intro workspace each
  exact ends_ungroup (fun _ _ _ => Graph.Each.filterNodes each _) fun _ => each

/-- A value may be written to a node that accepts it. -/
theorem ends_setValue {workspace : Workspace} {id name : String} {value : Value}
    (each : workspace.Each ofNode ofEdge)
    (accepts : ∀ node ∈ workspace.graph.nodes, node.id = id → node.Accepts ofNode name value) :
    Edit.Ends (setValue id name value) (fun _ => Each ofNode ofEdge) (Each ofNode ofEdge)
      workspace := by
  unfold setValue
  rw [Edit.ends_bind, ends_graphNow]
  cases found : workspace.graph.node? id with
  | none => exact each
  | some node =>
    have member := Graph.mem_of_node? found
    have sameId := Graph.id_of_node? found
    have ofFound : ∀ other ∈ workspace.graph.nodes, other.id = id → other = node :=
      fun other inGraph same => Graph.eq_of_id member inGraph (same.trans sameId.symm)
    have written := Graph.Each.changeData each fun other inGraph same =>
      (accepts other inGraph same).written
    dsimp only
    rw [Edit.ends_bind]
    refine (ends_change _).2 ?_
    rw [Edit.ends_bind, Edit.ends_convert]
    cases derived : node.derivedOutput name (Keyed.set name value node.data) with
    | error cause => exact written
    | ok output =>
      cases output with
      | none => exact written
      | some output =>
        refine (ends_change _).2 (Graph.Each.changeData written fun other inChanged same => ?_)
        obtain ⟨origin, inGraph, rfl⟩ := List.mem_map.1 inChanged
        by_cases atId : origin.id = id
        · rw [if_pos atId]
          obtain rfl := ofFound origin inGraph atId
          exact (accepts origin inGraph atId).derived output derived
        · rw [if_neg atId] at same
          exact absurd same atId

theorem keepsEach_replacing {build : Edit Workspace Unit}
    (keeps : Edit.Keeps (Each ofNode ofEdge) build) :
    Edit.Keeps (Each ofNode ofEdge) (replacing build) := by
  intro workspace each
  rw [ends_replacing]
  exact (keeps ⟨.empty, workspace.ids⟩ Graph.Each.empty).mono (fun _ _ built => built)
    fun _ _ => each

theorem keepsEach_openPreset (id : String)
    (keeps : ∀ preset ∈ Preset.all, Edit.Keeps (Each ofNode ofEdge) preset.build) :
    Edit.Keeps (Each ofNode ofEdge) (openPreset id) := by
  unfold openPreset
  cases found : Preset.find? id with
  | none => exact .throw (Error.unknownPreset id)
  | some preset => exact keepsEach_replacing (keeps preset (List.mem_of_find?_eq_some found))

end Workspace

/-! ## Sessions -/

/-- What an action writes respects the properties. -/
def EditorAction.Respects (ofNode : Node → Prop) (ofEdge : Edge → Prop) (session : Session) :
    EditorAction → Prop
  | .add turn x y data => ∀ node, session.created[turn]? = some node →
      ofNode { node with x, y, data }
  | .setValue id name value => ∀ node ∈ session.workspace.graph.nodes, node.id = id →
      node.Accepts ofNode name value
  | .writeData id write => ∀ node ∈ session.workspace.graph.nodes, node.id = id →
      ofNode (node.withData (write node.data))
  | .openPreset _ => ∀ preset ∈ Preset.all,
      Edit.Keeps (Workspace.Each ofNode ofEdge) preset.build
  | .run registry _ => registry.Respects ofNode ofEdge
  | _ => True

/-- The nodes that were created are made, and the properties hold of the graph. -/
structure Session.Each (ofNode : Node → Prop) (ofEdge : Edge → Prop) (session : Session) :
    Prop where
  made : ∀ node ∈ session.created, node.Made
  graph : session.workspace.Each ofNode ofEdge

namespace Session

variable {session : Session}

theorem each_start (ids : IdSource) : (start ids).Each ofNode ofEdge :=
  ⟨by simp [start], Graph.Each.empty⟩

namespace Each

theorem perform {α : Type} (each : session.Each ofNode ofEdge) {edit : Edit Workspace α}
    (ends : Edit.Ends edit (fun _ => Workspace.Each ofNode ofEdge) (Workspace.Each ofNode ofEdge)
      session.workspace) : (session.perform edit).Each ofNode ofEdge :=
  ⟨each.made, ends.whenOver⟩

theorem create (each : session.Each ofNode ofEdge) {operation : Edit IdSource Node}
    (creates : IdSource.Creates operation) : (session.create operation).Each ofNode ofEdge := by
  have made := Workspace.ends_made creates each.graph
  unfold Edit.Ends at made
  unfold Session.create
  cases outcome : Workspace.naming operation session.workspace with
  | ok node after =>
    rw [outcome] at made
    refine ⟨fun other member => ?_, made.2⟩
    rcases List.mem_append.1 member with old | new
    · exact each.made other old
    · exact List.mem_singleton.1 new ▸ made.1
  | error error after =>
    rw [outcome] at made
    exact ⟨each.made, made⟩

theorem add (each : session.Each ofNode ofEdge) {turn : Nat} {x y : Binary64} {data : Fields}
    (holds : ∀ node, session.created[turn]? = some node → ofNode { node with x, y, data }) :
    (session.add turn x y data).Each ofNode ofEdge := by
  unfold Session.add
  cases found : session.created[turn]? with
  | none => exact each
  | some node =>
    have genuine := (each.made node (List.mem_of_getElem? found)).genuine
    have drawn : Node.Genuine { node with x, y, data } :=
      ⟨genuine.generated, genuine.ports, genuine.group⟩
    have claimed := drawn.claimPorts_eq.symm ▸ holds node found
    exact each.perform (Workspace.keepsEach_addNode claimed _ each.graph)

/-- Actions that respect the properties keep them. -/
theorem step (each : session.Each ofNode ofEdge) (lasting : Lasting ofNode ofEdge)
    {action : EditorAction} (respects : action.Respects ofNode ofEdge session) :
    (session.step action).Each ofNode ofEdge := by
  have graph := each.graph
  cases action with
  | create kind x y => exact each.create (Node.creates_create kind x y)
  | createShape kind x y => exact each.create (Node.creates_createShape kind x y)
  | add turn x y data => exact each.add respects
  | connect source target =>
    exact each.perform (Workspace.keepsEach_connect lasting source target _ graph)
  | disconnect edge =>
    exact each.perform (Graph.Each.withEdges graph List.filter_sublist.subset)
  | removeNode id => exact each.perform (Graph.Each.removeNodes graph lasting [id])
  | removeNodes ids => exact each.perform (Graph.Each.removeNodes graph lasting ids)
  | clear => exact ⟨each.made, Graph.Each.empty⟩
  | moveNode id x y => exact each.perform (Workspace.keepsEach_moveNode lasting id x y _ graph)
  | setValue id name value => exact each.perform (Workspace.ends_setValue graph respects)
  | writeData id write => exact each.perform (Graph.Each.changeData graph respects)
  | groupNodes keys label =>
    exact each.perform (Workspace.keepsEach_groupNodes lasting keys label _ graph)
  | ungroup id => exact each.perform (Workspace.keepsEach_ungroup id _ graph)
  | openPreset id => exact each.perform (Workspace.keepsEach_openPreset id respects _ graph)
  | run registry maxSteps => exact each.perform (Graph.Each.afterRun graph respects maxSteps)

end Each

/-- If all actions of a session respect the properties, these hold at its end. -/
theorem each_after_of_respects (lasting : Lasting ofNode ofEdge) (ids : IdSource)
    {actions : List EditorAction} (respects : ∀ session : Session, session.Each ofNode ofEdge →
      ∀ action ∈ actions, action.Respects ofNode ofEdge session) :
    (after ids actions).Each ofNode ofEdge := by
  have onward : ∀ session : Session, session.Each ofNode ofEdge →
      (actions.foldl step session).Each ofNode ofEdge := by
    induction actions with
    | nil => exact fun _ each => each
    | cons action rest ih =>
      intro session each
      have first := respects session each action List.mem_cons_self
      exact ih (fun later ofLater other member =>
        respects later ofLater other (List.mem_cons_of_mem _ member)) _ (each.step lasting first)
  exact onward (start ids) (each_start ids)

end Session

end NodeFlow
