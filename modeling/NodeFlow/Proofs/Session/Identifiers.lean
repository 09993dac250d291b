import NodeFlow.Proofs.Preset
import NodeFlow.Proofs.Session.Client
import NodeFlow.Proofs.Session.Trace

/-!
# Generated identifiers are new

Whatever client code does with a workspace, in any order and whether it fails or not, no identifier
is generated that was generated before or was the id of a node, a port or an edge at any time. Main
statement: this holds along the whole history of a session, so that joining ports and grouping nodes
only ever add to a graph.
-/

namespace NodeFlow

open IdSource (fresh reserve)

/-! ## The ids of a changed graph -/

namespace Graph

theorem mem_ids_iff {graph : Graph} {id : String} :
    id ∈ graph.ids ↔
      (∃ node ∈ graph.nodes, id ∈ node.marks) ∨ ∃ edge ∈ graph.edges, edge.id = id := by
  simp only [ids, List.mem_append, List.mem_flatMap, List.mem_map]

/-- Taking parts away and redrawing nodes bring no ids. -/
theorem ids_subset {graph after : Graph}
    (nodes : ∀ node ∈ after.nodes, ∃ origin ∈ graph.nodes, node.marks = origin.marks)
    (edges : after.edges ⊆ graph.edges) : after.ids ⊆ graph.ids := by
  intro id listed
  rw [mem_ids_iff] at listed ⊢
  rcases listed with ⟨node, member, mark⟩ | ⟨edge, member, same⟩
  · obtain ⟨origin, inGraph, marks⟩ := nodes node member
    exact .inl ⟨origin, inGraph, marks ▸ mark⟩
  · exact .inr ⟨edge, edges member, same⟩

theorem ids_mapNodes {graph : Graph} {change : Node → Node}
    (keepsId : ∀ node, (change node).id = node.id)
    (marks : ∀ node, (change node).marks = node.marks) :
    (graph.mapNodes change keepsId).ids ⊆ graph.ids := by
  refine ids_subset ?_ (List.Subset.refl _)
  intro node member
  obtain ⟨origin, inGraph, rfl⟩ := List.mem_map.1 member
  exact ⟨origin, inGraph, marks origin⟩

theorem ids_filterNodes (graph : Graph) (keep : Node → Bool) :
    (graph.filterNodes keep).ids ⊆ graph.ids := by
  refine ids_subset ?_ (List.Subset.refl _)
  intro node member
  exact ⟨node, (List.mem_filter.1 member).1, rfl⟩

theorem ids_withEdges {graph : Graph} {edges : List Edge} (fewer : edges ⊆ graph.edges) :
    (graph.withEdges edges).ids ⊆ graph.ids :=
  ids_subset (fun node member => ⟨node, member, rfl⟩) fewer

theorem ids_removeNodes (graph : Graph) (gone : List String) :
    (graph.removeNodes gone).ids ⊆ graph.ids := by
  refine List.Subset.trans (ids_withEdges List.filter_sublist.subset) ?_
  refine List.Subset.trans ?_ (ids_filterNodes graph (Node.survives gone))
  exact ids_mapNodes _ fun node => (node.redraws_prune gone).marks

theorem ids_disconnect (graph : Graph) (id : String) : (graph.disconnect id).ids ⊆ graph.ids :=
  ids_withEdges List.filter_sublist.subset

theorem ids_sameShape {graph other : Graph} (same : graph.SameShape other) :
    graph.ids = other.ids := by
  rw [ids, ids, List.flatMap_def, List.flatMap_def, same.edges,
    same.map_nodes Node.marks fun _ => rfl]

theorem mem_ids_insertEdge {graph : Graph} {edge : Edge} {id : String}
    (listed : id ∈ (graph.insertEdge edge).ids) : id = edge.id ∨ id ∈ graph.ids := by
  rcases mem_ids_iff.1 listed with inNodes | ⟨other, member, rfl⟩
  · exact .inr (mem_ids_iff.2 (.inl inNodes))
  · rcases mem_insertEdge.1 member with old | rfl
    · exact .inr (mem_ids_iff.2 (.inr ⟨other, old, rfl⟩))
    · exact .inl rfl

theorem mem_ids_insertLast {graph : Graph} {node : Node}
    (absent : node.id ∉ graph.nodes.map Node.id) {id : String}
    (listed : id ∈ (graph.insertLast node absent).ids) : id ∈ node.marks ∨ id ∈ graph.ids := by
  rcases mem_ids_iff.1 listed with ⟨other, member, mark⟩ | inEdges
  · rcases mem_insertLast.1 member with old | rfl
    · exact .inr (mem_ids_iff.2 (.inl ⟨other, old, mark⟩))
    · exact .inl mark
  · exact .inr (mem_ids_iff.2 (.inr inEdges))

theorem mem_ids_insertFirst {graph : Graph} {node : Node} {id : String}
    (listed : id ∈ (graph.insertFirst node).ids) : id ∈ node.marks ∨ id ∈ graph.ids := by
  rcases mem_ids_iff.1 listed with ⟨other, member, mark⟩ | inEdges
  · rcases mem_of_insertFirst member with rfl | old
    · exact .inl mark
    · exact .inr (mem_ids_iff.2 (.inl ⟨other, old, mark⟩))
  · exact .inr (mem_ids_iff.2 (.inr inEdges))

end Graph

theorem Node.marks_claimPorts (node : Node) : node.claimPorts.marks = node.marks := by
  have ids : (node.ports.map fun port =>
      if port.owner.isNull then { port with owner := .text node.id } else port).map Port.id =
        node.ports.map Port.id := by
    rw [List.map_map]
    refine List.map_congr_left fun port _ => ?_
    simp only [Function.comp_apply]
    split <;> rfl
  simp only [Node.marks, Node.claimPorts, ids]

/-! ## Operations -/

namespace Workspace

variable {before : Workspace}

/-- An operation of the counter may be split into its steps. -/
theorem naming_bind {α β : Type} (first : Edit IdSource β) (next : β → Edit IdSource α) :
    naming (first >>= next) = naming first >>= fun result => naming (next result) := by
  funext workspace
  simp only [naming, bind, EStateM.bind]
  cases first workspace.ids <;> rfl

theorem naming_convert {α : Type} (outcome : Except ConversionError α) :
    naming (Edit.convert outcome) = Edit.convert outcome := by
  cases outcome <;> rfl

/-- An edge that joins ports is added under the identifier that comes next. -/
theorem connect_eq_some {source target : String} {edge : Edge} {later : Workspace}
    (joined : connect source target before = .ok (some edge) later) :
    fresh "edge" before.ids = .ok edge.id later.ids ∧
      later.graph = before.graph.insertEdge edge := by
  have ends : Edit.Ends (connect source target) (fun result later => ∀ edge, result = some edge →
      fresh "edge" before.ids = .ok edge.id later.ids ∧
        later.graph = before.graph.insertEdge edge) (fun _ => True) before := by
    refine ends_connect (fun _ _ none => nomatch none) (fun _ short edge same => ?_)
      fun _ => trivial
    cases same
    exact ⟨IdSource.fresh_of_short "edge" short, rfl⟩
  exact ends.of_ok joined edge rfl

/-- A group is added under the identifier that comes next. -/
theorem groupNodes_eq_some {keys : List NodeKey} {label : String} {group : Node}
    {later : Workspace} (grouped : groupNodes keys label before = .ok (some group) later) :
    fresh "node" before.ids = .ok group.id later.ids ∧
      later.graph = before.graph.insertFirst group := by
  have ends : Edit.Ends (groupNodes keys label) (fun result later => ∀ group, result = some group →
      fresh "node" before.ids = .ok group.id later.ids ∧
        later.graph = before.graph.insertFirst group) (fun _ => True) before := by
    refine ends_groupNodes (fun _ _ => trivial) (fun _ _ none => nomatch none)
      (fun first rest _ short group same => ?_) fun _ => trivial
    cases same
    exact ⟨IdSource.fresh_of_short "node" short, rfl⟩
  exact ends.of_ok grouped group rfl

/-- The edit issues only new identifiers. -/
def IssuesNew {α : Type} (edit : Edit Workspace α) : Prop :=
  ∀ before, Issues edit (fun _ _ => True) before

namespace IssuesNew

variable {α β : Type}

theorem pure (result : α) : IssuesNew (Pure.pure result) :=
  fun _ => .pure trivial

theorem throw (error : Error) : IssuesNew (MonadExcept.throw error : Edit Workspace α) :=
  fun _ => .throw error

theorem convert (outcome : Except ConversionError α) : IssuesNew (Edit.convert outcome) :=
  fun _ => .convert fun _ _ => trivial

theorem look : IssuesNew graphNow :=
  fun _ => .look trivial

theorem issue (label : String) : IssuesNew (naming (fresh label)) :=
  fun _ => .issue fun _ _ _ => trivial

theorem bind {first : Edit Workspace β} {next : β → Edit Workspace α} (begins : IssuesNew first)
    (ends : ∀ result, IssuesNew (next result)) : IssuesNew (first >>= next) :=
  fun before => .bind ((begins before).mono fun result during _ => ends result during)

theorem discarded {edit : Edit Workspace α} (issues : IssuesNew edit) :
    IssuesNew (discard edit) := by
  have split : (discard edit : Edit Workspace Unit) = edit >>= fun _ => Pure.pure () :=
    map_eq_pure_bind (fun _ => ()) edit
  rw [split]
  exact issues.bind fun _ => .pure ()

theorem forM {items : List β} {edit : β → Edit Workspace Unit}
    (issues : ∀ item, IssuesNew (edit item)) : IssuesNew (items.forM edit) := by
  induction items with
  | nil => exact .pure ()
  | cons item rest ih => exact (issues item).bind fun _ => ih

/-- A change that brings no ids. -/
theorem change {edit : Graph → Graph} (fewer : ∀ graph : Graph, (edit graph).ids ⊆ graph.ids) :
    IssuesNew (change edit) :=
  fun before => .change (fun covered id listed => covered id (fewer before.graph listed)) trivial

/-- A change of nothing but data. -/
theorem rewrite {edit : Graph → Graph} (same : ∀ graph : Graph, (edit graph).SameShape graph) :
    IssuesNew (Workspace.change edit) :=
  .change fun graph _ listed => Graph.ids_sameShape (same graph) ▸ listed

/-! ### Creating -/

theorem createPorts (owner : String) (plans : List PortPlan) :
    IssuesNew (naming (plans.mapM (PortPlan.create owner))) := by
  induction plans with
  | nil =>
    rw [List.mapM_nil]
    exact .pure []
  | cons plan rest ih =>
    rw [List.mapM_cons, naming_bind]
    refine bind ?_ fun port => ?_
    · rw [PortPlan.create, naming_bind]
      exact bind (.issue "p") fun id => .pure _
    · rw [naming_bind]
      exact ih.bind fun ports => .pure _

theorem instantiate (template : Template) (x y : Value) :
    IssuesNew (naming (template.instantiate x y)) := by
  simp only [Template.instantiate, naming_bind, naming_convert]
  exact bind (.convert _) fun x => bind (.convert _) fun y => bind (.issue "node") fun id =>
    bind (.createPorts id _) fun ports => .pure _

theorem create (kind : String) (x y : Value) : IssuesNew (naming (Node.create kind x y)) := by
  unfold Node.create
  cases Template.find? kind with
  | none => exact .throw _
  | some template => exact .instantiate template x y

theorem createShape (kind : String) (x y : Value) :
    IssuesNew (naming (Node.createShape kind x y)) := by
  unfold Node.createShape
  by_cases known : shapeKinds.contains kind = true
  · rw [if_pos known]
    simp only [naming_bind, naming_convert]
    exact bind (.convert _) fun x => bind (.convert _) fun y => bind (.issue "node") fun id =>
      bind (.createPorts id _) fun ports => .pure _
  · rw [if_neg known]
    exact .throw _

/-! ### Adding -/

private theorem reservePorts {ports : List Port} {before : Workspace}
    {post : Unit → Workspace → Prop}
    (holds : ∀ ids : IdSource, (∀ id ∈ ports.map Port.id, ids.Covers id) →
      before.ids.last ≤ ids.last → post () { before with ids }) :
    Issues (ports.forM fun port => naming (reserve port.id)) post before := by
  induction ports generalizing before with
  | nil => exact .pure (holds before.ids (by simp) (Nat.le_refl _))
  | cons port rest ih =>
    refine .bind (.reserve fun ids covers forward => ?_)
    refine ih fun later others onward => ?_
    refine holds later ?_ (Nat.le_trans forward onward)
    rw [List.map_cons, List.forall_mem_cons]
    exact ⟨covers.advance onward, others⟩

/-- The ids of a node and of its ports are reserved before the node is added. -/
theorem addNode (node : Node) : IssuesNew (addNode node) := by
  intro before
  unfold Workspace.addNode
  refine .bind (.look ?_)
  by_cases taken : node.id ∈ before.graph.nodes.map Node.id
  · rw [dif_pos taken]
    exact .throw _
  · rw [dif_neg taken]
    refine .bind (.reserve fun ids own forward => ?_)
    refine .bind (reservePorts fun later ports onward => ?_)
    refine .change (fun covered id listed => ?_) trivial
    rcases Graph.mem_ids_insertLast _ listed with mark | old
    · rw [Node.marks_claimPorts, Node.marks] at mark
      rcases List.mem_cons.1 mark with rfl | inPorts
      · exact own.advance onward
      · exact ports id inPorts
    · exact covered id old

theorem newNode (id : Option String) (node : Node) : IssuesNew (newNode id node) := by
  unfold Workspace.newNode
  cases id with
  | some id => exact bind (.pure id) fun id => bind (.addNode _) fun _ => .pure _
  | none => exact bind (.issue "node") fun id => bind (.addNode _) fun _ => .pure _

theorem createNode (kind : String) (x y : Value) : IssuesNew (createNode kind x y) :=
  bind (.create kind x y) fun node => bind (.addNode node) fun _ => .pure node

theorem addEdge (edge : Edge) : IssuesNew (addEdge edge) := by
  intro before
  unfold Workspace.addEdge
  refine .bind (.reserve fun ids own forward => ?_)
  refine .change (fun covered id listed => ?_) trivial
  rcases Graph.mem_ids_insertEdge listed with rfl | old
  · exact own
  · exact covered id old

theorem newEdge (id : Option String) (source target : Endpoint) (isExec : Bool) :
    IssuesNew (newEdge id source target isExec) := by
  unfold Workspace.newEdge
  cases id with
  | some id => exact bind (.pure id) fun id => bind (.addEdge _) fun _ => .pure _
  | none => exact bind (.issue "edge") fun id => bind (.addEdge _) fun _ => .pure _

theorem connect (source target : String) : IssuesNew (connect source target) := by
  unfold Workspace.connect
  refine bind .look fun graph => ?_
  cases graph.connectionError? source target with
  | some reason => exact .pure none
  | none =>
    intro before
    refine .bind (.issue fun id ids covers => ?_)
    refine .bind (.change (fun covered other listed => ?_) (.pure trivial))
    rcases Graph.mem_ids_insertEdge listed with rfl | old
    · exact covers
    · exact covered other old

theorem groupNodes (keys : List NodeKey) (label : String) : IssuesNew (groupNodes keys label) := by
  unfold Workspace.groupNodes
  refine bind .look fun graph => bind (.convert _) fun nodes => ?_
  cases nodes with
  | nil => exact .pure none
  | cons first rest =>
    intro before
    refine .bind (.issue fun id ids covers => ?_)
    refine .bind (.change (fun covered other listed => ?_) (.pure trivial))
    rcases Graph.mem_ids_insertFirst listed with mark | old
    · rw [show (Graph.groupAround id label first rest).marks = [id] from rfl,
        List.mem_singleton] at mark
      exact mark ▸ covers
    · exact covered other old

/-! ### Everything else -/

theorem clear : IssuesNew clear :=
  .change fun graph id listed => by simp [Graph.ids, Graph.empty] at listed

theorem setData (id name : String) (value : Value) : IssuesNew (setData id name value) :=
  .rewrite fun graph => graph.sameShape_changeData id _

theorem setValue (id name : String) (value : Value) : IssuesNew (setValue id name value) := by
  unfold Workspace.setValue
  refine bind .look fun graph => ?_
  cases graph.node? id with
  | none => exact .pure ()
  | some node =>
    refine bind (.setData id name value) fun _ => bind (.convert _) fun output => ?_
    cases output with
    | none => exact .pure ()
    | some output => exact .setData id "v" output

theorem moveNode (id : String) (x y : Value) : IssuesNew (moveNode id x y) := by
  unfold Workspace.moveNode
  refine bind .look fun graph => ?_
  split
  · refine bind (.convert _) fun x => bind (.convert _) fun y => .change fun graph => ?_
    refine Graph.ids_mapNodes _ fun node => ?_
    split <;> rfl
  · exact .pure ()

theorem ungroup (id : String) : IssuesNew (ungroup id) := by
  unfold Workspace.ungroup
  refine bind .look fun graph => ?_
  cases graph.node? id with
  | none => exact .pure false
  | some node =>
    simp only
    split
    · exact bind (.change fun graph => graph.ids_filterNodes _) fun _ => .pure true
    · exact .pure false

theorem replacing {build : Edit Workspace Unit} (issues : IssuesNew build) :
    IssuesNew (replacing build) :=
  fun _ => .replacing (issues _)

theorem closed : Preset.Closed fun edit => IssuesNew edit where
  pure := .pure
  bind := .bind
  createNode kind x y := .createNode kind (.int x) (.int y)
  setValue id name n := .setValue id name (.int n)
  connect := .connect
  groupNodes := .groupNodes

theorem openPreset (id : String) : IssuesNew (openPreset id) := by
  unfold Workspace.openPreset
  cases found : Preset.find? id with
  | none => exact .throw _
  | some preset => exact .replacing (closed.build (List.mem_of_find?_eq_some found))

/-! ### Restoring -/

theorem reading {kind : RecordKind} {record : Value} {read : Edit Workspace α}
    (issues : IssuesNew read) : IssuesNew (reading kind record read) :=
  fun before => (issues before).reading

theorem restoreNodeRecord (record : Value) : IssuesNew (restoreNodeRecord record) := by
  unfold Workspace.restoreNodeRecord
  refine bind (.reading (.convert _)) fun node? => ?_
  cases node? with
  | none => exact .pure ()
  | some node => exact fun before => (addNode node before).restoreNode

theorem readEdge? (record : Value) : IssuesNew (readEdge? record) := by
  unfold Workspace.readEdge?
  cases record with
  | dict fields =>
    simp only
    unfold readEdgeFields?
    refine bind (.convert _) fun source => bind (.convert _) fun target => ?_
    rcases source with _ | source <;> rcases target with _ | target
    · exact .pure none
    · exact .pure none
    · exact .pure none
    · refine bind (.issue "edge") fun generated => ?_
      dsimp only
      split
      · exact bind (.convert _) fun id => .pure _
      · exact bind (.pure generated) fun id => .pure _
  | _ => exact .pure none

theorem restoreEdgeRecord (record : Value) : IssuesNew (restoreEdgeRecord record) := by
  unfold Workspace.restoreEdgeRecord
  refine bind (.reading (.readEdge? record)) fun edge? => ?_
  cases edge? with
  | none => exact .pure ()
  | some edge => exact .addEdge edge

theorem restoreRecords (nodes edges : Value) : IssuesNew (restoreRecords nodes edges) := by
  unfold Workspace.restoreRecords
  split
  · exact bind .clear fun _ => bind (.forM .restoreNodeRecord) fun _ => .forM .restoreEdgeRecord
  · exact .throw _

theorem restore (snapshot : Value) : IssuesNew (restore snapshot) := by
  cases snapshot with
  | dict fields => exact .restoreRecords _ _
  | _ => exact .throw _

theorem parse (name text : String) : IssuesNew (parse name text) := by
  unfold Workspace.parse
  split
  · exact .pure _
  · exact .throw _
  · exact .throw _

theorem load (text : String) : IssuesNew (load text) :=
  .replacing (bind (.parse "Snapshot" text) fun snapshot => .restore snapshot)

/-- Every action of client code issues only new identifiers. -/
theorem act (created : List Node) (action : ClientAction) : IssuesNew (action.edit created) := by
  cases action with
  | editor action =>
    cases action with
    | create kind x y => exact (create kind x y).discarded
    | createShape kind x y => exact (createShape kind x y).discarded
    | add turn x y data =>
      simp only [ClientAction.edit, EditorAction.edit]
      cases created[turn]? with
      | none => exact .pure ()
      | some node => exact .addNode _
    | connect source target => exact (connect source target).discarded
    | disconnect edge => exact .change fun graph => graph.ids_disconnect edge
    | removeNode id => exact .change fun graph => graph.ids_removeNodes [id]
    | removeNodes ids => exact .change fun graph => graph.ids_removeNodes ids
    | clear => exact .clear
    | moveNode id x y => exact .moveNode id x y
    | setValue id name value => exact .setValue id name value
    | writeData id write => exact .rewrite fun graph => graph.sameShape_changeData id write
    | groupNodes keys label => exact (groupNodes keys label).discarded
    | ungroup id => exact (ungroup id).discarded
    | openPreset id => exact .openPreset id
    | run registry maxSteps => exact .rewrite (Graph.sameShape_afterRun registry maxSteps)
  | issue label => exact (issue label).discarded
  | addNode node => exact .addNode node
  | newNode id node => exact (newNode id node).discarded
  | addEdge edge => exact .addEdge edge
  | newEdge id source target isExec => exact (newEdge id source target isExec).discarded
  | restore snapshot => exact .restore snapshot
  | load text => exact .load text

end IssuesNew

end Workspace

/-! ## Sessions -/

namespace Session

/-- What happens to identifiers in a session of client code: the traces of its actions, each one
followed by the graph that the action leaves behind. -/
inductive History (ids : IdSource) : List ClientAction → List IdEvent → Prop
  | begin : History ids [] []
  | act {actions : List ClientAction} {action : ClientAction} {history events : List IdEvent}
      (earlier : History ids actions history)
      (traces : Workspace.Traces (action.edit (reached ids actions).created)
        (reached ids actions).workspace events) :
      History ids (actions ++ [action])
        (history ++ events ++ [.held (reached ids (actions ++ [action])).workspace.graph])

theorem reached_append (ids : IdSource) (actions : List ClientAction) (action : ClientAction) :
    reached ids (actions ++ [action]) = (reached ids actions).act action := by
  simp [reached]

/-- A session has a history that its counter has passed. -/
theorem exists_history (ids : IdSource) (actions : List ClientAction) :
    ∃ history, History ids actions history ∧ (reached ids actions).workspace.Past history := by
  induction actions using List.reverseRecOn with
  | nil =>
    have nothing : (reached ids []).workspace.graph.ids = [] := rfl
    exact ⟨[], .begin, List.Pairwise.nil, by simp, by simp [nothing]⟩
  | append_singleton actions action ih =>
    obtain ⟨history, earlier, past⟩ := ih
    obtain ⟨events, traces, ends⟩ := Workspace.IssuesNew.act (reached ids actions).created action
      (reached ids actions).workspace history past
    have weaker := ends.mono (fun _ _ both => both.1) fun _ failed => failed
    have later : (reached ids (actions ++ [action])).workspace.Past (history ++ events) := by
      rw [reached_append]
      exact weaker.whenOver
    exact ⟨_, .act earlier traces, later.change later.present⟩

/-- In whatever steps its actions are seen, the counter advances by the identifiers of a session. -/
theorem History.advances {ids : IdSource} {actions : List ClientAction} {history : List IdEvent}
    (along : History ids actions history) :
    ids.Advances (history.filterMap IdEvent.issued?) (reached ids actions).workspace.ids := by
  induction along with
  | begin => exact .silent (Nat.le_refl _)
  | act _ traces earlier =>
    have silent : ∀ graph, [IdEvent.held graph].filterMap IdEvent.issued? = [] := fun _ => rfl
    rw [List.filterMap_append, List.filterMap_append, silent, List.append_nil, reached_append]
    exact earlier.append traces.advances

/-- No action takes the counter back. -/
theorem forward_act (ids : IdSource) (actions : List ClientAction) (action : ClientAction) :
    (reached ids actions).workspace.ids.last ≤
      (reached ids (actions ++ [action])).workspace.ids.last := by
  obtain ⟨history, _, past⟩ := exists_history ids actions
  obtain ⟨_, traces, _⟩ := Workspace.IssuesNew.act (reached ids actions).created action
    (reached ids actions).workspace history past
  rw [reached_append]
  exact traces.advances.forward

/-- The counter stays past the ids of every graph that an action left behind. -/
theorem covers_earlier {ids : IdSource} {earlier actions : List ClientAction}
    (before : earlier <+: actions) :
    ∀ id ∈ (reached ids earlier).workspace.graph.ids,
      (reached ids actions).workspace.ids.Covers id := by
  obtain ⟨rest, rfl⟩ := before
  induction rest using List.reverseRecOn with
  | nil =>
    obtain ⟨_, _, past⟩ := exists_history ids (earlier ++ [])
    rw [List.append_nil] at past ⊢
    exact past.present
  | append_singleton rest action ih =>
    intro id listed
    rw [← List.append_assoc]
    exact (ih id listed).advance (forward_act ids (earlier ++ rest) action)

/-- Every identifier that is generated in a session differs from all that were generated before and
from the ids of the nodes, ports and edges in every graph that an action left behind, in whatever
steps the actions are seen; seen in the steps that they consist of, it differs also from the ids in
the graphs between. So an edge that joins ports and a group come under new ids and only add to the
graph. -/
theorem issues_only_new (ids : IdSource) (actions : List ClientAction) :
    (∀ history, History ids actions history → (history.filterMap IdEvent.issued?).Nodup) ∧
    (∀ action events,
      Workspace.Traces (ClientAction.edit (reached ids actions).created action)
        (reached ids actions).workspace events →
      ∀ id, .issued id ∈ events → ∀ earlier, earlier <+: actions →
        id ∉ (reached ids earlier).workspace.graph.ids) ∧
    (∃ history, History ids actions history ∧ history.Pairwise IdEvent.Apart) ∧
    (∀ source target edge later,
      Workspace.connect source target (reached ids actions).workspace = .ok (some edge) later →
        edge.id ∉ (reached ids actions).workspace.graph.ids ∧
          later.graph = (reached ids actions).workspace.graph.insertEdge edge) ∧
    ∀ keys label group later,
      Workspace.groupNodes keys label (reached ids actions).workspace = .ok (some group) later →
        group.id ∉ (reached ids actions).workspace.graph.ids ∧
          later.graph.nodes = group :: (reached ids actions).workspace.graph.nodes ∧
            later.graph.edges = (reached ids actions).workspace.graph.edges := by
  obtain ⟨history, along, past⟩ := exists_history ids actions
  refine ⟨fun _ any => any.advances.issued.nodup, ?_, ⟨history, along, past.apart⟩, ?_, ?_⟩
  · intro action events traces id issued earlier before listed
    have inTrace : id ∈ events.filterMap IdEvent.issued? :=
      List.mem_filterMap.2 ⟨.issued id, issued, rfl⟩
    exact traces.advances.not_covers inTrace (covers_earlier before id listed)
  · intro source target edge later joined
    obtain ⟨generated, graph⟩ := Workspace.connect_eq_some joined
    exact ⟨past.absent generated, graph⟩
  · intro keys label group later grouped
    obtain ⟨generated, graph⟩ := Workspace.groupNodes_eq_some grouped
    have absent := past.absent generated
    have notNode : group.id ∉ (reached ids actions).workspace.graph.nodes.map Node.id := by
      intro listed
      obtain ⟨node, member, same⟩ := List.mem_map.1 listed
      exact absent (Graph.mem_ids_iff.2 (.inl ⟨node, member, same ▸ List.mem_cons_self⟩))
    rw [graph]
    exact ⟨absent, Graph.nodes_insertFirst notNode, rfl⟩

end Session

end NodeFlow
