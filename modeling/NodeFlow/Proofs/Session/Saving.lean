import NodeFlow.Proofs.Coverage
import NodeFlow.Proofs.Session.Parts
import NodeFlow.Proofs.Snapshot.Keys
import NodeFlow.Proofs.Snapshot.RoundTrip

/-!
# Saving and restoring what was edited

Whatever is done in an editor session, its graph holds nothing that a snapshot would drop or change:
ids were generated, ports have names, owners, types and sides, edges join ports, and the data keeps
distinct keys. Main statement: if the graph of a session can be saved at all, it is restored from
its snapshot as it was, and runs like it.
-/

namespace NodeFlow

open IdSource (Generates Reservable)

/-! ## Generated ids -/

namespace IdSource.Generates

variable {label id : String}

theorem ne_empty (generates : Generates label id) : id ≠ "" := by
  obtain ⟨number, _, rfl⟩ := generates
  exact generated_ne_empty label number

theorem reservable (generates : Generates label id) : Reservable id := by
  obtain ⟨number, short, rfl⟩ := generates
  exact reservable_generated short

end IdSource.Generates

/-! ## Nodes that can be kept -/

/-- The node and its ports are as they were created, up to what snapshots show in full. -/
structure Node.Keepable (node : Node) : Prop where
  id : Generates "node" node.id
  ports : ∀ port ∈ node.ports, ∃ (owner : String) (plan : PortPlan), plan.name ≠ "" ∧
    port.Planned owner plan
  data : node.data.WellKeyed

theorem Port.Planned.normal {owner : String} {plan : PortPlan} {port : Port}
    (planned : port.Planned owner plan) (named : plan.name ≠ "") : port.Normal := by
  refine ⟨planned.name ▸ named, ?_, ?_, ?_, ?_, ?_, ?_⟩
  all_goals
    simp only [planned.owner, planned.type, planned.direction]
  · rfl
  · rfl
  · rfl
  · exact .text _
  · exact .text _
  · exact .text _

namespace Node.Keepable

variable {node : Node}

theorem reservable (keepable : node.Keepable) : node.Reservable where
  own := keepable.id.reservable
  ports port member := by
    obtain ⟨_, _, _, planned⟩ := keepable.ports port member
    exact planned.id.reservable

/-- A node that can be kept is normal if its data can be written. -/
theorem normal (keepable : node.Keepable) {style : Style}
    (writable : (Value.dict node.data).Writable style) : node.Normal where
  named := keepable.id.ne_empty
  ports port member := by
    obtain ⟨_, _, named, planned⟩ := keepable.ports port member
    exact planned.normal named
  storable := keepable.data.storable writable

theorem withData (keepable : node.Keepable) {data : Fields} (wellKeyed : data.WellKeyed) :
    (node.withData data).Keepable :=
  ⟨keepable.id, keepable.ports, wellKeyed⟩

/-- Every value with distinct keys is accepted. -/
theorem accepts (keepable : node.Keepable) (name : String) {value : Value}
    (wellKeyed : value.WellKeyed) : node.Accepts Keepable name value := by
  have written := keepable.data.set name wellKeyed
  refine ⟨keepable.withData written, fun output derived => ?_⟩
  exact keepable.withData (written.set "v" (wellKeyed_derived derived))

end Node.Keepable

theorem Node.Made.keepable {node : Node} (made : node.Made) : node.Keepable where
  id := made.id
  ports port member := by
    obtain ⟨plan, named, planned⟩ := made.exists_plan member
    exact ⟨node.id, plan, named, planned⟩
  data := by
    cases made with
    | template listed planned => exact planned.data ▸ Template.wellKeyed_defaults listed
    | shape _ planned => exact planned.data ▸ .nil

/-! ## Sessions -/

/-- The edge has a generated id. -/
def Edge.Keepable (edge : Edge) : Prop :=
  Generates "edge" edge.id

theorem lasting_keepable : Lasting Node.Keepable Edge.Keepable where
  made _ made := made.keepable
  grouped _ generates _ _ _ := ⟨generates, by simp [Graph.groupAround, Node.blank], .nil⟩
  placed _ _ _ keepable := ⟨keepable.id, keepable.ports, keepable.data⟩
  pruned node gone keepable := by
    unfold Node.prune
    split
    · exact ⟨keepable.id, keepable.ports, keepable.data⟩
    · exact keepable
  joined _ generates _ _ _ := generates

theorem Registry.WellKeyed.respects {registry : Registry} (wellKeyed : registry.WellKeyed) :
    registry.Respects Node.Keepable Edge.Keepable := by
  intro graph each node member lines outputs evaluated
  have keepable := each.nodes node member
  have inputs := Graph.wellKeyed_inputs (fun other inGraph => (each.nodes other inGraph).data)
    keepable.data
  have stored := wellKeyed node _ lines outputs keepable.data inputs evaluated
  exact keepable.withData (Node.wellKeyed_store keepable.data stored)

theorem closed_keepsKeepable :
    Preset.Closed fun edit => Edit.Keeps (Workspace.Each Node.Keepable Edge.Keepable) edit where
  pure := .pure
  bind := .bind
  createNode kind x y := Workspace.keepsEach_createNode lasting_keepable kind (.int x) (.int y)
  setValue _ name n _ each :=
    Workspace.ends_setValue each fun node member _ => (each.nodes node member).accepts name (.int n)
  connect := Workspace.keepsEach_connect lasting_keepable
  groupNodes := Workspace.keepsEach_groupNodes lasting_keepable

/-- Whatever the action writes has distinct keys, as mappings have. -/
def EditorAction.WellKeyed : EditorAction → Prop
  | .add _ _ _ data => data.WellKeyed
  | .setValue _ _ value => value.WellKeyed
  | .writeData _ write => ∀ data : Fields, data.WellKeyed → (write data).WellKeyed
  | .run registry _ => registry.WellKeyed
  | _ => True

namespace Session

variable {session : Session}

theorem Each.respects_of_wellKeyed (each : session.Each Node.Keepable Edge.Keepable)
    {action : EditorAction} (wellKeyed : action.WellKeyed) :
    action.Respects Node.Keepable Edge.Keepable session := by
  cases action with
  | add turn x y data =>
    intro node found
    have keepable := (each.made node (List.mem_of_getElem? found)).keepable
    exact ⟨keepable.id, keepable.ports, wellKeyed⟩
  | setValue id name value =>
    exact fun node member _ => (each.graph.nodes node member).accepts name wellKeyed
  | writeData id write =>
    intro node member _
    have keepable := each.graph.nodes node member
    exact keepable.withData (wellKeyed node.data keepable.data)
  | openPreset id => exact fun preset listed => closed_keepsKeepable.build listed
  | run registry maxSteps => exact wellKeyed.respects
  | _ => trivial

theorem each_after (ids : IdSource) {actions : List EditorAction}
    (wellKeyed : ∀ action ∈ actions, action.WellKeyed) :
    (after ids actions).Each Node.Keepable Edge.Keepable :=
  each_after_of_respects lasting_keepable ids fun _ each action member =>
    each.respects_of_wellKeyed (wellKeyed action member)

end Session

/-! ## Snapshots -/

namespace Graph

variable {graph : Graph} {made : List Node} {last : Nat}

/-- Edges that join ports lie at references. -/
theorem Sound.edge_normal (sound : graph.Sound made last) {edge : Edge}
    (member : edge ∈ graph.edges) (keepable : edge.Keepable) : edge.Normal := by
  have nonempty : ∀ node port, Ref.make node port ≠ "" := by
    intro node port same
    have marks := congrArg String.toList same
    simp [Ref.make] at marks
  obtain ⟨source, target, joins⟩ := sound.edges edge member
  obtain ⟨origin, _, _, begins⟩ := joins.begins.owner
  obtain ⟨goal, _, _, ends⟩ := joins.ends.owner
  exact ⟨keepable.ne_empty, begins ▸ .ref (nonempty _ _), ends ▸ .ref (nonempty _ _)⟩

/-- With a graph the data of its nodes is written. -/
theorem writable_data {text : String} (printed : Json.print graph.toValue = .ok text) :
    ∀ node ∈ graph.nodes, (Value.dict node.data).Writable Json.indented := by
  intro node member
  obtain ⟨chars, written, _⟩ := Outcome.map_eq_ok.1 printed
  have whole : graph.toValue.Writable Json.indented := ⟨0, chars, written⟩
  have nodes := whole.fields ("nodes", .list (graph.nodes.map Node.toValue)) (by simp)
  have record := nodes.items node.toValue (List.mem_map_of_mem member)
  exact record.fields ("data", .dict node.data) (by simp)

/-- A graph of an editor session that can be saved is normal. -/
theorem Sound.normal_of_dump (sound : graph.Sound made last)
    (each : graph.Each Node.Keepable Edge.Keepable) {snapshot : String}
    (dumped : graph.dump = .ok snapshot) : graph.Normal := by
  have edges : ∀ edge ∈ graph.edges, edge.Normal :=
    fun edge member => sound.edge_normal member (each.edges edge member)
  have printed : Json.print graph.toValue = .ok snapshot := by
    unfold dump at dumped
    rwa [settled_of_normal edges] at dumped
  refine ⟨fun node member => ?_, fun edge member => ?_⟩
  · have keepable := each.nodes node member
    exact ⟨keepable.normal (writable_data printed node member), keepable.reservable⟩
  · exact ⟨edges edge member, (each.edges edge member).reservable⟩

end Graph

namespace Session

theorem normal_of_dump {ids : IdSource} {actions : List EditorAction}
    (wellKeyed : ∀ action ∈ actions, action.WellKeyed) {snapshot : String}
    (dumped : (after ids actions).workspace.graph.dump = .ok snapshot) :
    (after ids actions).workspace.graph.Normal := by
  obtain ⟨_, _, _, sound⟩ := sound_after ids actions
  exact sound.normal_of_dump (each_after ids wellKeyed).graph dumped

/-- The graph of an editor session that can be saved is restored from its snapshot as it is, as long
as the counter stays below the numbers that are too long to be written; so it runs as before. -/
theorem load_dump {ids : IdSource} {actions : List EditorAction}
    (wellKeyed : ∀ action ∈ actions, action.WellKeyed) {snapshot : String}
    (dumped : (after ids actions).workspace.graph.dump = .ok snapshot) {again : Workspace}
    (inRange : (Edit.stateAfter (Workspace.load snapshot) again).ids.last < 10 ^ digitLimit) :
    ∃ later, Workspace.load snapshot again = .ok () later ∧
      later.graph = (after ids actions).workspace.graph ∧
      ∀ registry maxSteps, later.graph.run registry maxSteps =
        (after ids actions).workspace.graph.run registry maxSteps := by
  have normal := normal_of_dump wellKeyed dumped
  obtain ⟨text, dumpedAs, read⟩ := Graph.exists_dump normal
  obtain rfl : snapshot = text := Except.ok.inj (dumped.symm.trans dumpedAs)
  obtain ⟨later, loaded, same⟩ := Workspace.exists_load normal read inRange
  exact ⟨later, loaded, same, fun registry maxSteps => by rw [same]⟩

/-- A number node is added, and a whole number is written to it. -/
def numberSeven : List EditorAction :=
  [.create "number" (.int 0) (.int 0),
   .add 0 (Node.coordinate 0) (Node.coordinate 0) Template.number.defaults,
   .setValue "node_1" "num" (.int 7)]

theorem wellKeyed_numberSeven : ∀ action ∈ numberSeven, action.WellKeyed := by
  have listed : Template.number ∈ Template.all := by simp [Template.all]
  intro action member
  simp only [numberSeven, List.mem_cons, List.not_mem_nil, or_false] at member
  rcases member with rfl | rfl | rfl
  · trivial
  · exact Template.wellKeyed_defaults listed
  · exact .int 7

/-- The number node is saved, and restored by a counter that begins anew. -/
theorem load_dump_numberSeven : ∃ snapshot later,
    (after ⟨0⟩ numberSeven).workspace.graph.dump = .ok snapshot ∧
      Workspace.load snapshot ⟨.empty, ⟨0⟩⟩ = .ok () later ∧
      later.graph = (after ⟨0⟩ numberSeven).workspace.graph := by
  have restores := fun snapshot dumped inRange =>
    @load_dump ⟨0⟩ numberSeven wellKeyed_numberSeven snapshot dumped ⟨.empty, ⟨0⟩⟩ inRange
  have normal := fun snapshot => @normal_of_dump ⟨0⟩ numberSeven wellKeyed_numberSeven snapshot
  have written : (after ⟨0⟩ numberSeven).workspace.graph.dump.isOk = true := by
    decide +kernel
  -- The records are counted instead of the text that they are read from.
  have inRange : (Edit.stateAfter
      (Workspace.replacing (Workspace.restore (after ⟨0⟩ numberSeven).workspace.graph.toValue))
      ⟨.empty, ⟨0⟩⟩).ids.last < 10 ^ digitLimit := by
    decide +kernel
  generalize (after ⟨0⟩ numberSeven).workspace.graph = graph at *
  cases dumped : graph.dump with
  | error cause =>
    rw [dumped] at written
    cases written
  | ok snapshot =>
    obtain ⟨text, dumpedAs, read⟩ := Graph.exists_dump (normal snapshot dumped)
    obtain rfl : snapshot = text := Except.ok.inj (dumped.symm.trans dumpedAs)
    rw [← Workspace.load_of_read read] at inRange
    obtain ⟨later, loaded, same, _⟩ := restores snapshot dumped inRange
    exact ⟨snapshot, later, rfl, loaded, same⟩

end Session

end NodeFlow
