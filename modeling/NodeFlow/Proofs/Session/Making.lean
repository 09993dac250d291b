import NodeFlow.Proofs.Graph.Grouping
import NodeFlow.Proofs.Session.Changes

/-!
# What new nodes, edges and groups are like

Created nodes are genuine and bring ids that were never issued before. An edge that is accepted
joins an output port with an input port. A group encloses the nodes that it was asked to enclose.
-/

namespace NodeFlow

open IdSource (Issued generated)

/-! ## Nodes -/

/-- The identifier was generated from a label. -/
def IdSource.Generates (label id : String) : Prop :=
  ∃ number < 10 ^ digitLimit, id = generated label number

/-- A port that was created from a plan for the node of an id. -/
structure Port.Planned (owner : String) (plan : PortPlan) (port : Port) : Prop where
  id : IdSource.Generates "p" port.id
  owner : port.owner = .text owner
  name : port.name = plan.name
  type : port.type = .text plan.type.tag
  direction : port.direction = .text plan.side.tag
  isExec : port.isExec = plan.isExec

/-- A node that was created with planned ports. -/
structure Node.Planned (kind : String) (plans : List PortPlan) (data : Fields) (node : Node) :
    Prop where
  id : IdSource.Generates "node" node.id
  ports : List.Forall₂ (Port.Planned node.id) plans node.ports
  kind : node.kind = kind
  data : node.data = data
  plain : node.isGroup = false

/-- A node that was created from a template, or as a plain shape. -/
inductive Node.Made (node : Node) : Prop where
  | template {template : Template} (listed : template ∈ Template.all)
      (planned : node.Planned template.kind template.ports template.defaults)
  | shape {kind : String} (listed : kind ∈ shapeKinds) (planned : node.Planned kind shapePorts [])

theorem Port.Planned.genuine {owner : String} {plan : PortPlan} {port : Port}
    (planned : port.Planned owner plan) (named : plan.name ≠ "") : port.Genuine where
  named := planned.name ▸ named
  owned := by rw [planned.owner]; rfl
  typed := ⟨plan.type, planned.type⟩
  placed := ⟨plan.side, planned.direction⟩

/-- A port of a node that was created belongs to a plan. -/
theorem Node.Planned.exists_plan {kind : String} {plans : List PortPlan} {data : Fields}
    {node : Node} (planned : node.Planned kind plans data) {port : Port}
    (member : port ∈ node.ports) : ∃ plan ∈ plans, port.Planned node.id plan := by
  have each := planned.ports
  clear planned
  generalize node.ports = ports at member each
  induction each with
  | nil => cases member
  | cons first rest ih =>
    rcases List.mem_cons.1 member with rfl | later
    · exact ⟨_, List.mem_cons_self, first⟩
    · obtain ⟨plan, listed, planned⟩ := ih later
      exact ⟨plan, List.mem_cons_of_mem _ listed, planned⟩

theorem Template.names_ne_empty :
    ∀ template ∈ Template.all, ∀ plan ∈ template.ports, plan.name ≠ "" := by
  decide

theorem shapePorts_names_ne_empty : ∀ plan ∈ shapePorts, plan.name ≠ "" := by
  decide

namespace Node.Made

variable {node : Node}

theorem id (made : node.Made) : IdSource.Generates "node" node.id := by
  cases made with
  | template _ planned => exact planned.id
  | shape _ planned => exact planned.id

theorem plain (made : node.Made) : node.isGroup = false := by
  cases made with
  | template _ planned => exact planned.plain
  | shape _ planned => exact planned.plain

/-- A port of a node that was created belongs to a plan with a name. -/
theorem exists_plan (made : node.Made) {port : Port} (member : port ∈ node.ports) :
    ∃ plan : PortPlan, plan.name ≠ "" ∧ port.Planned node.id plan := by
  cases made with
  | @template template listed planned =>
    obtain ⟨plan, inPlans, ofPlan⟩ := planned.exists_plan member
    exact ⟨plan, Template.names_ne_empty template listed plan inPlans, ofPlan⟩
  | shape _ planned =>
    obtain ⟨plan, inPlans, ofPlan⟩ := planned.exists_plan member
    exact ⟨plan, shapePorts_names_ne_empty plan inPlans, ofPlan⟩

theorem genuine (made : node.Made) : node.Genuine where
  generated := by
    obtain ⟨number, _, shape⟩ := made.id
    exact ⟨number, shape⟩
  ports port member := by
    obtain ⟨plan, named, planned⟩ := made.exists_plan member
    exact planned.genuine named
  group isGroup := by
    rw [made.plain] at isGroup
    cases isGroup

end Node.Made

/-- A node that was created while the counter went from one number to another. -/
structure Node.New (low high : Nat) (node : Node) : Prop where
  forward : low ≤ high
  made : node.Made
  issued : Issued low high node.marks

/-- The operation creates a node; if it fails, the counter does not go back either. -/
def IdSource.Creates (operation : Edit IdSource Node) : Prop :=
  ∀ before : IdSource, Edit.Ends operation (fun node after => node.New before.last after.last)
    (fun after => before.last ≤ after.last) before

theorem PortPlan.ends_create (owner : String) {plan : PortPlan} {before : IdSource}
    {post : Port → IdSource → Prop} {fault : IdSource → Prop}
    (created : ∀ port : Port, port.Planned owner plan →
      port.id = generated "p" (before.last + 1) → post port ⟨before.last + 1⟩)
    (failed : fault ⟨before.last + 1⟩) : Edit.Ends (plan.create owner) post fault before := by
  unfold PortPlan.create
  rw [Edit.ends_bind]
  refine IdSource.ends_fresh (fun short => ?_) fun _ => failed
  rw [Edit.ends_pure]
  exact created _ ⟨⟨_, short, rfl⟩, rfl, rfl, rfl, rfl, rfl⟩ rfl

theorem PortPlan.ends_mapM_create (owner : String) (plans : List PortPlan) (before : IdSource) :
    Edit.Ends (plans.mapM (PortPlan.create owner))
      (fun ports after => before.last ≤ after.last ∧
        List.Forall₂ (Port.Planned owner) plans ports ∧
        Issued before.last after.last (ports.map Port.id))
      (fun after => before.last ≤ after.last) before := by
  induction plans generalizing before with
  | nil =>
    rw [List.mapM_nil, Edit.ends_pure]
    exact ⟨Nat.le_refl _, .nil, Issued.nil _ _⟩
  | cons plan rest ih =>
    rw [List.mapM_cons, Edit.ends_bind]
    have next := Nat.le_succ before.last
    refine PortPlan.ends_create owner ?_ next
    intro port planned shown
    rw [Edit.ends_bind]
    refine (ih ⟨before.last + 1⟩).mono ?_ fun after forward => Nat.le_trans next forward
    rintro ports after ⟨forward, others, issued⟩
    rw [Edit.ends_pure]
    refine ⟨Nat.le_trans next forward, .cons planned others, ?_⟩
    have first := Issued.single "p" before.last
    have both := first.append issued next forward
    rw [List.map_cons, shown]
    exact both

namespace IdSource.Creates

/-- The part that creations share: ids for a node and its planned ports, in this order. -/
theorem planned {kind : String} {plans : List PortPlan} {data : Fields}
    (made : ∀ node : Node, node.Planned kind plans data → node.Made)
    {build : String → List Port → Node}
    (fits : ∀ id ports, IdSource.Generates "node" id →
      List.Forall₂ (Port.Planned id) plans ports → (build id ports).Planned kind plans data)
    (marks : ∀ id ports, (build id ports).marks = id :: ports.map Port.id) :
    Creates (do
      let id ← fresh "node"
      let ports ← plans.mapM (PortPlan.create id)
      return build id ports) := by
  intro before
  have next := Nat.le_succ before.last
  rw [Edit.ends_bind]
  refine ends_fresh (fun short => ?_) fun _ => next
  rw [Edit.ends_bind]
  have planned := PortPlan.ends_mapM_create (generated "node" (before.last + 1)) plans
    ⟨before.last + 1⟩
  refine planned.mono ?_ fun after forward => Nat.le_trans next forward
  rintro created after ⟨forward, ofPlans, issued⟩
  rw [Edit.ends_pure]
  refine ⟨Nat.le_trans next forward, made _ (fits _ _ ⟨_, short, rfl⟩ ofPlans), ?_⟩
  rw [marks]
  exact (Issued.single "node" before.last).append issued next forward

/-- Reading something first does not matter. -/
theorem converted {α : Type} (outcome : Except ConversionError α)
    {operation : α → Edit IdSource Node} (creates : ∀ result, Creates (operation result)) :
    Creates (Edit.convert outcome >>= operation) := by
  intro before
  rw [Edit.ends_bind, Edit.ends_convert]
  cases outcome with
  | error cause => exact Nat.le_refl before.last
  | ok result => exact creates result before

theorem refused (error : Error) : Creates (throw error) :=
  fun before => Nat.le_refl before.last

end IdSource.Creates

theorem Template.creates_instantiate {template : Template} (listed : template ∈ Template.all)
    (x y : Value) : IdSource.Creates (template.instantiate x y) := by
  refine .converted _ fun x => .converted _ fun y => ?_
  exact .planned (fun _ planned => .template listed planned)
    (fun _ _ id ports => ⟨id, ports, rfl, rfl, rfl⟩) fun _ _ => rfl

theorem Node.creates_create (kind : String) (x y : Value) :
    IdSource.Creates (Node.create kind x y) := by
  unfold Node.create
  cases found : Template.find? kind with
  | none => exact .refused _
  | some template => exact Template.creates_instantiate (List.mem_of_find?_eq_some found) x y

theorem Node.creates_createShape (kind : String) (x y : Value) :
    IdSource.Creates (Node.createShape kind x y) := by
  unfold Node.createShape
  by_cases known : shapeKinds.contains kind = true
  · rw [if_pos known]
    refine .converted _ fun x => .converted _ fun y => ?_
    have listed : kind ∈ shapeKinds := List.contains_iff_mem.1 known
    exact .planned (fun _ planned => .shape listed planned)
      (fun _ _ id ports => ⟨id, ports, rfl, rfl, rfl⟩) fun _ _ => rfl
  · rw [if_neg known]
    exact .refused _

/-! ## Edges -/

/-- A reference with a port is made from its two parts. -/
theorem Ref.make_node_port {ref : String} (named : Ref.port ref ≠ "") :
    Ref.make (Ref.node ref) (Ref.port ref) = ref := by
  have split := @List.takeWhile_append_dropWhile Char (· != ':') ref.toList
  have stops := List.head?_dropWhile_not (· != ':') ref.toList
  apply String.toList_inj.1
  unfold Ref.make Ref.node Ref.port at *
  cases rest : ref.toList.dropWhile (· != ':') with
  | nil => simp [rest] at named
  | cons c tail =>
    rw [rest] at stops split
    have colon : c = ':' := by simpa using stops
    subst colon
    simpa using split

namespace Graph

theorem port?_eq_some {graph : Graph} {ref : String} {side : Option String} {port : Port}
    (found : graph.port? ref side = some port) :
    ∃ node ∈ graph.nodes, node.id = Ref.node ref ∧ port ∈ node.ports ∧
      port.name = Ref.port ref := by
  unfold port? at found
  obtain ⟨node, present, found⟩ := Option.bind_eq_some_iff.1 found
  refine ⟨node, mem_of_node? present, id_of_node? present, ?_⟩
  have named : ∀ side, node.port? (Ref.port ref) side = some port →
      port ∈ node.ports ∧ port.name = Ref.port ref := by
    intro side listed
    have matched := List.find?_some listed
    simp only [Bool.and_eq_true, beq_iff_eq] at matched
    exact ⟨List.mem_of_find?_eq_some listed, matched.1⟩
  rcases Option.or_eq_some_iff.1 found with preferred | ⟨_, other⟩
  · exact named side preferred
  · exact named none other

variable {made : List Node} {last : Nat} {graph : Graph}

/-- A port that a sound graph finds is genuine, and the reference is made from it. -/
theorem Sound.namesPort (sound : graph.Sound made last) {ref : String} {preferred : Option String}
    {side : Direction} {port : Port} (found : graph.port? ref preferred = some port)
    (faces : port.faces side.tag = true) :
    port.Genuine ∧ (Endpoint.ref ref).NamesPort graph.nodes side port := by
  obtain ⟨node, member, sameNode, hasPort, sameName⟩ := port?_eq_some found
  obtain ⟨origin, inMade, redraws⟩ := sound.drawn node member
  have genuine := (sound.genuine origin inMade).ports port (redraws.ports ▸ hasPort)
  have named : Ref.port ref ≠ "" := sameName ▸ genuine.named
  refine ⟨genuine, ⟨node, member, hasPort, ?_⟩, Port.direction_of_faces faces⟩
  rw [sameNode, sameName, Ref.make_node_port named]

/-- An edge that is not refused joins two ports. -/
theorem Sound.joins_of_accepted (sound : graph.Sound made last) {source target : String}
    (accepted : graph.connectionError? source target = none) (id : String) :
    ∃ sourcePort targetPort, Edge.Joins graph.nodes
      ⟨id, .ref source, .ref target, ((graph.sourcePort? source).map Port.isExec).getD false⟩
      sourcePort targetPort := by
  unfold connectionError? at accepted
  cases sourceFound : graph.sourcePort? source with
  | none => simp [sourceFound] at accepted
  | some sourcePort =>
    cases targetFound : graph.targetPort? target with
    | none => simp [sourceFound, targetFound] at accepted
    | some targetPort =>
      simp only [sourceFound, targetFound] at accepted
      obtain ⟨output, input, exec, compatible⟩ :=
        (Port.connectionError?_eq_none_iff _ _).1 accepted
      obtain ⟨genuineSource, begins⟩ := sound.namesPort sourceFound output
      obtain ⟨genuineTarget, ends⟩ := sound.namesPort targetFound input
      refine ⟨sourcePort, targetPort, begins, ends, rfl, exec.symm, ?_⟩
      intro data
      exact Port.Genuine.types_of_compatible genuineSource genuineTarget (compatible data)

end Graph

/-! ## Groups -/

namespace Graph

variable {made : List Node} {last : Nat} {graph : Graph}

theorem Sound.underscore_mem (sound : graph.Sound made last) {node : Node}
    (member : node ∈ graph.nodes) : '_' ∈ node.id.toList := by
  obtain ⟨origin, inMade, redraws⟩ := sound.drawn node member
  obtain ⟨number, shape⟩ := (sound.genuine origin inMade).generated
  rw [redraws.id, shape]
  exact IdSource.underscore_mem_generated _ _

/-- The ids of a sound graph are texts only: they have an underscore, and numbers have none. -/
theorem Sound.not_namesTwice (sound : graph.Sound made last) {keys : List NodeKey} {id : String}
    (listed : id ∈ graph.plainNamed keys) : ¬ NodeKey.NamesTwice keys id := by
  rintro ⟨_, n, _, named⟩
  obtain ⟨node, found, _⟩ := isPlain_iff.1 (mem_plainNamed_iff.1 listed).2
  have underscore := sound.underscore_mem (mem_of_node? found)
  rw [id_of_node? found] at underscore
  exact underscore_not_mem_of_writeInt (NodeKey.writeInt_of_name? named) underscore

/-- What can be grouped is a list of distinct nodes of the graph that are no groups. -/
theorem Sound.groupable_spec (sound : graph.Sound made last) {keys : List NodeKey}
    {nodes : List Node} (found : graph.groupable keys = .ok nodes) :
    (nodes.map Node.id).Nodup ∧ ∀ node ∈ nodes, node ∈ graph.nodes ∧ node.isGroup = false := by
  refine ⟨?_, fun node => mem_of_groupable found⟩
  rcases graph.groupable_cases keys with ⟨_, refused⟩ | ⟨_, others, same, members⟩
  · rw [found] at refused
    cases refused
  · rw [found] at same
    cases same
    have collects := graph.collects_eraseDups keys
    rw [← members] at collects
    rw [collects.eq_plainNamed fun id => sound.not_namesTwice]
    exact Occurrences.nodup_eraseDups _

theorem Sound.groupAround_encloses (sound : graph.Sound made last) {keys : List NodeKey}
    {first : Node} {rest : List Node} (found : graph.groupable keys = .ok (first :: rest))
    (id label : String) : (groupAround id label first rest).Encloses graph.nodes := by
  obtain ⟨distinct, members⟩ := sound.groupable_spec found
  refine ⟨by simp [groupAround], distinct, ?_⟩
  intro id listed
  obtain ⟨node, inMembers, sameId⟩ := List.mem_map.1 listed
  obtain ⟨inGraph, plain⟩ := members node inMembers
  exact ⟨node, inGraph, sameId, plain⟩

theorem genuine_groupAround (number : Nat) (label : String) (first : Node) (rest : List Node) :
    (groupAround (generated "node" number) label first rest).Genuine :=
  ⟨⟨number, rfl⟩, by simp [groupAround, Node.blank], fun _ => rfl⟩

end Graph

end NodeFlow
