import NodeFlow.Proofs.Evaluation.Outputs
import NodeFlow.Proofs.Session.Parts

/-!
# Types of what flows

As long as nobody writes the outputs of nodes by hand, every output holds a value of its type: new
nodes start so, fields and derived outputs keep to it, and evaluators give what templates declare.
Edges join ports of one type, so inputs receive values of their types. Main statement: at every
visit of every run in such a session, an input that is fed by an edge receives a value of its type.
-/

namespace NodeFlow

theorem PortType.tag_injective {type other : PortType} (same : type.tag = other.tag) :
    type = other := by
  cases type <;> cases other <;> first | rfl | exact absurd same (by decide)

/-! ## Templates and shapes -/

theorem Template.find?_kind {template : Template} (listed : template ∈ Template.all) :
    Template.find? template.kind = some template := by
  simp only [Template.all, List.mem_cons, List.not_mem_nil, or_false] at listed
  rcases listed with rfl | rfl | rfl | rfl | rfl | rfl | rfl | rfl <;> rfl

theorem Template.find?_shape : ∀ kind ∈ shapeKinds, (Template.find? kind).isNone = true := by
  decide

theorem Template.names_distinct :
    ∀ template ∈ Template.all, (template.ports.map PortPlan.name).Nodup := by
  decide

/-- The data ports on the right of a template are its outputs, and no output takes any value. -/
theorem Template.outputs_of_plans : ∀ template ∈ Template.all, ∀ plan ∈ template.ports,
    plan.side = .output → plan.isExec = false →
      (plan.name, plan.type) ∈ template.outputs ∧ plan.type ≠ .any := by
  decide

/-! ## Typed nodes -/

/-- The ports of the node have distinct names, and every data output holds a value of its type,
which is the one that the template of the node's kind declares. -/
structure Node.Typed (node : Node) : Prop where
  distinct : (node.ports.map Port.name).Nodup
  outputs : ∀ port ∈ node.dataPorts .output, ∃ type : PortType, port.type = .text type.tag ∧
    type ≠ .any ∧ type.admits (node.data.get port.name) = true ∧
      ∀ template, Template.find? node.kind = some template → (port.name, type) ∈ template.outputs

namespace Node

/-- A plan of the node's data outputs. -/
theorem Planned.exists_output {kind : String} {plans : List PortPlan} {data : Fields} {node : Node}
    (planned : node.Planned kind plans data) {port : Port}
    (output : port ∈ node.dataPorts .output) :
    ∃ plan ∈ plans, plan.side = .output ∧ plan.isExec = false ∧ port.name = plan.name ∧
      port.type = .text plan.type.tag := by
  obtain ⟨member, isData⟩ := List.mem_filter.1 output
  obtain ⟨plan, listed, ofPlan⟩ := planned.exists_plan member
  simp only [Port.isData, Port.faces, ofPlan.direction, ofPlan.isExec, Value.isText,
    Bool.and_eq_true, beq_iff_eq, Bool.not_eq_true'] at isData
  refine ⟨plan, listed, ?_, isData.2, ofPlan.name, ofPlan.type⟩
  cases side : plan.side with
  | input =>
    rw [side] at isData
    exact absurd isData.1 (by decide)
  | output => rfl

theorem Planned.map_name {kind : String} {plans : List PortPlan} {data : Fields} {node : Node}
    (planned : node.Planned kind plans data) :
    node.ports.map Port.name = plans.map PortPlan.name := by
  have each := planned.ports
  clear planned
  generalize node.ports = ports at each
  induction each with
  | nil => rfl
  | cons first _ ih => rw [List.map_cons, List.map_cons, first.name, ih]

/-- New nodes are typed. -/
theorem Made.typed {node : Node} (made : node.Made) : node.Typed := by
  cases made with
  | @template template listed planned =>
    refine ⟨planned.map_name ▸ Template.names_distinct template listed, fun port output => ?_⟩
    obtain ⟨plan, inPlans, side, data, name, type⟩ := planned.exists_output output
    obtain ⟨declared, notAny⟩ := Template.outputs_of_plans template listed plan inPlans side data
    refine ⟨plan.type, type, notAny, ?_, ?_⟩
    · rw [planned.data, name]
      exact Template.defaults_admitted template listed _ declared
    · intro other found
      rw [planned.kind, Template.find?_kind listed] at found
      cases found
      exact name ▸ declared
  | @shape kind listed planned =>
    refine ⟨planned.map_name ▸ by decide, fun port output => ?_⟩
    obtain ⟨plan, inPlans, side, data, name, type⟩ := planned.exists_output output
    have number : ∀ plan ∈ shapePorts, plan.type = .number := by decide
    refine ⟨.number, number plan inPlans ▸ type, by decide, ?_, ?_⟩
    · rw [planned.data]
      rfl
    · intro template found
      have none := Template.find?_shape kind listed
      rw [← planned.kind, found] at none
      cases none

/-- A new node has the data of its template. -/
theorem Made.data_eq {node : Node} (made : node.Made) {template : Template}
    (found : Template.find? node.kind = some template) : node.data = template.defaults := by
  cases made with
  | @template origin listed planned =>
    rw [planned.kind, Template.find?_kind listed] at found
    cases found
    exact planned.data
  | @shape kind listed planned =>
    have none := Template.find?_shape kind listed
    rw [← planned.kind, found] at none
    cases none

namespace Typed

variable {node : Node}

/-- Types do not depend on what else a node is. -/
theorem redraw {other : Node} (typed : node.Typed) (ports : other.ports = node.ports)
    (kind : other.kind = node.kind) (data : other.data = node.data) : other.Typed := by
  obtain ⟨distinct, outputs⟩ := typed
  refine ⟨ports ▸ distinct, ?_⟩
  rw [kind, data]
  unfold dataPorts at outputs ⊢
  rw [ports]
  exact outputs

/-- The data may become any that the outputs admit. -/
theorem withData (typed : node.Typed) {data : Fields}
    (admitted : ∀ port ∈ node.dataPorts .output, ∀ type : PortType, port.type = .text type.tag →
      type.admits (node.data.get port.name) = true →
      (∀ template, Template.find? node.kind = some template →
        (port.name, type) ∈ template.outputs) → type.admits (data.get port.name) = true) :
    (node.withData data).Typed := by
  refine ⟨typed.distinct, fun port output => ?_⟩
  obtain ⟨type, hasType, notAny, holds, declared⟩ := typed.outputs port output
  exact ⟨type, hasType, notAny, admitted port output type hasType holds declared, declared⟩

/-- A node may get back the data that it had. -/
theorem getBack {held : Node} (typed : node.Typed) (ofHeld : held.Typed)
    (redraws : held.Redraws node) : (node.withData held.data).Typed := by
  refine typed.withData fun port output type hasType _ _ => ?_
  have inHeld : port ∈ held.dataPorts .output := by
    unfold dataPorts at output ⊢
    rwa [redraws.ports]
  obtain ⟨other, otherType, _, holds, _⟩ := ofHeld.outputs port inHeld
  rw [hasType] at otherType
  rwa [PortType.tag_injective (Value.text.inj otherType)]

end Typed

/-- What a node derives from its fields has the type of its output. -/
theorem admits_derived {node : Node} {name : String} {data : Fields} {output : Value}
    (derived : node.derivedOutput name data = .ok (some output)) :
    ∃ template, Template.find? node.kind = some template ∧
      ∀ entry ∈ template.outputs, entry.1 = "v" ∧ entry.2.admits output = true := by
  unfold derivedOutput at derived
  split at derived
  · rename_i number
    simp only [Bool.and_eq_true, beq_iff_eq] at number
    obtain ⟨n, _, same⟩ := Outcome.map_eq_ok.1 derived
    cases same
    rw [number.1]
    exact ⟨_, rfl, by simp [Template.number, PortType.admits]⟩
  · split at derived
    · rename_i vector
      simp only [Bool.and_eq_true, beq_iff_eq] at vector
      obtain ⟨v, _, same⟩ := Outcome.map_eq_ok.1 derived
      cases same
      rw [vector.1]
      exact ⟨_, rfl, by simp [Template.vec3, PortType.admits]⟩
    · cases derived

/-- A typed node accepts every value under a name that is none of its data outputs. -/
theorem Typed.accepts {node : Node} (typed : node.Typed) {name : String} (value : Value)
    (other : name ∉ (node.dataPorts .output).map Port.name) : node.Accepts Typed name value := by
  have written : (node.withData (node.data.set name value)).Typed := by
    refine typed.withData fun port output type _ holds _ => ?_
    have different : port.name ≠ name := fun same => other (same ▸ List.mem_map_of_mem output)
    rwa [Fields.get_set_of_ne value different]
  refine ⟨written, fun derived ofFields => ?_⟩
  obtain ⟨template, found, declares⟩ := admits_derived ofFields
  have rewritten : ((node.withData (node.data.set name value)).withData
      ((node.data.set name value).set "v" derived)).Typed := by
    refine written.withData fun port output type _ _ declared => ?_
    obtain ⟨named, admits⟩ := declares _ (declared template found)
    rw [show port.name = "v" from named, Fields.get_set_self]
    exact admits
  exact rewritten

end Node

/-! ## Sessions -/

/-- Nodes stay typed when they are moved and pruned; edges need nothing. -/
theorem lasting_typed : Lasting Node.Typed fun _ => True where
  made _ made := made.typed
  grouped _ _ _ _ _ := ⟨List.nodup_nil, by simp [Node.dataPorts, Graph.groupAround, Node.blank]⟩
  placed _ _ _ typed := typed.redraw rfl rfl rfl
  pruned node gone typed := by
    unfold Node.prune
    split
    · exact typed.redraw rfl rfl rfl
    · exact typed
  joined _ _ _ _ _ := trivial

/-- The built-in evaluators give values of the declared types. -/
theorem Registry.builtin_respects_typed : Registry.builtin.Respects Node.Typed fun _ => True := by
  intro graph each node member lines outputs evaluated
  refine (each.nodes node member).withData fun port output type _ holds declared => ?_
  have listed : port.name ∈ (node.dataPorts .output).map Port.name := List.mem_map_of_mem output
  rw [Fields.get, Node.get?_store, if_pos listed]
  cases given : outputs.get? port.name with
  | none =>
    rw [Option.none_or]
    exact holds
  | some value =>
    obtain ⟨template, found, admits⟩ := Registry.admits_output evaluated given
    exact admits type (declared template found)

/-- The action writes no output of a node by hand, in a session that has held the graphs: a node is
added as it was created, or with the data that it had in one of the graphs; values go under names
that are no data outputs, and runs are those of the built-in evaluators. -/
def EditorAction.Guarded (past : List Graph) (session : Session) : EditorAction → Prop
  | .add turn _ _ data => ∀ node, session.created[turn]? = some node →
      data = node.data ∨ ∃ graph ∈ past, ∃ held ∈ graph.nodes, held.Redraws node ∧ data = held.data
  | .setValue id name _ => ∀ node ∈ session.workspace.graph.nodes, node.id = id →
      name ∉ (node.dataPorts .output).map Port.name
  | .writeData .. => False
  | .openPreset _ => False
  | .run registry _ => registry = Registry.builtin
  | _ => True

namespace Session

/-- Every action of a sequence is guarded in the session in which it is done. -/
def Guarded (past : List Graph) (session : Session) : List EditorAction → Prop
  | [] => True
  | action :: rest => action.Guarded (session.workspace.graph :: past) session ∧
      (session.step action).Guarded (session.workspace.graph :: past) rest

namespace Each

variable {past : List Graph} {session : Session}

theorem respects_of_guarded (each : session.Each Node.Typed fun _ => True)
    (typed : ∀ graph ∈ past, graph.Each Node.Typed fun _ => True)
    {action : EditorAction} (guarded : action.Guarded past session) :
    action.Respects Node.Typed (fun _ => True) session := by
  cases action with
  | add turn x y data =>
    intro node found
    have made := each.made node (List.mem_of_getElem? found)
    rcases guarded node found with rfl | ⟨graph, inPast, held, member, redraws, rfl⟩
    · exact made.typed.redraw rfl rfl rfl
    · have ofHeld := (typed graph inPast).nodes held member
      exact (made.typed.getBack ofHeld redraws).redraw rfl rfl rfl
  | setValue id name value =>
    intro node member sameId
    exact (each.graph.nodes node member).accepts value (guarded node member sameId)
  | writeData => exact guarded.elim
  | openPreset => exact guarded.elim
  | run registry maxSteps =>
    obtain rfl := guarded
    exact Registry.builtin_respects_typed
  | _ => trivial

/-- Guarded actions keep all nodes typed. -/
theorem guarded {actions : List EditorAction} (each : session.Each Node.Typed fun _ => True)
    (typed : ∀ graph ∈ past, graph.Each Node.Typed fun _ => True)
    (guards : session.Guarded past actions) :
    (actions.foldl Session.step session).Each Node.Typed fun _ => True := by
  induction actions generalizing past session with
  | nil => exact each
  | cons action rest ih =>
    obtain ⟨first, others⟩ := guards
    have alsoNow : ∀ graph ∈ session.workspace.graph :: past,
        graph.Each Node.Typed fun _ => True := List.forall_mem_cons.2 ⟨each.graph, typed⟩
    exact ih (each.step lasting_typed (each.respects_of_guarded alsoNow first)) alsoNow others

end Each

end Session

/-! ## What inputs receive -/

namespace Graph

variable {graph : Graph} {made : List Node} {last : Nat}

/-- An input that is connected is fed by a data edge into it, if all edges are committed. -/
theorem exists_feed {ref : String} (committed : ∀ edge ∈ graph.edges, edge.isCommitted = true)
    (connected : (graph.edgesInto ref).any (fun edge => !edge.isExec) = true) :
    ∃ source, graph.feed? ref = some source ∧ ∃ edge ∈ graph.edges, edge.isExec = false ∧
      edge.source = .ref source ∧ edge.target = .ref ref := by
  have nonempty : graph.edges.filterMap (Edge.feeds? ref) ≠ [] := by
    obtain ⟨edge, into, data⟩ := List.any_eq_true.1 connected
    obtain ⟨member, atRef⟩ := List.mem_filter.1 into
    have bothEnds := committed edge member
    simp only [Edge.isCommitted, Bool.and_eq_true, Option.isSome_iff_exists] at bothEnds
    obtain ⟨⟨source, begins⟩, _⟩ := bothEnds
    have feeds : Edge.feeds? ref edge = some source := by
      rw [Edge.feeds?, data, atRef, begins]
      rfl
    exact List.ne_nil_of_mem (List.mem_filterMap.2 ⟨edge, member, feeds⟩)
  have last := List.getLast_mem nonempty
  obtain ⟨edge, member, feeds⟩ := List.mem_filterMap.1 last
  refine ⟨_, List.getLast?_eq_some_getLast nonempty, edge, member, ?_⟩
  unfold Edge.feeds? at feeds
  split at feeds
  · rename_i matched
    simp only [Bool.and_eq_true, Bool.not_eq_true', beq_iff_eq] at matched
    exact ⟨matched.1, Endpoint.eq_of_ref? feeds, Endpoint.eq_of_ref? matched.2⟩
  · cases feeds

theorem Sound.colon_not_mem (sound : graph.Sound made last) {node : Node}
    (member : node ∈ graph.nodes) : ':' ∉ node.id.toList := by
  obtain ⟨origin, inMade, redraws⟩ := sound.drawn node member
  exact redraws.id ▸ (sound.genuine origin inMade).colon_not_mem

/-- The node and the port at the end of an edge in a sound graph. -/
theorem Sound.end_eq (sound : graph.Sound made last) {node other : Node}
    (member : node ∈ graph.nodes) (inGraph : other ∈ graph.nodes) {port name : String}
    (same : Ref.make node.id port = Ref.make other.id name) : node = other ∧ port = name := by
  have clean := sound.colon_not_mem member
  have otherClean := sound.colon_not_mem inGraph
  have ids : node.id = other.id := by
    rw [← Ref.node_make port clean, same, Ref.node_make name otherClean]
  have names : port = name := by
    rw [← Ref.port_make port clean, same, Ref.port_make name otherClean]
  exact ⟨eq_of_id inGraph member ids, names⟩

/-- In a sound graph of typed nodes, an input that is connected holds a value of its type. -/
theorem Sound.admits_input (sound : graph.Sound made last)
    (each : graph.Each Node.Typed fun _ => True) {node : Node} (member : node ∈ graph.nodes)
    {port : Port} (input : port ∈ node.dataPorts .input)
    (connected : graph.isDataConnected node.id port.name = true) {type : PortType}
    (hasType : port.type = .text type.tag) :
    type.admits (graph.inputValue node port.name) = true := by
  have committed : ∀ edge ∈ graph.edges, edge.isCommitted = true :=
    fun edge member => (sound.wellFormed.edges edge member).1
  obtain ⟨ref, feeds, edge, inEdges, data, begins, ends⟩ := exists_feed committed connected
  obtain ⟨source, target, joins⟩ := sound.edges edge inEdges
  obtain ⟨origin, inGraph, hasSource, fromSource⟩ := joins.begins.owner
  obtain ⟨goal, inNodes, hasTarget, intoTarget⟩ := joins.ends.owner
  rw [begins] at fromSource
  rw [ends] at intoTarget
  -- The edge ends at the port itself, since names of ports are distinct.
  obtain ⟨rfl, sameName⟩ := sound.end_eq member inNodes (Endpoint.ref.inj intoTarget)
  have samePort : target = port :=
    List.inj_on_of_nodup_map (each.nodes node member).distinct hasTarget
      (List.mem_filter.1 input).1 sameName.symm
  have output : source ∈ origin.dataPorts .output := by
    refine List.mem_filter.2 ⟨hasSource, ?_⟩
    simp [Port.isData, Port.faces, joins.begins.placed, Value.isText, joins.leaves, data]
  obtain ⟨flows, sourceType, notAny, holds, _⟩ := (each.nodes origin inGraph).outputs source output
  have received : graph.inputValue node port.name = origin.data.get source.name := by
    have clean := sound.colon_not_mem inGraph
    rw [inputValue, feeds, Endpoint.ref.inj fromSource, Option.map_some, Option.getD_some,
      outputValue, Ref.node_make _ clean, Ref.port_make _ clean, node?_of_mem inGraph]
    rfl
  rw [received]
  have agree := joins.agree data
  rw [samePort, sourceType, hasType] at agree
  rcases agree with same | any | any
  · rwa [← PortType.tag_injective (Value.text.inj same)]
  · exact absurd (PortType.tag_injective (Value.text.inj any)) notAny
  · rw [PortType.tag_injective (Value.text.inj any)]
    rfl

end Graph

namespace Session

/-- At every visit of every run in a session of guarded actions, an input that is connected receives
a value of its type: a number port a number, a vector port three numbers, or either of them null. -/
theorem admits_inputs {ids : IdSource} {actions : List EditorAction}
    (guarded : (start ids).Guarded [] actions) {maxSteps : Int} {visits : List Visit}
    {moment : Moment} {id : String} {progress : Progress} {pending roots : List String}
    {node : Node} {port : Port} {type : PortType}
    (reaches : (after ids actions).workspace.graph.Reaches Registry.builtin maxSteps visits moment)
    (turn : moment.turn maxSteps = .enter id progress pending roots)
    (found : progress.graph.node? id = some node) (input : port ∈ node.dataPorts .input)
    (connected : progress.graph.isDataConnected node.id port.name = true)
    (hasType : port.type = .text type.tag) :
    ∃ value, (progress.graph.inputs node).get? port.name = some value ∧
      type.admits value = true := by
  have typed : (after ids actions).Each Node.Typed fun _ => True :=
    (each_start ids).guarded (by simp) guarded
  have each : progress.graph.Each Node.Typed fun _ => True := by
    rw [(Moment.frame_of_turn_enter turn).1]
    exact reaches.each Registry.builtin_respects_typed typed.graph
  obtain ⟨_, made, _, sound⟩ := sound_after ids actions
  have now : progress.graph.Sound made (after ids actions).workspace.ids.last := by
    rw [(Moment.frame_of_turn_enter turn).1]
    exact sound.sameShape reaches.sameShape
  have listed : port.name ∈ (node.dataPorts .input).map Port.name := List.mem_map_of_mem input
  refine ⟨_, ?_, now.admits_input each (Graph.mem_of_node? found) input connected hasType⟩
  rw [Graph.get?_inputs, if_pos listed]

/-- A start node is followed by a node that adds its own sum to a number. -/
def selfAdding : List EditorAction :=
  [.create "start" (.int 0) (.int 0), .create "add" (.int 0) (.int 0),
   .add 0 (Node.coordinate 0) (Node.coordinate 0) Template.start.defaults,
   .add 1 (Node.coordinate 0) (Node.coordinate 0) Template.add.defaults,
   .connect "node_1:execOut" "node_3:execIn", .connect "node_3:out" "node_3:a"]

theorem guarded_selfAdding : (start ⟨0⟩).Guarded [] selfAdding := by
  have created : (start ⟨0⟩).Guarded [] (selfAdding.take 2) := ⟨trivial, trivial, trivial⟩
  have each : (after ⟨0⟩ (selfAdding.take 2)).Each Node.Typed fun _ => True :=
    (each_start ⟨0⟩).guarded (by simp) created
  have untouched : ∀ (turn : Nat) (template : Template), template ∈ Template.all →
      ((after ⟨0⟩ (selfAdding.take 2)).created[turn]?).map Node.kind = some template.kind →
        ∀ node, (after ⟨0⟩ (selfAdding.take 2)).created[turn]? = some node →
          template.defaults = node.data := by
    intro turn template listed kind node found
    have made := each.made node (List.mem_of_getElem? found)
    rw [found] at kind
    have sameKind : node.kind = template.kind := Option.some.inj kind
    exact (made.data_eq (sameKind ▸ Template.find?_kind listed)).symm
  refine ⟨trivial, trivial, ?_, ?_, trivial, trivial, trivial⟩
  · intro node found
    exact .inl (untouched 0 .start (by simp [Template.all]) (by decide +kernel) node found)
  · intro node found
    have earlier := (created_add _ 0 _ _ _) ▸ found
    exact .inl (untouched 1 .add (by simp [Template.all]) (by decide +kernel) node earlier)

/-- The sum is null when it arrives for the first time. -/
theorem selfAdding_admits : ∃ visits moment progress node port value,
    (after ⟨0⟩ selfAdding).workspace.graph.Reaches Registry.builtin 1 visits moment ∧
      moment.turn 1 = .enter "node_3" progress [] [] ∧
      progress.graph.node? "node_3" = some node ∧ port ∈ node.dataPorts .input ∧
      progress.graph.isDataConnected node.id port.name = true ∧
      port.type = .text PortType.number.tag ∧
      (progress.graph.inputs node).get? port.name = some value ∧
      PortType.number.admits value = true := by
  have roots : (after ⟨0⟩ selfAdding).workspace.graph.roots = ["node_1"] := by decide +kernel
  have follows : (after ⟨0⟩ selfAdding).workspace.graph.successors "node_1" = ["node_3"] := by
    decide +kernel
  have kinds : ((after ⟨0⟩ selfAdding).workspace.graph.node? "node_1").map Node.kind =
      some "start" := by decide +kernel
  have inputs : ((after ⟨0⟩ selfAdding).workspace.graph.node? "node_3").any (fun node =>
      (node.dataPorts .input).any fun port =>
        port.name == "a" && port.type.isText PortType.number.tag) = true := by decide +kernel
  have connected : (after ⟨0⟩ selfAdding).workspace.graph.isDataConnected "node_3" "a" = true := by
    decide +kernel
  have admits := @admits_inputs ⟨0⟩ selfAdding guarded_selfAdding
  generalize (after ⟨0⟩ selfAdding).workspace.graph = graph at *
  obtain ⟨root, found, isStart⟩ := Option.map_eq_some_iff.1 kinds
  obtain ⟨node, present, ofNode⟩ := (Option.any_eq_true _ _).1 inputs
  obtain ⟨port, input, ofPort⟩ := List.any_eq_true.1 ofNode
  have rootId := Graph.id_of_node? found
  have nodeId := Graph.id_of_node? present
  have enters : Moment.turn 1 ⟨Run.begin graph, [], graph.roots⟩ =
      .enter "node_1" (Run.begin graph) [] [] := by
    rw [roots]
    rfl
  have evaluated : Registry.builtin.evaluate root (graph.inputs root) = ⟨[], .ok []⟩ := by
    rw [Registry.evaluate, isStart]
    rfl
  have reaches := Graph.Reaches.visit .begin enters found evaluated
  rw [show (Run.begin graph).graph.successors "node_1" = ["node_3"] from follows] at reaches
  have different : ¬ node.id = root.id := by
    rw [nodeId, rootId]
    decide
  have stays : (((Run.begin graph).entered root []).stored root []).graph.node? "node_3" =
      some node := by
    show (graph.changeData root.id (root.store [])).node? "node_3" = some node
    rw [Graph.changeData, Graph.node?_mapNodes, present, Option.map_some, if_neg different]
  simp only [Bool.and_eq_true, beq_iff_eq] at ofPort
  have hasType : port.type = .text PortType.number.tag := Value.isText_iff.1 ofPort.2
  have isConnected : (((Run.begin graph).entered root []).stored root []).graph.isDataConnected
      node.id port.name = true := by
    rw [nodeId, ofPort.1]
    exact connected
  obtain ⟨value, received, admitted⟩ := admits reaches rfl stays input isConnected hasType
  exact ⟨_, _, _, node, port, value, reaches, rfl, stays, input, isConnected, hasType, received,
    admitted⟩

end Session

end NodeFlow
