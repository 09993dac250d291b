import NodeFlow.Graph.Grouping
import NodeFlow.Proofs.Ident
import Mathlib.Data.List.Lattice
import Mathlib.Data.List.Nodup
import Mathlib.Data.List.Pairwise
import Mathlib.Data.List.Perm.Basic

/-!
# Well-formed graphs

What holds of every graph that an editor can bring about, and the stronger invariant from which it
follows. The invariant compares the graph with a list of all nodes that were ever made, removed
ones included: it says that what is in the graph is drawn from that list, so that ids which are
distinct there are distinct in the graph. Main statements: the invariant implies that the graph is
well-formed, and it survives every change that takes parts away or redraws nodes.
-/

namespace NodeFlow

/-! ## Well-formed graphs -/

/-- The end of an edge refers to a port of one of the nodes, which stands on the side. -/
structure Endpoint.NamesPort (nodes : List Node) (side : Direction) (endpoint : Endpoint)
    (port : Port) : Prop where
  owner : ∃ node ∈ nodes, port ∈ node.ports ∧ endpoint = .ref (Ref.make node.id port.name)
  placed : port.direction = .text side.tag

/-- An edge joins an output port with an input port, and data ports only if their types agree. -/
structure Edge.Joins (nodes : List Node) (edge : Edge) (source target : Port) : Prop where
  begins : edge.source.NamesPort nodes .output source
  ends : edge.target.NamesPort nodes .input target
  leaves : source.isExec = edge.isExec
  enters : target.isExec = edge.isExec
  agree : edge.isExec = false →
    source.type = target.type ∨ source.type = .text PortType.any.tag ∨
      target.type = .text PortType.any.tag

/-- The members of a group: at least one, each once, and each a node that is no group. -/
structure Node.Encloses (nodes : List Node) (group : Node) : Prop where
  nonempty : group.members ≠ []
  distinct : group.members.Nodup
  present : ∀ id ∈ group.members, ∃ node ∈ nodes, node.id = id ∧ node.isGroup = false

/-- All ids of a graph are distinct, its edges join ports of its nodes, groups come first, and
groups enclose nodes. -/
structure Graph.WellFormed (graph : Graph) : Prop where
  distinct : (graph.nodes.map Node.id ++ graph.nodes.flatMap (·.ports.map Port.id) ++
    graph.edges.map Edge.id).Nodup
  edges : ∀ edge ∈ graph.edges, edge.isCommitted = true ∧ ∃ source target,
    edge.Joins graph.nodes source target
  groupsFirst : graph.nodes.Pairwise fun earlier later =>
    later.isGroup = true → earlier.isGroup = true
  groups : ∀ group ∈ graph.groups, group.Encloses graph.nodes

/-! ## Nodes as they were made -/

/-- A port as it is made: it has a name, an owner, a type and a side. -/
structure Port.Genuine (port : Port) : Prop where
  named : port.name ≠ ""
  owned : port.owner.isNull = false
  typed : ∃ type : PortType, port.type = .text type.tag
  placed : ∃ side : Direction, port.direction = .text side.tag

/-- A node as it is made: its id is generated, its ports are genuine, and groups have none. -/
structure Node.Genuine (node : Node) : Prop where
  generated : ∃ number, node.id = IdSource.generated "node" number
  ports : ∀ port ∈ node.ports, port.Genuine
  group : node.isGroup = true → node.ports = []

namespace Node

/-- The ids of a node and of its ports. -/
def marks (node : Node) : List String :=
  node.id :: node.ports.map Port.id

/-- The node differs from another one at most in its drawing, its data and its members. -/
structure Redraws (node origin : Node) : Prop where
  id : node.id = origin.id
  ports : node.ports = origin.ports
  isGroup : node.isGroup = origin.isGroup

theorem Redraws.refl (node : Node) : node.Redraws node := ⟨rfl, rfl, rfl⟩

theorem Redraws.trans {node middle origin : Node} (first : node.Redraws middle)
    (second : middle.Redraws origin) : node.Redraws origin :=
  ⟨first.id.trans second.id, first.ports.trans second.ports, first.isGroup.trans second.isGroup⟩

theorem Redraws.marks {node origin : Node} (redraws : node.Redraws origin) :
    node.marks = origin.marks := by
  rw [Node.marks, Node.marks, redraws.id, redraws.ports]

theorem Redraws.genuine {node origin : Node} (redraws : node.Redraws origin)
    (genuine : origin.Genuine) : node.Genuine where
  generated := redraws.id ▸ genuine.generated
  ports := redraws.ports ▸ genuine.ports
  group := redraws.ports ▸ redraws.isGroup ▸ genuine.group

theorem Genuine.colon_not_mem {node : Node} (genuine : node.Genuine) : ':' ∉ node.id.toList := by
  obtain ⟨number, shape⟩ := genuine.generated
  rw [shape]
  exact IdSource.colon_not_mem_generated (by decide) number

theorem Genuine.claimPorts_eq {node : Node} (genuine : node.Genuine) : node.claimPorts = node := by
  have same : node.ports.map (fun port =>
      if port.owner.isNull then { port with owner := .text node.id } else port) = node.ports := by
    rw [List.map_congr_left, List.map_id]
    intro port member
    have owned := (genuine.ports port member).owned
    simp [owned]
  unfold claimPorts
  rw [same]

end Node

namespace Port

/-- Between genuine ports an edge is legal only as `Edge.Joins` has it. -/
theorem Genuine.types_of_compatible {source target : Port} (genuineSource : source.Genuine)
    (genuineTarget : target.Genuine) (compatible : source.compatible target = true) :
    source.type = target.type ∨ source.type = .text PortType.any.tag ∨
      target.type = .text PortType.any.tag := by
  obtain ⟨sourceType, sourceTyped⟩ := genuineSource.typed
  obtain ⟨targetType, targetTyped⟩ := genuineTarget.typed
  unfold Port.compatible at compatible
  rw [sourceTyped, targetTyped] at compatible ⊢
  simp only [Value.isText, Value.same, Bool.or_eq_true, beq_iff_eq] at compatible
  rcases compatible with (sourceAny | targetAny) | equal
  · exact .inr (.inl (congrArg Value.text sourceAny))
  · exact .inr (.inr (congrArg Value.text targetAny))
  · exact .inl (congrArg Value.text equal.symm)

/-- A port that faces a side stands on it. -/
theorem direction_of_faces {port : Port} {side : Direction}
    (faces : port.faces side.tag = true) : port.direction = .text side.tag :=
  Value.isText_iff.1 faces

end Port

/-! ## The invariant -/

/-- The graph is well-formed and drawn from nodes that were made, and all ids have numbers that
were issued. -/
structure Graph.Sound (made : List Node) (last : Nat) (graph : Graph) : Prop where
  genuine : ∀ node ∈ made, node.Genuine
  distinct : (made.flatMap Node.marks ++ graph.edges.map Edge.id).Nodup
  issued : ∀ id ∈ made.flatMap Node.marks ++ graph.edges.map Edge.id, IdSource.number id ≤ last
  drawn : ∀ node ∈ graph.nodes, ∃ origin ∈ made, node.Redraws origin
  edges : ∀ edge ∈ graph.edges, ∃ source target, edge.Joins graph.nodes source target
  groupsFirst : graph.nodes.Pairwise fun earlier later =>
    later.isGroup = true → earlier.isGroup = true
  groups : ∀ group ∈ graph.nodes, group.isGroup = true → group.Encloses graph.nodes

namespace Graph

/-- Nodes of distinct ids that are drawn from made nodes have distinct marks. -/
private theorem nodup_marks {made nodes : List Node} (distinct : (nodes.map Node.id).Nodup)
    (drawn : ∀ node ∈ nodes, ∃ origin ∈ made, node.Redraws origin)
    (unique : (made.flatMap Node.marks).Nodup) : (nodes.flatMap Node.marks).Nodup := by
  obtain ⟨single, apart⟩ := List.nodup_flatMap.1 unique
  rw [List.nodup_flatMap]
  constructor
  · intro node member
    obtain ⟨origin, inMade, redraws⟩ := drawn node member
    rw [redraws.marks]
    exact single origin inMade
  · have ids := List.pairwise_map.1 distinct
    refine ids.imp_of_mem ?_
    intro first second inFirst inSecond different
    obtain ⟨origin, fromMade, redraws⟩ := drawn first inFirst
    obtain ⟨other, otherMade, otherRedraws⟩ := drawn second inSecond
    have differ : origin ≠ other := by
      intro same
      apply different
      rw [redraws.id, otherRedraws.id, same]
    have symmetric : Std.Symm (Function.onFun List.Disjoint Node.marks) :=
      ⟨fun _ _ disjoint => disjoint.symm⟩
    have disjoint := apart.forall fromMade otherMade differ
    unfold Function.onFun at disjoint ⊢
    rw [redraws.marks, otherRedraws.marks]
    exact disjoint

namespace Sound

variable {made : List Node} {last : Nat} {graph after : Graph}

theorem mark_mem (sound : graph.Sound made last) {node : Node} (member : node ∈ graph.nodes)
    {id : String} (mark : id ∈ node.marks) : id ∈ made.flatMap Node.marks := by
  obtain ⟨origin, inMade, redraws⟩ := sound.drawn node member
  rw [redraws.marks] at mark
  exact List.mem_flatMap.2 ⟨origin, inMade, mark⟩

/-- What is sound is well-formed. -/
theorem wellFormed (sound : graph.Sound made last) : graph.WellFormed where
  distinct := by
    have order := List.map_append_flatMap_perm graph.nodes Node.id (·.ports.map Port.id)
    rw [(order.append_right _).nodup_iff, List.nodup_append]
    obtain ⟨ofMade, ofEdges, apart⟩ := List.nodup_append.1 sound.distinct
    refine ⟨nodup_marks graph.distinct sound.drawn ofMade, ofEdges, ?_⟩
    intro mark inNodes id inEdges
    obtain ⟨node, member, isMark⟩ := List.mem_flatMap.1 inNodes
    exact apart mark (sound.mark_mem member isMark) id inEdges
  edges := by
    intro edge member
    obtain ⟨source, target, joins⟩ := sound.edges edge member
    refine ⟨?_, source, target, joins⟩
    obtain ⟨_, _, _, begins⟩ := joins.begins.owner
    obtain ⟨_, _, _, ends⟩ := joins.ends.owner
    simp [Edge.isCommitted, begins, ends, Endpoint.ref?]
  groupsFirst := sound.groupsFirst
  groups := by
    intro group member
    have ⟨inNodes, isGroup⟩ := List.mem_filter.1 member
    exact sound.groups group inNodes isGroup

/-- Nothing is lost when the counter advances. -/
theorem advance (sound : graph.Sound made last) {later : Nat} (forward : last ≤ later) :
    graph.Sound made later :=
  { sound with issued := fun id member => Nat.le_trans (sound.issued id member) forward }

/-- An end of an edge still names its port if the node at which it lies is still there. -/
private theorem namesPort_after (sound : graph.Sound made last) {endpoint : Endpoint} {port : Port}
    {side : Direction} (names : endpoint.NamesPort graph.nodes side port)
    (stays : ∀ node ∈ graph.nodes, node.isGroup = false → endpoint.node? = some node.id →
      ∃ other ∈ after.nodes, other.Redraws node) : endpoint.NamesPort after.nodes side port := by
  obtain ⟨node, member, hasPort, reference⟩ := names.owner
  obtain ⟨origin, inMade, redraws⟩ := sound.drawn node member
  have genuine := sound.genuine origin inMade
  have clean : ':' ∉ node.id.toList := redraws.id ▸ genuine.colon_not_mem
  have plain : node.isGroup = false := by
    rw [redraws.isGroup]
    cases isGroup : origin.isGroup with
    | false => rfl
    | true =>
      rw [redraws.ports, genuine.group isGroup] at hasPort
      cases hasPort
  have lies : endpoint.node? = some node.id := by
    rw [reference, Endpoint.node?, Ref.node_make _ clean]
  obtain ⟨other, otherMember, otherRedraws⟩ := stays node member plain lies
  refine ⟨⟨other, otherMember, ?_, ?_⟩, names.placed⟩
  · rw [otherRedraws.ports]
    exact hasPort
  · rw [otherRedraws.id]
    exact reference

/-- An edge still joins its ports if the nodes at its ends are still there. -/
theorem joins_after (sound : graph.Sound made last) {edge : Edge} {source target : Port}
    (joins : edge.Joins graph.nodes source target)
    (stays : ∀ node ∈ graph.nodes, node.isGroup = false → edge.touches node.id = true →
      ∃ other ∈ after.nodes, other.Redraws node) : edge.Joins after.nodes source target where
  begins := by
    refine sound.namesPort_after joins.begins fun node member plain lies => ?_
    exact stays node member plain (by simp [Edge.touches, lies])
  ends := by
    refine sound.namesPort_after joins.ends fun node member plain lies => ?_
    exact stays node member plain (by simp [Edge.touches, lies])
  leaves := joins.leaves
  enters := joins.enters
  agree := joins.agree

/-- A graph with fewer edges, and with nodes that redraw those of a sound graph, is sound if the
nodes at its edges, the order of its groups and their members are as they should be. -/
theorem shrink (sound : graph.Sound made last) (fewer : after.edges.Sublist graph.edges)
    (redrawn : ∀ node ∈ after.nodes, ∃ origin ∈ graph.nodes, node.Redraws origin)
    (stays : ∀ edge ∈ after.edges, ∀ node ∈ graph.nodes, node.isGroup = false →
      edge.touches node.id = true → ∃ other ∈ after.nodes, other.Redraws node)
    (groupsFirst : after.nodes.Pairwise fun earlier later =>
      later.isGroup = true → earlier.isGroup = true)
    (groups : ∀ group ∈ after.nodes, group.isGroup = true → group.Encloses after.nodes) :
    after.Sound made last where
  genuine := sound.genuine
  distinct := sound.distinct.sublist ((fewer.map Edge.id).append_left _)
  issued := by
    intro id member
    exact sound.issued id (((fewer.map Edge.id).append_left _).subset member)
  drawn := by
    intro node member
    obtain ⟨middle, inGraph, first⟩ := redrawn node member
    obtain ⟨origin, inMade, second⟩ := sound.drawn middle inGraph
    exact ⟨origin, inMade, first.trans second⟩
  edges := by
    intro edge member
    obtain ⟨source, target, joins⟩ := sound.edges edge (fewer.subset member)
    exact ⟨source, target, sound.joins_after joins (stays edge member)⟩
  groupsFirst := groupsFirst
  groups := groups

end Sound

end Graph

end NodeFlow
