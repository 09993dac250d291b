import NodeFlow.Proofs.Graph.Removal
import NodeFlow.Proofs.Run.ExecWalks
import NodeFlow.Proofs.Session.Drawing

/-!
# Nodes that runs can do without

A run comes to the nodes at the ends of exec walks, and of the other nodes it reads only those from
which the last data edge into an input of such a node begins. Main statement: all other nodes can be
removed, together with their edges and with the groups that this empties, and runs log, visit and
count the same, end in the same way, and leave the same data in what is left.
-/

namespace NodeFlow

namespace Graph

variable {graph : Graph} {dead : List String} {made : List Node} {last : Nat}

/-- An exec walk ends at the node. -/
def Reachable (graph : Graph) (id : String) : Prop :=
  ∃ root ∈ graph.roots, ∃ places, graph.Chain root places id

/-- Runs can do without the nodes: no exec walk ends at one of them, and no last data edge into a
data input of a node at which one ends begins at one of them. -/
structure Dispensable (graph : Graph) (dead : List String) : Prop where
  unreached : ∀ id ∈ dead, ¬ graph.Reachable id
  unread : ∀ node ∈ graph.nodes, graph.Reachable node.id → ∀ port ∈ node.dataPorts .input,
    ∀ edge, graph.lastDataEdge? (Ref.make node.id port.name) = some edge →
      ∀ id ∈ dead, edge.source.node? ≠ some id

/-! ## Reaching -/

theorem reachable_of_root {id : String} (root : id ∈ graph.roots) : graph.Reachable id :=
  ⟨id, root, [], .nil id⟩

/-- An exec edge leads from a node of the graph. -/
theorem Sound.contains_of_successor (sound : graph.Sound made last) {id next : String}
    (listed : next ∈ graph.successors id) : graph.contains id = true := by
  obtain ⟨edge, member, follows⟩ := List.mem_filterMap.1 listed
  obtain ⟨_, _, begins, _⟩ := Edge.follows?_eq_some_iff.1 follows
  have refers : graph.Refers (.edge edge) id := ⟨member, by simp [Edge.touches, begins]⟩
  exact List.contains_iff_mem.2 (sound.refers refers)

theorem Reachable.follow {id next : String} (reached : graph.Reachable id)
    (present : graph.contains id = true) (follows : next ∈ graph.successors id) :
    graph.Reachable next := by
  obtain ⟨root, isRoot, places, chain⟩ := reached
  obtain ⟨edge, member, leads⟩ := List.mem_filterMap.1 follows
  obtain ⟨place, here⟩ := List.mem_iff_getElem?.1 member
  have step : graph.ExecEdgeAt place id next := by
    rw [execEdgeAt_iff, here]
    exact leads
  exact ⟨root, isRoot, _, chain.append (.cons present step (.nil next))⟩

/-- What holds of the start nodes and goes from a node to those that follow it holds of all nodes
that are reached. -/
theorem Reachable.closed {id : String} (reached : graph.Reachable id) (holds : String → Prop)
    (roots : ∀ root ∈ graph.roots, holds root)
    (onward : ∀ id next, holds id → next ∈ graph.successors id → holds next) : holds id := by
  obtain ⟨root, isRoot, places, chain⟩ := reached
  have first := roots root isRoot
  clear isRoot
  induction chain with
  | nil => exact first
  | @cons id next _ place _ _ edge _ ih =>
    refine ih (onward id next first ?_)
    obtain ⟨edge, here, leads⟩ := Option.bind_eq_some_iff.1 (execEdgeAt_iff.1 edge)
    exact List.mem_filterMap.2 ⟨edge, List.mem_of_getElem? here, leads⟩

/-- A list of nodes holds all that are reached if it holds the start nodes and with each of its
nodes those that follow. So to look at such a list is enough to see that others are dispensable. -/
theorem dispensable_of_closed (live : List String) (roots : ∀ root ∈ graph.roots, root ∈ live)
    (onward : ∀ id ∈ live, ∀ next ∈ graph.successors id, next ∈ live)
    (apart : ∀ id ∈ dead, id ∉ live)
    (unread : ∀ node ∈ graph.nodes, node.id ∈ live → ∀ port ∈ node.dataPorts .input, ∀ id ∈ dead,
      (graph.lastDataEdge? (Ref.make node.id port.name)).bind (·.source.node?) ≠ some id) :
    graph.Dispensable dead := by
  have within : ∀ {id}, graph.Reachable id → id ∈ live := fun reached =>
    reached.closed (· ∈ live) roots fun id next inLive => onward id inLive next
  refine ⟨fun id named reached => apart id named (within reached), ?_⟩
  intro node member reached port declared edge last id named source
  exact unread node member (within reached) port declared id named (by rw [last]; exact source)

/-! ## What a removal leaves alone -/

/-- To remove nodes and to write data may be done in either order. -/
theorem removeNodes_changeData (graph : Graph) (id : String) (change : Fields → Fields)
    (dead : List String) :
    (graph.changeData id change).removeNodes dead =
      (graph.removeNodes dead).changeData id change := by
  refine eq_of_parts ?_ rfl
  show ((graph.nodes.map _).filter (Node.survives dead)).map (Node.prune dead) =
    ((graph.nodes.filter (Node.survives dead)).map (Node.prune dead)).map _
  rw [List.filter_map, List.map_map, List.map_map]
  refine congr (congrArg List.map (funext fun node => ?_))
    (List.filter_congr fun node _ => ?_)
  · have sameId := (Node.redraws_prune dead node).id
    by_cases written : node.id = id
    · simp only [Function.comp_apply, if_pos written, if_pos (sameId.trans written)]
      rw [Node.prune_withData, Node.data_prune]
    · simp only [Function.comp_apply, if_neg written, if_neg (sameId ▸ written)]
  · simp only [Function.comp_apply]
    split <;> rfl

/-- If the last one is kept it is the last one of those that are kept. -/
theorem getLast?_filter_of_kept {α : Type} {items : List α} {keep : α → Bool}
    (kept : ∀ item, items.getLast? = some item → keep item = true) :
    (items.filter keep).getLast? = items.getLast? := by
  rcases List.eq_nil_or_concat' items with rfl | ⟨earlier, item, rfl⟩
  · rfl
  · have last := kept item List.getLast?_concat
    rw [List.filter_append, List.filter_cons_of_pos last, List.filter_nil, List.getLast?_concat,
      List.getLast?_concat]

theorem lastDataEdge?_removeNodes {ref : String}
    (kept : ∀ edge, graph.lastDataEdge? ref = some edge → ∀ id ∈ dead, edge.touches id = false) :
    (graph.removeNodes dead).lastDataEdge? ref = graph.lastDataEdge? ref := by
  show ((graph.edges.filter fun edge => !dead.any edge.touches).filter _).getLast? = _
  rw [List.filter_comm]
  refine getLast?_filter_of_kept fun edge last => ?_
  simpa using kept edge last

/-- An exec edge between nodes that are not removed is kept. -/
theorem successors_removeNodes {id : String} (alive : id ∉ dead)
    (onward : ∀ next ∈ graph.successors id, next ∉ dead) :
    (graph.removeNodes dead).successors id = graph.successors id := by
  show (graph.edges.filter fun edge => !dead.any edge.touches).filterMap _ = _
  rw [List.filterMap_filter]
  refine List.filterMap_congr fun edge member => ?_
  cases follows : edge.follows? id with
  | none => exact ite_self none
  | some next =>
    have untouched : dead.any edge.touches = false := by
      rw [List.any_eq_false]
      intro other named touches
      have listed := onward next (List.mem_filterMap.2 ⟨edge, member, follows⟩)
      obtain ⟨_, _, begins, ends⟩ := Edge.follows?_eq_some_iff.1 follows
      simp only [Edge.touches, begins, ends, Bool.or_eq_true, beq_iff_eq,
        Option.some.injEq] at touches
      rcases touches with rfl | rfl
      · exact alive named
      · exact listed named
    simp [untouched]

/-! ## What a run sees of what is left -/

/-- No node that is reached is a group. -/
theorem Sound.plain_of_reachable (sound : graph.Sound made last)
    (wellKinded : ∀ node ∈ graph.nodes, node.WellKinded) {node : Node}
    (reached : graph.Reachable node.id) (member : node ∈ graph.nodes) : node.isGroup = false := by
  refine reached.closed (fun id => ∀ node ∈ graph.nodes, node.id = id → node.isGroup = false)
    ?_ ?_ node member rfl
  · exact fun root listed _ inGraph same => plain_of_root wellKinded listed inGraph same
  · exact fun id next _ listed _ inGraph same => sound.plain_of_successor listed inGraph same

theorem node?_removeNodes_of_plain {id : String} {node : Node} (found : graph.node? id = some node)
    (plain : node.isGroup = false) (alive : id ∉ dead) :
    (graph.removeNodes dead).node? id = some node := by
  have survives := Node.survives_of_plain plain (id_of_node? found ▸ alive)
  rw [node?_removeNodes, found, Option.filter_some_pos survives, Option.map_some,
    Node.prune_of_plain dead plain]

theorem exists_node?_of_removeNodes {id : String} {left : Node}
    (found : (graph.removeNodes dead).node? id = some left) :
    ∃ node, graph.node? id = some node ∧ left.data = node.data := by
  rw [node?_removeNodes] at found
  obtain ⟨node, survivor, rfl⟩ := Option.map_eq_some_iff.1 found
  exact ⟨node, (Option.filter_eq_some_iff.1 survivor).1, Node.data_prune dead node⟩

/-- The last data edge into a node that stays is kept if it begins at a node that stays. -/
theorem Sound.lastDataEdge?_removeNodes_of_alive (sound : graph.Sound made last) {node : Node}
    (member : node ∈ graph.nodes) (alive : node.id ∉ dead) {port : String}
    (unread : ∀ edge, graph.lastDataEdge? (Ref.make node.id port) = some edge →
      ∀ id ∈ dead, edge.source.node? ≠ some id) :
    (graph.removeNodes dead).lastDataEdge? (Ref.make node.id port) =
      graph.lastDataEdge? (Ref.make node.id port) := by
  refine lastDataEdge?_removeNodes fun edge last id named => ?_
  have into := (List.mem_filter.1 (List.mem_of_getLast? last)).2
  simp only [Bool.and_eq_true, beq_iff_eq] at into
  have ends : edge.target.node? = some node.id := by
    rw [Endpoint.eq_of_ref? into.2, Endpoint.node?, Ref.node_make _ (sound.colon_not_mem member)]
  have begins := unread edge last id named
  have other : node.id ≠ id := fun same => alive (same ▸ named)
  simp [Edge.touches, ends, begins, other]

theorem Sound.outputValue_removeNodes (sound : graph.Sound made last) {input ref : String}
    (feed : graph.feed? input = some ref) (alive : Ref.node ref ∉ dead) :
    (graph.removeNodes dead).outputValue ref = graph.outputValue ref := by
  rw [outputValue, outputValue]
  cases found : graph.node? (Ref.node ref) with
  | none =>
    rw [node?_removeNodes, found]
    rfl
  | some source => rw [node?_removeNodes_of_plain found (sound.plain_of_feed feed found) alive]

/-- A node receives the same inputs if the last data edges into them begin at nodes that are not
removed. -/
theorem Sound.inputs_removeNodes (sound : graph.Sound made last) {node : Node}
    (member : node ∈ graph.nodes) (alive : node.id ∉ dead)
    (unread : ∀ port ∈ node.dataPorts .input, ∀ edge,
      graph.lastDataEdge? (Ref.make node.id port.name) = some edge →
        ∀ id ∈ dead, edge.source.node? ≠ some id) :
    (graph.removeNodes dead).inputs node = graph.inputs node := by
  refine inputs_congr rfl fun name declared => ?_
  obtain ⟨port, isInput, rfl⟩ := List.mem_map.1 declared
  have sameEdge := sound.lastDataEdge?_removeNodes_of_alive member alive (unread port isInput)
  rw [inputValue, inputValue, feed?_eq, sameEdge, ← feed?_eq]
  cases feed : graph.feed? (Ref.make node.id port.name) with
  | none => rfl
  | some ref =>
    have alive : Ref.node ref ∉ dead := by
      rw [feed?_eq] at feed
      obtain ⟨edge, last, begins⟩ := Option.bind_eq_some_iff.1 feed
      intro named
      refine unread port isInput edge last _ named ?_
      rw [Endpoint.eq_of_ref? begins, Endpoint.node?]
    rw [Option.map_some, Option.map_some, Option.getD_some, Option.getD_some,
      sound.outputValue_removeNodes feed alive]

/-- Start nodes stay where they are. -/
theorem roots_removeNodes (wellKinded : ∀ node ∈ graph.nodes, node.WellKinded)
    (alive : ∀ root ∈ graph.roots, root ∉ dead) :
    (graph.removeNodes dead).roots = graph.roots := by
  have kind : (fun node : Node => node.kind == "start") ∘ Node.prune dead =
      fun node => node.kind == "start" := by
    funext node
    simp only [Function.comp_apply, Node.prune]
    split <;> rfl
  show (((graph.nodes.filter (Node.survives dead)).map (Node.prune dead)).filter _).map _ = _
  rw [List.filter_map, List.map_map, kind, List.filter_comm, roots]
  have survives : ∀ node ∈ graph.nodes.filter (·.kind == "start"), node.survives dead = true := by
    intro node isRoot
    have listed := List.mem_map_of_mem (f := Node.id) isRoot
    have plain := plain_of_root wellKinded listed (List.mem_filter.1 isRoot).1 rfl
    exact Node.survives_of_plain plain (alive node.id listed)
  rw [List.filter_eq_self.2 survives]
  exact List.map_congr_left fun node _ => (Node.redraws_prune dead node).id

/-- What is left shows all that runs see of the graph. -/
theorem Sound.seenBy_removeNodes (sound : graph.Sound made last)
    (wellKinded : ∀ node ∈ graph.nodes, node.WellKinded) (dispensable : graph.Dispensable dead)
    (registry : Registry) : graph.SeenBy registry graph.Reachable (·.removeNodes dead) where
  changeData now id change := removeNodes_changeData now id change dead
  roots := roots_removeNodes wellKinded fun root listed named =>
    dispensable.unreached root named (reachable_of_root listed)
  start _ := reachable_of_root
  follow id reached next listed := reached.follow (sound.contains_of_successor listed) listed
  successors {now id} shape reached := by
    refine successors_removeNodes (fun named => dispensable.unreached id named reached) ?_
    intro next listed named
    rw [shape.successors] at listed
    exact dispensable.unreached next named
      (reached.follow (sound.contains_of_successor listed) listed)
  missing absent := by
    rw [node?_removeNodes, absent]
    rfl
  node {now id node} shape reached found := by
    have alive : id ∉ dead := fun named => dispensable.unreached id named reached
    obtain ⟨origin, inGraph, alike⟩ := shape.exists_node? found
    have sameId : origin.id = id := id_of_node? inGraph
    have plain : node.isGroup = false := by
      rw [← Node.view_eq alike Node.isGroup fun _ => rfl]
      exact sound.plain_of_reachable wellKinded (sameId ▸ reached) (mem_of_node? inGraph)
    refine ⟨node, node?_removeNodes_of_plain found plain alive, ⟨rfl, rfl, rfl, rfl, fun _ => rfl⟩,
      ?_⟩
    obtain rfl := id_of_node? found
    refine (sound.sameShape shape).inputs_removeNodes (mem_of_node? found) alive ?_
    intro port isInput edge last
    have ports := Node.view_eq alike (fun node => node.dataPorts .input) fun _ => rfl
    refine dispensable.unread origin (mem_of_node? inGraph) (sameId ▸ reached) port
      (ports ▸ isInput) edge ?_
    rw [sameId, ← last, lastDataEdge?, lastDataEdge?, shape.edges]

end Graph

namespace Session

variable {dead : List String}

/-- What a run of the graph without the nodes leaves is what a run of the graph leaves, without
them. -/
theorem run_removeNodes (ids : IdSource) (actions : List EditorAction)
    (dispensable : (after ids actions).workspace.graph.Dispensable dead) (registry : Registry)
    (maxSteps : Int) :
    Run.SameCourse ((after ids actions).workspace.graph.run registry maxSteps)
        (((after ids actions).workspace.graph.removeNodes dead).run registry maxSteps) ∧
      (Run.progressOf
        (((after ids actions).workspace.graph.removeNodes dead).run registry maxSteps)).graph =
        (Run.progressOf
          ((after ids actions).workspace.graph.run registry maxSteps)).graph.removeNodes dead := by
  obtain ⟨_, _, _, sound⟩ := sound_after ids actions
  have wellKinded := (wellKinded_after ids actions).graph.nodes
  exact (sound.seenBy_removeNodes wellKinded dispensable registry).run maxSteps

/-- Whatever was done in a session, if runs can do without some nodes of its graph and these are
removed, then a run logs, visits and counts the same and ends in the same way as before, and every
node that is left ends with the same data. -/
theorem run_without_dead (ids : IdSource) (actions : List EditorAction)
    (dispensable : (after ids actions).workspace.graph.Dispensable dead) (registry : Registry)
    (maxSteps : Int) :
    let before := (after ids actions).workspace.graph
    let left := (after ids (actions ++ [.removeNodes dead])).workspace.graph
    Run.SameCourse (before.run registry maxSteps) (left.run registry maxSteps) ∧
      ∀ id, left.contains id = true → ∃ node node',
        (Run.progressOf (before.run registry maxSteps)).graph.node? id = some node ∧
        (Run.progressOf (left.run registry maxSteps)).graph.node? id = some node' ∧
        node'.data = node.data := by
  intro before left
  have removed : left = before.removeNodes dead := by
    simp only [left, before, after, List.foldl_append]
    rfl
  obtain ⟨course, graph⟩ := run_removeNodes ids actions dispensable registry maxSteps
  rw [← removed] at course graph
  refine ⟨course, fun id stays => ?_⟩
  have same := left.sameShape_afterRun registry maxSteps
  rw [Graph.afterRun_eq] at same
  obtain ⟨node', found'⟩ := Graph.contains_iff.1 ((same.contains id).trans stays)
  obtain ⟨node, found, data⟩ := Graph.exists_node?_of_removeNodes (graph ▸ found')
  exact ⟨node, node', found, found', data⟩

/-- A number in a group is connected to a node that then also gets its own sum there. -/
def shadowed : List EditorAction :=
  [.create "start" (.int 0) (.int 0), .create "add" (.int 0) (.int 0),
   .create "number" (.int 0) (.int 0),
   .add 0 (Node.coordinate 0) (Node.coordinate 0) Template.start.defaults,
   .add 1 (Node.coordinate 0) (Node.coordinate 0) Template.add.defaults,
   .add 2 (Node.coordinate 0) (Node.coordinate 0) Template.number.defaults,
   .connect "node_1:execOut" "node_3:execIn", .connect "node_9:v" "node_3:a",
   .connect "node_3:out" "node_3:a", .groupNodes [.text "node_9"] "hidden"]

/-- The last edge hides the number, so it can go, and the group goes with it. -/
theorem shadowed_without_number :
    (after ⟨0⟩ shadowed).workspace.graph.Dispensable ["node_9"] ∧
    Run.SameCourse ((after ⟨0⟩ shadowed).workspace.graph.run Registry.builtin 5)
      ((after ⟨0⟩ (shadowed ++ [.removeNodes ["node_9"]])).workspace.graph.run
        Registry.builtin 5) ∧
    (after ⟨0⟩ shadowed).workspace.graph.nodes.map Node.id =
      ["node_15", "node_1", "node_3", "node_9"] ∧
    (after ⟨0⟩ (shadowed ++ [.removeNodes ["node_9"]])).workspace.graph.nodes.map Node.id =
      ["node_1", "node_3"] := by
  have dispensable : (after ⟨0⟩ shadowed).workspace.graph.Dispensable ["node_9"] := by
    refine Graph.dispensable_of_closed ["node_1", "node_3"] ?_ ?_ ?_ ?_
    · decide +kernel
    · decide +kernel
    · decide +kernel
    · decide +kernel
  refine ⟨dispensable, (run_without_dead ⟨0⟩ shadowed dispensable Registry.builtin 5).1, ?_, ?_⟩
  · decide +kernel
  · decide +kernel

end Session

end NodeFlow
