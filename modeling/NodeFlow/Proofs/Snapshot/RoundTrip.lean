import NodeFlow.Proofs.Snapshot.Restoring

/-!
# Snapshots round trip

A normal graph is restored from its snapshot as it is, record by record, as long as the counter does
not run out of numbers that can be written. Main statement: the snapshot of a graph that was loaded,
from whatever text, is loaded again, and its snapshot is the same text.
-/

namespace NodeFlow

/-! ## The text of a normal graph -/

namespace Graph

variable {graph : Graph}

theorem storable_toValue (normal : graph.Normal) : graph.toValue.Storable := by
  have nodes := Value.Storable.map fun node member =>
    Node.storable_toValue (normal.nodes node member).1
  have edges := Value.Storable.map fun edge member =>
    Edge.storable_toValue (normal.edges edge member).1
  apply Value.Storable.dict
  · simp
  intro field member
  simp only [List.mem_cons, List.not_mem_nil, or_false] at member
  rcases member with rfl | rfl | rfl
  · exact .int _ (by decide)
  · exact nodes
  · exact edges

theorem settled_of_normal (normal : ∀ edge ∈ graph.edges, edge.Normal) :
    graph.settled = .ok graph := by
  have each := @Outcome.mapM_map _ _ _ _ graph.edges (fun edge => edge) Edge.settled
    (fun edge => edge) fun edge member => Edge.settled_of_normal (normal edge member)
  rw [List.map_id'] at each
  unfold settled
  rw [each]
  rfl

/-- A normal graph has a snapshot, whose text is read as the snapshot. -/
theorem exists_dump (normal : graph.Normal) :
    ∃ snapshot, graph.dump = .ok snapshot ∧ Json.read snapshot = .ok graph.toValue := by
  obtain ⟨snapshot, printed, read⟩ := Json.read_print (storable_toValue normal)
  refine ⟨snapshot, ?_, read⟩
  unfold dump
  rw [settled_of_normal fun edge member => (normal.edges edge member).1]
  exact printed

end Graph

/-! ## Restoring what is normal -/

namespace Workspace

variable {before : Workspace}

theorem ends_restoreNodeRecord {node : Node} (normal : node.Normal) (reservable : node.Reservable)
    (absent : node.id ∉ before.graph.nodes.map Node.id) :
    Edit.Ends (restoreNodeRecord node.toValue)
      (fun _ later => later.graph = before.graph.insertLast node absent) (fun _ => False)
      before := by
  unfold restoreNodeRecord
  rw [Edit.ends_bind]
  apply ends_reading
  rw [Edit.ends_convert, Node.ofValue?_toValue normal]
  apply ends_restoreNode
  apply ends_addNode
  · intro _ _ ids _
    simp only [Node.claimPorts_of_normal normal]
  · intro refused
    exact absurd refused (not_or.2 ⟨absent, not_not.2 reservable⟩)

theorem ends_restoreNodes {nodes : List Node}
    (normal : ∀ node ∈ nodes, node.Normal ∧ node.Reservable)
    (distinct : ((before.graph.nodes ++ nodes).map Node.id).Nodup) :
    Edit.Ends ((nodes.map Node.toValue).forM restoreNodeRecord)
      (fun _ later => later.graph.nodes = before.graph.nodes ++ nodes ∧
        later.graph.edges = before.graph.edges) (fun _ => False) before := by
  induction nodes generalizing before with
  | nil => exact ⟨by simp, rfl⟩
  | cons node rest ih =>
    obtain ⟨first, others⟩ := List.forall_mem_cons.1 normal
    have absent : node.id ∉ before.graph.nodes.map Node.id := by
      rw [List.map_append, List.nodup_append] at distinct
      intro taken
      exact distinct.2.2 _ taken _ List.mem_cons_self rfl
    refine (Edit.ends_bind _ _).2
      ((ends_restoreNodeRecord first.1 first.2 absent).mono ?_ fun _ failed => failed)
    intro _ during same
    have nodes : during.graph.nodes = before.graph.nodes ++ [node] := by rw [same]; rfl
    have edges : during.graph.edges = before.graph.edges := by rw [same]; rfl
    have later := @ih during others (by rwa [nodes, List.append_assoc])
    rwa [nodes, edges, List.append_assoc] at later

theorem ends_readEdge?_toValue {edge : Edge} (normal : edge.Normal) :
    Edit.Ends (readEdge? edge.toValue)
      (fun found later => found = some edge ∧ later.graph = before.graph)
      (fun later => 10 ^ digitLimit ≤ later.ids.last) before := by
  obtain ⟨fields, shape⟩ : ∃ fields : Fields, edge.toValue = .dict fields := ⟨_, rfl⟩
  have source : fields.get "source" = edge.source.toValue := by cases shape; rfl
  have target : fields.get "target" = edge.target.toValue := by cases shape; rfl
  have id : fields.get "id" = .text edge.id := by cases shape; rfl
  have isExec : fields.flag "is_exec" = edge.isExec := by cases shape; rfl
  have named : (Value.text edge.id).truthy = true := Value.truthy_text normal.named
  rw [shape]
  simp only [readEdge?, readEdgeFields?, source, target, id, isExec,
    Endpoint.ofValue?_toValue normal.source, Endpoint.ofValue?_toValue normal.target, named]
  refine (Edit.ends_bind _ _).2 ((Edit.ends_convert _).2 ?_)
  refine (Edit.ends_bind _ _).2 ((Edit.ends_convert _).2 ?_)
  refine (Edit.ends_bind _ _).2 ((ends_naming _).2 ?_)
  refine IdSource.ends_fresh (fun _ => ?_) fun long => long
  exact ⟨rfl, rfl⟩

theorem ends_restoreEdgeRecord {edge : Edge} (normal : edge.Normal)
    (reservable : IdSource.Reservable edge.id) :
    Edit.Ends (restoreEdgeRecord edge.toValue)
      (fun _ later => later.graph = before.graph.insertEdge edge)
      (fun later => 10 ^ digitLimit ≤ later.ids.last) before := by
  unfold restoreEdgeRecord
  rw [Edit.ends_bind]
  apply ends_reading
  refine (ends_readEdge?_toValue normal).mono ?_ fun _ failed => failed
  intro found later read
  obtain ⟨rfl, same⟩ := read
  apply ends_addEdge
  · intro _ ids _
    rw [same]
  · intro refused
    exact absurd reservable refused

theorem ends_restoreEdges {edges : List Edge}
    (normal : ∀ edge ∈ edges, edge.Normal ∧ IdSource.Reservable edge.id) :
    Edit.Ends ((edges.map Edge.toValue).forM restoreEdgeRecord)
      (fun _ later => later.graph = before.graph.withEdges (before.graph.edges ++ edges))
      (fun later => 10 ^ digitLimit ≤ later.ids.last) before := by
  induction edges generalizing before with
  | nil =>
    rw [List.append_nil]
    rfl
  | cons edge rest ih =>
    obtain ⟨first, others⟩ := List.forall_mem_cons.1 normal
    refine (Edit.ends_bind _ _).2
      ((ends_restoreEdgeRecord first.1 first.2).mono ?_ fun _ failed => failed)
    intro _ during same
    have later := @ih during others
    rw [same] at later
    simpa only [Graph.insertEdge, Graph.withEdges, List.append_assoc,
      List.singleton_append] using later

/-- A normal graph is restored from its snapshot. -/
theorem ends_restore {graph : Graph} (normal : graph.Normal) :
    Edit.Ends (restore graph.toValue) (fun _ later => later.graph = graph)
      (fun later => 10 ^ digitLimit ≤ later.ids.last) before := by
  have distinct : ((Graph.empty.nodes ++ graph.nodes).map Node.id).Nodup := graph.distinct
  show Edit.Ends (do
    clear
    (graph.nodes.map Node.toValue).forM restoreNodeRecord
    (graph.edges.map Edge.toValue).forM restoreEdgeRecord) _ _ before
  unfold clear
  rw [Edit.ends_bind, ends_change, Edit.ends_bind]
  refine (ends_restoreNodes normal.nodes distinct).mono ?_ fun _ failed => failed.elim
  intro _ during restored
  refine (ends_restoreEdges normal.edges).mono ?_ fun _ failed => failed
  intro _ later same
  obtain ⟨nodes, edges⟩ := restored
  rw [same]
  apply Graph.eq_of_parts
  · exact nodes
  · rw [edges]
    rfl

/-- A text that is read as a value is loaded as that value is restored. -/
theorem load_of_read {text : String} {snapshot : Value} (read : Json.read text = .ok snapshot) :
    load text = replacing (restore snapshot) := by
  unfold load parse
  rw [read]
  rfl

/-- A normal graph is loaded from a text that is read as its snapshot. -/
theorem exists_load {graph : Graph} (normal : graph.Normal) {text : String}
    (read : Json.read text = .ok graph.toValue)
    (inRange : (Edit.stateAfter (load text) before).ids.last < 10 ^ digitLimit) :
    ∃ later, load text before = .ok () later ∧ later.graph = graph := by
  have ends : Edit.Ends (load text) (fun _ later => later.graph = graph)
      (fun later => 10 ^ digitLimit ≤ later.ids.last) before := by
    rw [load_of_read read, ends_replacing]
    exact ends_restore normal
  obtain ⟨_, later, loaded, same⟩ := ends.of_passes (Nat.not_le.2 inRange)
  exact ⟨later, loaded, same⟩

/-- The snapshot of a graph that was loaded shows the whole graph, and is loaded as the same graph,
with the same snapshot, as long as the counter stays below the numbers that are too long to be
written. -/
theorem load_dump_of_load {text : String} {before after : Workspace}
    (loaded : load text before = .ok () after) :
    ∃ snapshot, after.graph.dump = .ok snapshot ∧ Json.read snapshot = .ok after.graph.toValue ∧
      ∀ again, (Edit.stateAfter (load snapshot) again).ids.last < 10 ^ digitLimit →
        ∃ later, load snapshot again = .ok () later ∧ later.graph = after.graph ∧
          later.graph.dump = .ok snapshot := by
  have normal := normal_of_load loaded
  obtain ⟨snapshot, dumped, read⟩ := Graph.exists_dump normal
  refine ⟨snapshot, dumped, read, ?_⟩
  intro again inRange
  obtain ⟨later, reloaded, same⟩ := exists_load normal read inRange
  exact ⟨later, reloaded, same, by rw [same, dumped]⟩

/-- A snapshot with a node record that is none and an edge without an id. -/
def unnamedRecords : String :=
  "\x7b\"nodes\": [[]], \"edges\": [\x7b\"source\": \"7:v\", \"target\": \"8:v\"\x7d]\x7d"

/-- It is loaded, and when its snapshot is loaded again the numbers stay short. -/
private theorem ends_load_unnamedRecords : Edit.Ends (load unnamedRecords)
    (fun _ after => ∀ snapshot ∈ after.graph.dump.toOption,
      (Edit.stateAfter (load snapshot) after).ids.last < 10 ^ digitLimit)
    (fun _ => False) ⟨.empty, ⟨0⟩⟩ := by
  decide +kernel

/-- The edge keeps the id that it gets when it is loaded for the first time. -/
theorem load_dump_of_unnamedRecords : ∃ after snapshot later,
    load unnamedRecords ⟨.empty, ⟨0⟩⟩ = .ok () after ∧ after.graph.dump = .ok snapshot ∧
      load snapshot after = .ok () later ∧ later.graph.dump = .ok snapshot := by
  obtain ⟨_, after, outcome, inRange⟩ := ends_load_unnamedRecords.of_passes not_false
  obtain ⟨snapshot, dumped, _, reloads⟩ := load_dump_of_load outcome
  have inRange := inRange snapshot (by rw [dumped]; rfl)
  obtain ⟨later, reloaded, _, again⟩ := reloads after inRange
  exact ⟨after, snapshot, later, outcome, dumped, reloaded, again⟩

end Workspace

end NodeFlow
