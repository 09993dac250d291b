import NodeFlow.Proofs.Adding
import NodeFlow.Proofs.Snapshot.Normal

/-!
# What is restored is normal

Restoring keeps the graph normal record by record, also the graph that a failure leaves behind.
Main statement: a graph that is loaded from a text is normal.
-/

namespace NodeFlow

open IdSource (Reservable)

/-! ## Normal graphs -/

/-- A graph that its snapshot shows as it is. -/
structure Graph.Normal (graph : Graph) : Prop where
  nodes : ∀ node ∈ graph.nodes, node.Normal ∧ node.Reservable
  edges : ∀ edge ∈ graph.edges, edge.Normal ∧ Reservable edge.id

theorem Node.Reservable.claimPorts {node : Node} (reservable : node.Reservable) :
    node.claimPorts.Reservable where
  own := reservable.own
  ports := by
    intro claimed member
    obtain ⟨port, present, rfl⟩ := List.mem_map.1 member
    have id := reservable.ports port present
    split <;> exact id

namespace Graph.Normal

variable {graph : Graph}

theorem empty : Graph.empty.Normal := ⟨by simp [Graph.empty], by simp [Graph.empty]⟩

theorem insertLast (normal : graph.Normal) {node : Node} (ofNode : node.Normal)
    (reservable : node.Reservable) (absent : node.id ∉ graph.nodes.map Node.id) :
    (graph.insertLast node absent).Normal where
  nodes := by
    intro other member
    rcases mem_insertLast.1 member with old | rfl
    · exact normal.nodes other old
    · exact ⟨ofNode, reservable⟩
  edges := normal.edges

theorem insertEdge (normal : graph.Normal) {edge : Edge} (ofEdge : edge.Normal)
    (reservable : Reservable edge.id) : (graph.insertEdge edge).Normal where
  nodes := normal.nodes
  edges := by
    intro other member
    rcases mem_insertEdge.1 member with old | rfl
    · exact normal.edges other old
    · exact ⟨ofEdge, reservable⟩

end Graph.Normal

namespace Workspace

/-! ## Records -/

theorem keeps_restoreNodeRecord {record : Value} (storable : record.Storable) :
    Edit.Keeps (fun workspace => workspace.graph.Normal) (restoreNodeRecord record) := by
  intro before normal
  unfold restoreNodeRecord
  rw [Edit.ends_bind]
  apply ends_reading
  rw [Edit.ends_convert]
  cases read : Node.ofValue? record with
  | error cause => exact normal
  | ok found =>
    cases found with
    | none => exact normal
    | some node =>
      have ofNode := Node.normal_of_ofValue? storable read
      apply ends_restoreNode
      apply ends_addNode
      · intro absent reservable ids _
        exact normal.insertLast ofNode reservable.claimPorts absent
      · intro _ ids _
        exact normal

theorem ends_readEdgeFields? (fields : Fields) (before : Workspace) :
    Edit.Ends (readEdgeFields? fields)
      (fun found later => later.graph = before.graph ∧ ∀ edge ∈ found, edge.Normal)
      (fun later => later.graph = before.graph) before := by
  unfold readEdgeFields?
  rw [Edit.ends_bind, Edit.ends_convert]
  cases sourceRead : Endpoint.ofValue? (fields.get "source") with
  | error cause => rfl
  | ok source =>
    refine (Edit.ends_bind _ _).2 ((Edit.ends_convert _).2 ?_)
    cases targetRead : Endpoint.ofValue? (fields.get "target") with
    | error cause => rfl
    | ok target =>
      cases source with
      | none => exact ⟨rfl, by simp⟩
      | some source =>
        cases target with
        | none => exact ⟨rfl, by simp⟩
        | some target =>
          have ofSource := Endpoint.normal_of_ofValue? sourceRead
          have ofTarget := Endpoint.normal_of_ofValue? targetRead
          refine (Edit.ends_bind _ _).2 ((ends_naming _).2 ?_)
          refine IdSource.ends_fresh (fun _ => ?_) fun _ => rfl
          dsimp only
          by_cases given : (fields.get "id").truthy = true
          · rw [if_pos given, Edit.ends_bind, Edit.ends_convert]
            cases shown : (fields.get "id").toText with
            | error cause => rfl
            | ok id =>
              refine ⟨rfl, ?_⟩
              intro edge same
              cases same
              exact ⟨Value.toText_ne_empty given shown, ofSource, ofTarget⟩
          · rw [if_neg given]
            refine ⟨rfl, ?_⟩
            intro edge same
            cases same
            exact ⟨IdSource.generated_ne_empty _ _, ofSource, ofTarget⟩

/-- The edge of a record is normal, and reading it leaves the graph alone. -/
theorem ends_readEdge? (record : Value) (before : Workspace) :
    Edit.Ends (readEdge? record)
      (fun found later => later.graph = before.graph ∧ ∀ edge ∈ found, edge.Normal)
      (fun later => later.graph = before.graph) before := by
  cases record with
  | dict fields => exact ends_readEdgeFields? fields before
  | _ => exact ⟨rfl, by simp⟩

theorem keeps_restoreEdgeRecord (record : Value) :
    Edit.Keeps (fun workspace => workspace.graph.Normal) (restoreEdgeRecord record) := by
  intro before normal
  unfold restoreEdgeRecord
  rw [Edit.ends_bind]
  apply ends_reading
  apply (ends_readEdge? record before).mono
  · intro found later read
    obtain ⟨same, ofEdge⟩ := read
    rw [← same] at normal
    cases found with
    | none => exact normal
    | some edge =>
      apply ends_addEdge
      · intro reservable ids _
        exact normal.insertEdge (ofEdge edge rfl) reservable
      · intro _
        exact normal
  · intro later same
    rwa [← same] at normal

/-! ## Snapshots -/

theorem keeps_restoreRecords {nodes edges : Value} (storable : nodes.Storable) :
    Edit.Keeps (fun workspace => workspace.graph.Normal) (restoreRecords nodes edges) := by
  unfold restoreRecords
  split
  · rename_i nodes edges
    cases storable with
    | list each =>
      have cleared : Edit.Keeps (fun workspace => workspace.graph.Normal) clear :=
        fun _ _ => Graph.Normal.empty
      have ofNodes := Edit.Keeps.forM fun record member =>
        keeps_restoreNodeRecord (each record member)
      have ofEdges : Edit.Keeps _ (edges.forM restoreEdgeRecord) :=
        .forM fun record _ => keeps_restoreEdgeRecord record
      exact cleared.bind fun _ => ofNodes.bind fun _ => ofEdges
  · exact .throw _

theorem keeps_restore {snapshot : Value} (storable : snapshot.Storable) :
    Edit.Keeps (fun workspace => workspace.graph.Normal) (restore snapshot) := by
  cases snapshot with
  | dict fields =>
    apply keeps_restoreRecords
    cases found : Keyed.get? "nodes" fields with
    | none => exact .list (by simp)
    | some nodes => exact Fields.storable_of_get? storable found
  | _ => exact .throw _

/-- A graph that is loaded is normal. -/
theorem normal_of_load {text : String} {before after : Workspace}
    (loaded : load text before = .ok () after) : after.graph.Normal := by
  have ends : Edit.Ends (load text) (fun _ later => later.graph.Normal) (fun _ => True) before := by
    unfold load
    rw [ends_replacing, Edit.ends_bind]
    unfold parse
    cases read : Json.read text with
    | error stop => cases stop <;> exact trivial
    | ok snapshot =>
      have keeps := keeps_restore (Json.storable_of_read read)
      exact (keeps ⟨.empty, before.ids⟩ .empty).mono (fun _ _ normal => normal) fun _ _ => trivial
  unfold Edit.Ends at ends
  rwa [loaded] at ends

end Workspace

end NodeFlow
