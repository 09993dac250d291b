import NodeFlow.Graph.Grouping
import NodeFlow.Proofs.Ident
import NodeFlow.Snapshot.Import

/-!
# Adding nodes and edges

What adding does to a workspace: the graph changes at the end or not at all, and the counter does
not go back. It fails on an id that is taken and on one whose number cannot be read. The edge that
joins two ports and the group around some nodes come under the id that is next, and fail if that is
too long. To report an error as that of a record changes nothing more.
-/

namespace NodeFlow

open IdSource (Reservable)

/-- The ids of a node and its ports can be kept from being generated. -/
structure Node.Reservable (node : Node) : Prop where
  own : IdSource.Reservable node.id
  ports : ∀ port ∈ node.ports, IdSource.Reservable port.id

namespace Workspace

variable {before : Workspace} {post : Unit → Workspace → Prop} {fault : Workspace → Prop}

theorem ends_reserve {id : String}
    (reserved : Reservable id → ∀ ids, before.ids.last ≤ ids.last → post () { before with ids })
    (failed : ¬ Reservable id → fault before) :
    Edit.Ends (naming (IdSource.reserve id)) post fault before := by
  rw [ends_naming]
  exact IdSource.ends_reserve reserved failed

theorem ends_reservePorts {ports : List Port}
    (reserved : (∀ port ∈ ports, Reservable port.id) →
      ∀ ids, before.ids.last ≤ ids.last → post () { before with ids })
    (failed : (¬ ∀ port ∈ ports, Reservable port.id) →
      ∀ ids, before.ids.last ≤ ids.last → fault { before with ids }) :
    Edit.Ends (ports.forM fun port => naming (IdSource.reserve port.id)) post fault before := by
  induction ports generalizing before with
  | nil => exact reserved (by simp) before.ids (Nat.le_refl _)
  | cons port rest ih =>
    refine (Edit.ends_bind _ _).2 (ends_reserve ?_ ?_)
    · intro first ids forward
      apply ih
      · intro others later onward
        exact reserved (List.forall_mem_cons.2 ⟨first, others⟩) later (Nat.le_trans forward onward)
      · intro others later onward
        refine failed (fun all => others ?_) later (Nat.le_trans forward onward)
        exact (List.forall_mem_cons.1 all).2
    · intro first
      exact failed (fun all => first (all port List.mem_cons_self)) before.ids (Nat.le_refl _)

theorem ends_addNode {node : Node}
    (added : ∀ absent : node.claimPorts.id ∉ before.graph.nodes.map Node.id, node.Reservable →
      ∀ ids, before.ids.last ≤ ids.last →
        post () ⟨before.graph.insertLast node.claimPorts absent, ids⟩)
    (failed : node.id ∈ before.graph.nodes.map Node.id ∨ ¬ node.Reservable →
      ∀ ids, before.ids.last ≤ ids.last → fault ⟨before.graph, ids⟩) :
    Edit.Ends (addNode node) post fault before := by
  unfold addNode
  rw [Edit.ends_bind, ends_graphNow]
  by_cases taken : node.id ∈ before.graph.nodes.map Node.id
  · rw [dif_pos taken, Edit.ends_throw]
    exact failed (.inl taken) before.ids (Nat.le_refl _)
  · rw [dif_neg taken, Edit.ends_bind]
    apply ends_reserve
    · intro own ids forward
      rw [Edit.ends_bind]
      apply ends_reservePorts
      · intro ports later onward
        rw [ends_change]
        exact added taken ⟨own, ports⟩ later (Nat.le_trans forward onward)
      · intro ports later onward
        exact failed (.inr fun all => ports all.ports) later (Nat.le_trans forward onward)
    · intro own
      exact failed (.inr fun all => own all.own) before.ids (Nat.le_refl _)

theorem ends_addEdge {edge : Edge}
    (added : Reservable edge.id → ∀ ids, before.ids.last ≤ ids.last →
      post () ⟨before.graph.insertEdge edge, ids⟩)
    (failed : ¬ Reservable edge.id → fault before) :
    Edit.Ends (addEdge edge) post fault before := by
  unfold addEdge
  rw [Edit.ends_bind]
  apply ends_reserve
  · intro own ids forward
    rw [ends_change]
    exact added own ids forward
  · exact failed

/-! ## Joining and grouping -/

/-- Ports that may not be joined are left alone. -/
theorem ends_connect {source target : String} {post : Option Edge → Workspace → Prop}
    (refused : before.graph.connectionError? source target ≠ none → post none before)
    (joined : before.graph.connectionError? source target = none →
      before.ids.last + 1 < 10 ^ digitLimit →
        let edge : Edge := ⟨IdSource.generated "edge" (before.ids.last + 1), .ref source,
          .ref target, ((before.graph.sourcePort? source).map Port.isExec).getD false⟩
        post (some edge) ⟨before.graph.insertEdge edge, ⟨before.ids.last + 1⟩⟩)
    (exhausted : 10 ^ digitLimit ≤ before.ids.last + 1 →
      fault ⟨before.graph, ⟨before.ids.last + 1⟩⟩) :
    Edit.Ends (connect source target) post fault before := by
  unfold connect
  rw [Edit.ends_bind, ends_graphNow]
  cases accepted : before.graph.connectionError? source target with
  | some reason => exact refused (by simp [accepted])
  | none =>
    rw [Edit.ends_bind, ends_naming]
    exact IdSource.ends_fresh (joined accepted) exhausted

/-- Grouping is over with the nodes that are found, but for the id of the group. -/
theorem groupNodes_eq (keys : List NodeKey) (label : String) (before : Workspace) :
    groupNodes keys label before =
      match before.graph.groupable keys with
      | .error cause => .error (.conversion cause) before
      | .ok [] => .ok none before
      | .ok (first :: rest) =>
        match IdSource.fresh "node" before.ids with
        | .error error ids => .error error ⟨before.graph, ids⟩
        | .ok id ids =>
          let group := Graph.groupAround id label first rest
          .ok (some group) ⟨before.graph.insertFirst group, ids⟩ := by
  rw [groupNodes, graphNow_bind]
  rcases before.graph.groupable keys with cause | _ | ⟨first, rest⟩
  · rfl
  · rfl
  · show (naming (IdSource.fresh "node") >>= fun id => do
      change (·.insertFirst (Graph.groupAround id label first rest))
      return some (Graph.groupAround id label first rest)) before = _
    rw [naming_bind_eq]
    cases IdSource.fresh "node" before.ids <;> rfl

/-- Keys that name no node are passed over; a key whose text is too long changes nothing. -/
theorem ends_groupNodes {keys : List NodeKey} {label : String}
    {post : Option Node → Workspace → Prop}
    (unread : ∀ cause, before.graph.groupable keys = .error cause → fault before)
    (unnamed : before.graph.groupable keys = .ok [] → post none before)
    (grouped : ∀ first rest, before.graph.groupable keys = .ok (first :: rest) →
      before.ids.last + 1 < 10 ^ digitLimit →
        let group := Graph.groupAround (IdSource.generated "node" (before.ids.last + 1)) label
          first rest
        post (some group) ⟨before.graph.insertFirst group, ⟨before.ids.last + 1⟩⟩)
    (exhausted : 10 ^ digitLimit ≤ before.ids.last + 1 →
      fault ⟨before.graph, ⟨before.ids.last + 1⟩⟩) :
    Edit.Ends (groupNodes keys label) post fault before := by
  unfold Edit.Ends
  rw [groupNodes_eq]
  rcases named : before.graph.groupable keys with cause | _ | ⟨first, rest⟩
  · exact unread cause named
  · exact unnamed named
  · dsimp only
    rcases IdSource.fresh_cases "node" before.ids with ⟨fits, issued⟩ | ⟨long, failed⟩
    · rw [issued]
      exact grouped first rest named fits
    · rw [failed]
      exact exhausted long

/-- A group is dissolved; nothing happens to any other node. -/
theorem ends_ungroup {id : String} {post : Bool → Workspace → Prop}
    (dissolved : ∀ node, before.graph.node? id = some node → node.isGroup = true →
      post true ⟨before.graph.filterNodes fun other => other.id != id, before.ids⟩)
    (left : (∀ node, before.graph.node? id = some node → node.isGroup = false) →
      post false before) : Edit.Ends (ungroup id) post fault before := by
  unfold ungroup
  rw [Edit.ends_bind, ends_graphNow]
  cases found : before.graph.node? id with
  | none => exact left (by simp [found])
  | some node =>
    dsimp only
    cases isGroup : node.isGroup with
    | true => exact dissolved node found isGroup
    | false => exact left (by simp [found, isGroup])

/-! ## Errors of records -/

theorem ends_reading {α : Type} {kind : RecordKind} {record : Value} {read : Edit Workspace α}
    {post : α → Workspace → Prop} (ends : Edit.Ends read post fault before) :
    Edit.Ends (reading kind record read) post fault before := by
  have refused : ∀ cause later, fault later →
      Edit.Ends (refuse kind record cause : Edit Workspace α) post fault later := by
    intro cause later failed
    unfold refuse
    split
    · exact failed
    · split <;> exact failed
  unfold Edit.Ends reading
  unfold Edit.Ends at ends
  cases outcome : read before with
  | ok result later =>
    rw [outcome] at ends
    exact ends
  | error error later =>
    rw [outcome] at ends
    cases error with
    | conversion cause => exact refused cause later ends
    | _ => exact ends

theorem reading_eq_ok_iff {α : Type} {kind : RecordKind} {record : Value}
    {read : Edit Workspace α} {result : α} {after : Workspace} :
    reading kind record read before = .ok result after ↔ read before = .ok result after := by
  unfold reading
  cases outcome : read before with
  | ok result later => simp
  | error fault later =>
    cases fault with
    | conversion cause =>
      have refused : refuse kind record cause later ≠ .ok result after := by
        intro passed
        unfold refuse at passed
        by_cases magnitude : cause.kind = .magnitude
        · rw [if_pos magnitude] at passed
          cases passed
        · rw [if_neg magnitude] at passed
          cases literal : record.literal <;> rw [literal] at passed <;> cases passed
      simp [refused]
    | _ => simp

theorem ends_restoreNode {node : Node}
    (ends : Edit.Ends (addNode node) post fault before) :
    Edit.Ends (restoreNode node) post fault before := by
  unfold Edit.Ends restoreNode
  unfold Edit.Ends at ends
  cases outcome : addNode node before with
  | ok result later =>
    rw [outcome] at ends
    exact ends
  | error error later =>
    rw [outcome] at ends
    cases error <;> exact ends

end Workspace

end NodeFlow
