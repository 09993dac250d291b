import NodeFlow.Proofs.Snapshot.Faults
import NodeFlow.Proofs.Snapshot.Prefix

/-!
# Ids of restored edges

The edge of a record that brings no id gets a generated one. That differs from every id before it,
but a record further on may bring it. Main statement: restored edges have distinct ids exactly if
the ids that the records bring are distinct and none of them was generated for an earlier record;
then to remove the edges of an id removes one edge.
-/

namespace NodeFlow

open Edit (bind_eq_ok_iff)
open IdSource (generated)

/-! ## Ids of records -/

namespace Edge

/-- The id that the record of an edge brings: none if the record is skipped, or if its id counts as
none. -/
def givenId? : Value → Option String
  | .dict fields =>
    if !isSkipped (.dict fields) && (Fields.get fields "id").truthy then
      (Fields.get fields "id").toText.toOption
    else none
  | _ => none

/-- Whether the record is that of an edge, and brings no id. -/
def isUnnamed : Value → Bool
  | .dict fields => !isSkipped (.dict fields) && !(Fields.get fields "id").truthy
  | _ => false

theorem givenId?_of_isUnnamed {record : Value} (unnamed : isUnnamed record = true) :
    givenId? record = none := by
  cases record with
  | dict fields =>
    have absent : (Fields.get fields "id").truthy = false := by
      simpa using (Bool.and_eq_true_iff.1 unnamed).2
    simp [givenId?, absent]
  | _ => rfl

theorem givenId?_of_isSkipped {record : Value} (skipped : isSkipped record = true) :
    givenId? record = none := by
  cases record with
  | dict fields => simp [givenId?, skipped]
  | _ => rfl

theorem isUnnamed_of_isSkipped {record : Value} (skipped : isSkipped record = true) :
    isUnnamed record = false := by
  cases record with
  | dict fields => simp [isUnnamed, skipped]
  | _ => rfl

theorem not_isUnnamed_of_givenId? {record : Value} {id : String}
    (brings : givenId? record = some id) : isUnnamed record = false := by
  by_contra unnamed
  rw [givenId?_of_isUnnamed (Bool.of_not_eq_false unnamed)] at brings
  cases brings

/-- How the edge of a record comes by its id, when the counter has come to a number: the record
brings it, or it is generated. -/
inductive NamedBy (record : Value) (last : Nat) : String → Prop
  | given {id : String} (brings : givenId? record = some id) : NamedBy record last id
  | generated (unnamed : isUnnamed record = true) :
      NamedBy record last (generated "edge" (last + 1))

end Edge

namespace Workspace

variable {record : Value} {before after : Workspace}

/-- An edge that is added goes behind the others, and the counter is past its id. -/
theorem addEdge_eq_ok {edge : Edge} (added : addEdge edge before = .ok () after) :
    after.graph = before.graph.insertEdge edge ∧ after.ids.Covers edge.id ∧
      before.ids.last ≤ after.ids.last := by
  obtain ⟨_, during, reserved, added⟩ := bind_eq_ok_iff.1 added
  obtain ⟨ids, reserved, same⟩ := naming_eq_ok_iff.1 reserved
  obtain ⟨covers, forward⟩ := IdSource.covers_of_reserve reserved
  obtain ⟨-, rfl⟩ := EStateM.Result.ok.inj added
  rw [same]
  exact ⟨rfl, covers, forward⟩

/-- A record that is restored is skipped, or its edge goes behind the others under an id that the
counter has passed from then on. -/
theorem restoreEdgeRecord_eq_ok (restored : restoreEdgeRecord record before = .ok () after) :
    (Edge.isSkipped record = true ∧ after = before) ∨
    ∃ edge, after.graph = before.graph.insertEdge edge ∧ after.ids.Covers edge.id ∧
      before.ids.last ≤ after.ids.last ∧ Edge.NamedBy record before.ids.last edge.id := by
  obtain ⟨edge?, during, read, added⟩ := bind_eq_ok_iff.1 restored
  replace read := reading_eq_ok_iff.1 read
  cases edge? with
  | none =>
    obtain ⟨skipped, rfl⟩ := readEdge?_eq_none_iff.1 read
    cases added
    exact .inl ⟨skipped, rfl⟩
  | some edge =>
    right
    obtain ⟨graph, covers, forward⟩ := addEdge_eq_ok added
    cases record with
    | dict fields =>
      obtain ⟨⟨source, begins⟩, ⟨target, ends⟩, _, rfl, naming⟩ := ends_of_readEdgeFields? read
      have kept : Edge.isSkipped (.dict fields) = false := by
        rw [Bool.eq_false_iff, ne_eq, Edge.isSkipped_iff, begins, ends]
        simp
      refine ⟨edge, graph, covers, Nat.le_trans (Nat.le_succ _) forward, ?_⟩
      rcases naming with ⟨counts, shown⟩ | ⟨absent, same⟩
      · refine .given ?_
        simp [Edge.givenId?, kept, counts, shown, Except.toOption]
      · rw [same]
        refine .generated ?_
        simp [Edge.isUnnamed, kept, absent]
    | _ => cases read

end Workspace

/-! ## Records among others -/

namespace Snapshot

open Workspace

/-- One of the records is as described, given those before it. -/
def Somewhere (described : List Value → Value → Prop) (records : List Value) : Prop :=
  ∃ earlier record rest, records = earlier ++ record :: rest ∧ described earlier record

theorem not_somewhere_nil (described : List Value → Value → Prop) :
    ¬ Somewhere described [] := by
  rintro ⟨earlier, record, rest, split, _⟩
  simp at split

theorem somewhere_append_singleton {described : List Value → Value → Prop} {records : List Value}
    {last : Value} : Somewhere described (records ++ [last]) ↔
      Somewhere described records ∨ described records last := by
  constructor
  · rintro ⟨earlier, record, rest, split, holds⟩
    rcases List.eq_nil_or_concat rest with rfl | ⟨front, final, rfl⟩
    · obtain ⟨rfl, same⟩ := List.append_inj' split rfl
      cases same
      exact .inr holds
    · have ends : records ++ [last] = (earlier ++ record :: front) ++ [final] := by
        simpa using split
      obtain ⟨rfl, _⟩ := List.append_inj' ends rfl
      exact .inl ⟨earlier, record, front, rfl, holds⟩
  · rintro (⟨earlier, record, rest, rfl, holds⟩ | holds)
    · exact ⟨earlier, record, rest ++ [last], by simp, holds⟩
    · exact ⟨records, last, [], rfl, holds⟩

/-- The id is generated for one of the records of edges. -/
def Generates (nodes : List Value) (ids : IdSource) (edges : List Value) (id : String) : Prop :=
  Somewhere (fun earlier record => Edge.isUnnamed record = true ∧ ∃ during,
    Gives nodes earlier ids (.ok () during) ∧ id = generated "edge" (during.ids.last + 1)) edges

/-- One of the records of edges brings an id that is generated for an earlier one. -/
def Collides (nodes : List Value) (ids : IdSource) : (edges : List Value) → Prop :=
  Somewhere fun earlier record => ∃ id, Edge.givenId? record = some id ∧
    Generates nodes ids earlier id

theorem Gives.unique {nodes edges : List Value} {ids : IdSource}
    {outcome other : EStateM.Result Error Workspace Unit} (gives : Gives nodes edges ids outcome)
    (same : Gives nodes edges ids other) : outcome = other := by
  have listed : records? (.dict [("nodes", .list nodes), ("edges", .list edges)]) =
      some (nodes, edges) := rfl
  rw [← gives _ listed .empty, same _ listed .empty]

/-! ## Ids of the edges so far -/

/-- What the ids of the edges are when the records so far are restored. -/
structure IdsRestored (nodes : List Value) (ids : IdSource) (edges : List Value)
    (after : Workspace) : Prop where
  covered : ∀ id ∈ after.graph.edges.map Edge.id, after.ids.Covers id
  mem_iff : ∀ id, id ∈ after.graph.edges.map Edge.id ↔
    id ∈ edges.filterMap Edge.givenId? ∨ Generates nodes ids edges id
  nodup_iff : (after.graph.edges.map Edge.id).Nodup ↔
    (edges.filterMap Edge.givenId?).Nodup ∧ ¬ Collides nodes ids edges

variable {nodes edges : List Value} {ids : IdSource} {after : Workspace}

/-- Restoring nodes brings no edges about. -/
theorem keeps_edgeless_nodeRecord (record : Value) :
    Edit.Keeps (fun workspace => workspace.graph.edges = []) (restoreNodeRecord record) := by
  intro before edgeless
  unfold restoreNodeRecord
  rw [Edit.ends_bind]
  apply ends_reading
  rw [Edit.ends_convert]
  cases Node.ofValue? record with
  | error cause => exact edgeless
  | ok node =>
    cases node with
    | none => exact edgeless
    | some node =>
      apply ends_restoreNode
      apply ends_addNode
      · exact fun _ _ _ _ => edgeless
      · exact fun _ _ _ => edgeless

theorem IdsRestored.start (restored : addRecords nodes [] ⟨.empty, ids⟩ = .ok () after) :
    IdsRestored nodes ids [] after := by
  obtain ⟨_, during, added, ended⟩ := bind_eq_ok_iff.1 restored
  cases ended
  have edgeless : after.graph.edges = [] :=
    (Edit.Keeps.forM (fun record _ => keeps_edgeless_nodeRecord record) _ rfl).of_ok added
  have none : ∀ id, ¬ Generates nodes ids [] id := fun id => not_somewhere_nil _
  refine ⟨?_, fun id => ?_, ?_⟩
  · simp [edgeless]
  · simp [edgeless, none]
  · simp [edgeless, Collides, not_somewhere_nil]

/-- A generated id is no id of the edges so far. One that a record brings is among them if an
earlier record brought it or it was generated for one. -/
theorem IdsRestored.snoc {record : Value} {during : Workspace}
    (sofar : IdsRestored nodes ids edges during) (gives : Gives nodes edges ids (.ok () during))
    (restored : restoreEdgeRecord record during = .ok () after) :
    IdsRestored nodes ids (edges ++ [record]) after := by
  have collides : Collides nodes ids (edges ++ [record]) ↔ Collides nodes ids edges ∨
      ∃ id, Edge.givenId? record = some id ∧ Generates nodes ids edges id :=
    somewhere_append_singleton
  have generates : ∀ id, Generates nodes ids (edges ++ [record]) id ↔
      Generates nodes ids edges id ∨
        (Edge.isUnnamed record = true ∧ id = generated "edge" (during.ids.last + 1)) := by
    intro id
    refine somewhere_append_singleton.trans (or_congr_right (and_congr_right fun _ => ?_))
    constructor
    · rintro ⟨reached, same, rfl⟩
      obtain ⟨-, rfl⟩ := EStateM.Result.ok.inj (gives.unique same)
      rfl
    · rintro rfl
      exact ⟨during, gives, rfl⟩
  rcases restoreEdgeRecord_eq_ok restored with
    ⟨skipped, rfl⟩ | ⟨edge, graph, covers, forward, named⟩
  · have silent : ∀ id, Generates nodes ids (edges ++ [record]) id ↔
        Generates nodes ids edges id := by
      simp [generates, Edge.isUnnamed_of_isSkipped skipped]
    refine ⟨sofar.covered, fun id => ?_, ?_⟩
    · rw [sofar.mem_iff, silent]
      simp [Edge.givenId?_of_isSkipped skipped]
    · rw [sofar.nodup_iff, collides]
      simp [Edge.givenId?_of_isSkipped skipped]
  have behind : after.graph.edges.map Edge.id = during.graph.edges.map Edge.id ++ [edge.id] := by
    simp [graph, Graph.insertEdge, Graph.withEdges]
  have covered : ∀ id ∈ after.graph.edges.map Edge.id, after.ids.Covers id := by
    rw [behind, List.forall_mem_append, List.forall_mem_singleton]
    exact ⟨fun id member => (sofar.covered id member).advance forward, covers⟩
  have grows : (after.graph.edges.map Edge.id).Nodup ↔
      (during.graph.edges.map Edge.id).Nodup ∧ edge.id ∉ during.graph.edges.map Edge.id := by
    rw [behind, ← List.concat_eq_append, List.nodup_concat, and_comm]
  generalize edge.id = id at *
  cases named with
  | given brings =>
    have silent : ∀ other, Generates nodes ids (edges ++ [record]) other ↔
        Generates nodes ids edges other := by
      simp [generates, Edge.not_isUnnamed_of_givenId? brings]
    have more : (edges ++ [record]).filterMap Edge.givenId? =
        edges.filterMap Edge.givenId? ++ [id] := by
      simp [brings]
    refine ⟨covered, fun other => ?_, ?_⟩
    · rw [behind, List.mem_append, sofar.mem_iff, silent, more, List.mem_append]
      tauto
    · rw [grows, sofar.nodup_iff, sofar.mem_iff, collides, more, ← List.concat_eq_append,
        List.nodup_concat]
      simp [brings]
      tauto
  | generated unnamed =>
    have brings := Edge.givenId?_of_isUnnamed unnamed
    have new : generated "edge" (during.ids.last + 1) ∉ during.graph.edges.map Edge.id :=
      fun member => IdSource.not_covers_next during.ids "edge" (sofar.covered _ member)
    refine ⟨covered, fun other => ?_, ?_⟩
    · rw [behind, List.mem_append, sofar.mem_iff, generates]
      simp [brings, unnamed, or_assoc]
    · rw [grows, and_iff_left new, sofar.nodup_iff, collides]
      simp [brings]

/-- Whatever the records are, restoring them takes one after the other. -/
theorem idsRestored (gives : Gives nodes edges ids (.ok () after)) :
    IdsRestored nodes ids edges after := by
  induction edges using List.reverseRecOn generalizing after with
  | nil => exact .start (Gives.unique (gives_addRecords nodes [] ids) gives)
  | append_singleton edges record ih =>
    have restored := Gives.unique (gives_addRecords nodes (edges ++ [record]) ids) gives
    obtain ⟨_, filled, allNodes, added⟩ := bind_eq_ok_iff.1 restored
    have inTurn : (edges ++ [record]).forM restoreEdgeRecord =
        edges.forM restoreEdgeRecord >>= fun _ => [record].forM restoreEdgeRecord :=
      List.forM_append
    rw [inTurn] at added
    obtain ⟨_, during, earlier, last⟩ := bind_eq_ok_iff.1 added
    obtain ⟨_, _, last, ended⟩ := bind_eq_ok_iff.1 last
    cases ended
    have whole : addRecords nodes edges ⟨.empty, ids⟩ = .ok () during :=
      bind_eq_ok_iff.2 ⟨(), filled, allNodes, earlier⟩
    have sofar : Gives nodes edges ids (.ok () during) := by
      rw [← whole]
      exact gives_addRecords nodes edges ids
    exact (ih sofar).snoc sofar last

end Snapshot

/-! ## Removing an edge by its id -/

/-- To remove the edges of an id that an edge has removes that edge and no other one. -/
def Graph.DisconnectsOne (graph : Graph) : Prop :=
  ∀ first edge rest, graph.edges = first ++ edge :: rest →
    (graph.disconnect edge.id).edges = first ++ rest

theorem Graph.disconnectsOne_iff {graph : Graph} :
    graph.DisconnectsOne ↔ (graph.edges.map Edge.id).Nodup := by
  have removed : ∀ first edge rest, graph.edges = first ++ edge :: rest →
      ((graph.disconnect edge.id).edges = first ++ rest ↔
        edge.id ∉ (first ++ rest).map Edge.id) := by
    intro first edge rest split
    have others : (graph.disconnect edge.id).edges =
        (first ++ rest).filter fun other => other.id != edge.id := by
      simp [disconnect, withEdges, split]
    rw [others, List.filter_eq_self]
    simp [or_imp, forall_and]
  constructor
  · intro one
    rw [List.nodup_iff_count_le_one]
    intro id
    by_cases member : id ∈ graph.edges.map Edge.id
    · obtain ⟨edge, inside, rfl⟩ := List.mem_map.1 member
      obtain ⟨first, rest, split⟩ := List.append_of_mem inside
      have absent := (removed first edge rest split).1 (one first edge rest split)
      rw [split, List.map_append, List.map_cons, List.perm_middle.count_eq, ← List.map_append,
        List.count_cons_self, List.count_eq_zero_of_not_mem absent]
    · rw [List.count_eq_zero_of_not_mem member]
      exact Nat.zero_le _
  · intro distinct first edge rest split
    rw [split, List.map_append, List.map_cons, List.nodup_middle, ← List.map_append,
      List.nodup_cons] at distinct
    exact (removed first edge rest split).2 distinct.1

namespace Snapshot

/-- When a snapshot is restored, the edges have distinct ids, and can be removed one by one, exactly
if the ids that its records bring are distinct and none of them is generated for an edge before. -/
theorem edgeIds_distinct_iff {snapshot : Value} {nodes edges : List Value} {graph : Graph}
    {ids : IdSource} {after : Workspace} (listed : records? snapshot = some (nodes, edges))
    (restored : Workspace.restore snapshot ⟨graph, ids⟩ = .ok () after) :
    ((after.graph.edges.map Edge.id).Nodup ↔
      (edges.filterMap Edge.givenId?).Nodup ∧ ¬ Collides nodes ids edges) ∧
    (after.graph.DisconnectsOne ↔
      (edges.filterMap Edge.givenId?).Nodup ∧ ¬ Collides nodes ids edges) := by
  have gives : Gives nodes edges ids (.ok () after) := by
    rw [← restored, gives_addRecords nodes edges ids snapshot listed graph]
    exact gives_addRecords nodes edges ids
  have distinct := (idsRestored gives).nodup_iff
  exact ⟨distinct, Graph.disconnectsOne_iff.trans distinct⟩

/-- The record of an edge without an id. -/
def unnamedEdge : Value := .dict [("source", .text "a:x"), ("target", .text "b:y")]

/-- The record of an edge that brings the first id the counter generates. -/
def namedEdge : Value :=
  .dict [("id", .text "edge_1"), ("source", .text "a:x"), ("target", .text "b:y")]

/-- The edge without an id comes first. -/
def colliding : Value := .dict [("edges", .list [unnamedEdge, namedEdge])]

/-- The edge without an id comes last. -/
def avoiding : Value := .dict [("edges", .list [namedEdge, unnamedEdge])]

private theorem ends_restore_avoiding : Edit.Ends (Workspace.restore avoiding)
    (fun _ after => after.graph.edges.map Edge.id = ["edge_1", "edge_2"]) (fun _ => False)
    ⟨.empty, ⟨0⟩⟩ := by
  decide +kernel

private theorem ends_restore_colliding : Edit.Ends (Workspace.restore colliding)
    (fun _ after => after.graph.edges.map Edge.id = ["edge_1", "edge_1"] ∧
      (after.graph.disconnect "edge_1").edges = []) (fun _ => False) ⟨.empty, ⟨0⟩⟩ := by
  decide +kernel

/-- In one order the edges have distinct ids, in the other one they do not. -/
theorem edge_order_matters :
    (∃ after, Workspace.restore avoiding ⟨.empty, ⟨0⟩⟩ = .ok () after ∧
      after.graph.DisconnectsOne ∧ ¬ Collides [] ⟨0⟩ [namedEdge, unnamedEdge]) ∧
    ∃ after, Workspace.restore colliding ⟨.empty, ⟨0⟩⟩ = .ok () after ∧
      ¬ after.graph.DisconnectsOne ∧ Collides [] ⟨0⟩ [unnamedEdge, namedEdge] := by
  constructor
  · obtain ⟨_, after, restored, issued⟩ := ends_restore_avoiding.of_passes not_false
    obtain ⟨distinct, one⟩ := edgeIds_distinct_iff rfl restored
    have spared := distinct.1 (by rw [issued]; decide)
    exact ⟨after, restored, one.2 spared, spared.2⟩
  · obtain ⟨_, after, restored, issued, _⟩ := ends_restore_colliding.of_passes not_false
    obtain ⟨distinct, one⟩ := edgeIds_distinct_iff rfl restored
    have given : ([unnamedEdge, namedEdge].filterMap Edge.givenId?).Nodup := by decide +kernel
    have twice : ¬ (after.graph.edges.map Edge.id).Nodup := by rw [issued]; decide
    refine ⟨after, restored, fun each => twice (distinct.2 (one.1 each)), ?_⟩
    by_contra spared
    exact twice (distinct.2 ⟨given, spared⟩)

/-- The ids that the records bring are distinct, but the first edge gets the id of the second one,
and to remove the edges of that id removes both. -/
theorem generated_id_collides :
    records? colliding = some ([], [unnamedEdge, namedEdge]) ∧
    ([unnamedEdge, namedEdge].filterMap Edge.givenId?).Nodup ∧
    ∃ after, Workspace.restore colliding ⟨.empty, ⟨0⟩⟩ = .ok () after ∧
      after.graph.edges.map Edge.id = ["edge_1", "edge_1"] ∧
      (after.graph.disconnect "edge_1").edges = [] := by
  obtain ⟨_, after, restored, issued, removed⟩ := ends_restore_colliding.of_passes not_false
  exact ⟨rfl, by decide +kernel, after, restored, issued, removed⟩

end Snapshot

end NodeFlow
