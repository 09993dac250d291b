import NodeFlow.Proofs.Snapshot.Restoring

/-!
# Snapshots up to a fault

Restoring goes through the records of a snapshot in order, nodes first. A record that is skipped
changes nothing, and one that fails leaves the graph as it found it. Main statement: restoring
replaces the graph by what the records make up, whatever it was before, and a failure leaves behind
what the records before it make up.
-/

namespace NodeFlow

open Edit (Fails bind_eq_error_iff bind_eq_ok_iff convert_eq_ok_iff forM_eq_error_iff forM_filter)

/-! ## Records that are skipped -/

/-- Whether the value is no end of an edge: neither a text that is not empty nor a list of two. -/
def Endpoint.isMissing : Value → Bool
  | .text s => s.isEmpty
  | .list [_, _] => false
  | _ => true

/-- Whether reading the value as an end of an edge does not fail: if it is a list of two, these are
coordinates. -/
def Endpoint.isReadable : Value → Bool
  | .list [x, y] => x.toFloat.isOk && y.toFloat.isOk
  | _ => true

/-- Whether the record of a node is skipped: it is no mapping, or its id counts as none. -/
def Node.isSkipped : Value → Bool
  | .dict fields => !(Fields.get fields "id").truthy
  | _ => true

/-- Whether the record of an edge is skipped: it is no mapping, or it misses an end. An end that
cannot be read is a fault, also if the other one is missing. -/
def Edge.isSkipped : Value → Bool
  | .dict fields =>
    let ends := [Fields.get fields "source", Fields.get fields "target"]
    ends.all Endpoint.isReadable && ends.any Endpoint.isMissing
  | _ => true

theorem Node.ofValue?_eq_none_iff {record : Value} :
    Node.ofValue? record = .ok none ↔ Node.isSkipped record = true := by
  cases record with
  | dict fields =>
    change ofFields? fields = .ok none ↔ (!(Fields.get fields "id").truthy) = true
    unfold ofFields?
    cases counts : (Fields.get fields "id").truthy with
    | false => simp
    | true =>
      refine ⟨fun read => ?_, by simp⟩
      rw [if_neg (by simp)] at read
      -- the conversions from the id to the ports
      iterate 14 obtain ⟨_, _, read⟩ := Outcome.bind_eq_ok.1 read
      cases read
  | _ => simp [ofValue?, isSkipped]

namespace Endpoint

theorem ofValue?_eq_none_iff {value : Value} :
    ofValue? value = .ok none ↔ isMissing value = true := by
  unfold ofValue? isMissing
  split
  · simp
  · refine ⟨fun read => ?_, by simp⟩
    obtain ⟨_, _, read⟩ := Outcome.bind_eq_ok.1 read
    obtain ⟨_, _, read⟩ := Outcome.bind_eq_ok.1 read
    cases read
  · simp

theorem isReadable_iff {value : Value} :
    isReadable value = true ↔ ∃ read, ofValue? value = .ok read := by
  unfold ofValue? isReadable
  split
  · rename_i x y
    simp only [Outcome.bind_eq_ok, Bool.and_eq_true]
    constructor
    · rintro ⟨first, second⟩
      cases ofX : x.toFloat <;> rw [ofX] at first <;> cases first
      cases ofY : y.toFloat <;> rw [ofY] at second <;> cases second
      exact ⟨_, _, rfl, _, rfl, rfl⟩
    · rintro ⟨_, _, ofX, _, ofY, _⟩
      rw [ofX, ofY]
      exact ⟨rfl, rfl⟩
  · split <;> simp_all

end Endpoint

namespace Edge

theorem isSkipped_iff {fields : Fields} :
    isSkipped (.dict fields) = true ↔ ∃ source target,
      Endpoint.ofValue? (fields.get "source") = .ok source ∧
      Endpoint.ofValue? (fields.get "target") = .ok target ∧ (source = none ∨ target = none) := by
  simp only [isSkipped, List.all_cons, List.all_nil, List.any_cons, List.any_nil, Bool.and_true,
    Bool.or_false, Bool.and_eq_true, Bool.or_eq_true, Endpoint.isReadable_iff,
    ← Endpoint.ofValue?_eq_none_iff]
  constructor
  · rintro ⟨⟨⟨source, begins⟩, target, ends⟩, missing⟩
    refine ⟨source, target, begins, ends, ?_⟩
    rwa [begins, ends, Except.ok.injEq, Except.ok.injEq] at missing
  · rintro ⟨source, target, begins, ends, missing⟩
    rw [begins, ends, Except.ok.injEq, Except.ok.injEq]
    exact ⟨⟨⟨source, rfl⟩, target, rfl⟩, missing⟩

end Edge

namespace Workspace

variable {record : Value} {before after : Workspace}

theorem readEdge?_eq_none_iff :
    readEdge? record before = .ok none after ↔ Edge.isSkipped record = true ∧ before = after := by
  cases record with
  | dict fields =>
    change readEdgeFields? fields before = .ok none after ↔ _
    unfold readEdgeFields?
    simp only [bind_eq_ok_iff, convert_eq_ok_iff, Edge.isSkipped_iff]
    constructor
    · rintro ⟨source, _, ⟨begins, rfl⟩, target, _, ⟨ends, rfl⟩, read⟩
      rcases source with _ | source
      · cases read
        exact ⟨⟨_, _, begins, ends, .inl rfl⟩, rfl⟩
      rcases target with _ | target
      · cases read
        exact ⟨⟨_, _, begins, ends, .inr rfl⟩, rfl⟩
      obtain ⟨generated, _, _, read⟩ := bind_eq_ok_iff.1 read
      split at read <;> obtain ⟨id, _, _, read⟩ := bind_eq_ok_iff.1 read <;> cases read
    · rintro ⟨⟨source, target, begins, ends, missing⟩, rfl⟩
      refine ⟨source, before, ⟨begins, rfl⟩, target, before, ⟨ends, rfl⟩, ?_⟩
      rcases missing with rfl | rfl
      · rfl
      · cases source <;> rfl
  | _ => simp [readEdge?, Edge.isSkipped, pure, EStateM.pure]

/-! ## One record -/

/-- The record of a node is skipped, or its node is added on top. If it fails the graph stays. -/
theorem ends_nodeRecord (record : Value) (before : Workspace) :
    Edit.Ends (restoreNodeRecord record)
      (fun _ later => Node.isSkipped record = true ∨
        ∃ node, later.graph.nodes = before.graph.nodes ++ [node])
      (fun later => later.graph = before.graph) before := by
  unfold restoreNodeRecord
  rw [Edit.ends_bind]
  apply ends_reading
  rw [Edit.ends_convert]
  cases read : Node.ofValue? record with
  | error cause => rfl
  | ok found =>
    cases found with
    | none => exact .inl (Node.ofValue?_eq_none_iff.1 read)
    | some node =>
      apply ends_restoreNode
      apply ends_addNode
      · intro absent _ ids _
        exact .inr ⟨node.claimPorts, rfl⟩
      · intro _ ids _
        rfl

/-- The record of an edge is skipped, or its edge is added behind the others. If it fails the graph
stays. -/
theorem ends_edgeRecord (record : Value) (before : Workspace) :
    Edit.Ends (restoreEdgeRecord record)
      (fun _ later => Edge.isSkipped record = true ∨
        ∃ edge, later.graph.edges = before.graph.edges ++ [edge])
      (fun later => later.graph = before.graph) before := by
  unfold restoreEdgeRecord
  rw [Edit.ends_bind]
  apply ends_reading
  apply (ends_readEdge? record before).with_outcome.mono
  · rintro found during ⟨outcome, same, _⟩
    cases found with
    | none => exact .inl (readEdge?_eq_none_iff.1 outcome).1
    | some edge =>
      rw [← same]
      apply ends_addEdge
      · intro _ ids _
        exact .inr ⟨edge, rfl⟩
      · intro _
        rfl
  · exact fun later same => same

theorem restoreNodeRecord_eq_self_iff :
    restoreNodeRecord record before = .ok () before ↔ Node.isSkipped record = true := by
  constructor
  · intro idle
    rcases (ends_nodeRecord record before).of_ok idle with skipped | ⟨node, more⟩
    · exact skipped
    · simp at more
  · intro skipped
    unfold restoreNodeRecord
    rw [Node.ofValue?_eq_none_iff.2 skipped]
    rfl

theorem restoreEdgeRecord_eq_self_iff :
    restoreEdgeRecord record before = .ok () before ↔ Edge.isSkipped record = true := by
  constructor
  · intro idle
    rcases (ends_edgeRecord record before).of_ok idle with skipped | ⟨edge, more⟩
    · exact skipped
    · simp at more
  · intro skipped
    refine bind_eq_ok_iff.2 ⟨none, before, ?_, rfl⟩
    exact reading_eq_ok_iff.2 (readEdge?_eq_none_iff.2 ⟨skipped, rfl⟩)

end Workspace

/-! ## Snapshots -/

namespace Snapshot

open Workspace

/-- Adds what the records make up. -/
def addRecords (nodes edges : List Value) : Edit Workspace Unit := do
  nodes.forM restoreNodeRecord
  edges.forM restoreEdgeRecord

/-- Two lists of records; none unless both values are lists. -/
def lists? : (nodes edges : Value) → Option (List Value × List Value)
  | .list nodes, .list edges => some (nodes, edges)
  | _, _ => none

/-- The records of nodes and of edges in a snapshot, where an absent list counts as empty; none if
the snapshot is no mapping, or one of the two is no list. -/
def records? : Value → Option (List Value × List Value)
  | .dict fields =>
    lists? ((Keyed.get? "nodes" fields).getD (.list []))
      ((Keyed.get? "edges" fields).getD (.list []))
  | _ => none

theorem restoreRecords_of_lists? {nodes edges : Value} {before : Workspace}
    {records : List Value × List Value} (listed : lists? nodes edges = some records) :
    restoreRecords nodes edges before = addRecords records.1 records.2 ⟨.empty, before.ids⟩ := by
  unfold lists? at listed
  split at listed <;> cases listed
  rfl

theorem restoreRecords_of_not_lists {nodes edges : Value} {before : Workspace}
    (unlisted : lists? nodes edges = none) :
    restoreRecords nodes edges before = .error (.snapshot .notLists) before := by
  unfold restoreRecords
  split
  · cases unlisted
  · rfl

/-- A snapshot of the wrong shape changes nothing. -/
theorem restore_of_no_records {snapshot : Value} {before : Workspace}
    (shapeless : records? snapshot = none) :
    ∃ cause, restore snapshot before = .error (.snapshot cause) before := by
  cases snapshot with
  | dict fields => exact ⟨_, restoreRecords_of_not_lists shapeless⟩
  | _ => exact ⟨_, rfl⟩

/-- What restoring a snapshot of the records comes to, whatever else it holds and whatever graph it
replaces. -/
def Gives (nodes edges : List Value) (ids : IdSource)
    (outcome : EStateM.Result Error Workspace Unit) : Prop :=
  ∀ snapshot, records? snapshot = some (nodes, edges) →
    ∀ graph, restore snapshot ⟨graph, ids⟩ = outcome

/-- Where restoring the records stops with an error, and the graph that it leaves behind: that of
the records before. -/
inductive Stops (nodes edges : List Value) (ids : IdSource) (error : Error) : Graph → Prop
  | node {earlier rest : List Value} {record : Value} {during : Workspace}
      (split : nodes = earlier ++ record :: rest) (restored : Gives earlier [] ids (.ok () during))
      (fails : Fails (restoreNodeRecord record) error during) :
      Stops nodes edges ids error during.graph
  | edge {earlier rest : List Value} {record : Value} {during : Workspace}
      (split : edges = earlier ++ record :: rest)
      (restored : Gives nodes earlier ids (.ok () during))
      (fails : Fails (restoreEdgeRecord record) error during) :
      Stops nodes edges ids error during.graph

theorem gives_addRecords (nodes edges : List Value) (ids : IdSource) :
    Gives nodes edges ids (addRecords nodes edges ⟨.empty, ids⟩) := by
  intro snapshot listed graph
  cases snapshot with
  | dict fields => exact restoreRecords_of_lists? listed
  | _ => cases listed

theorem addRecords_filter (nodes edges : List Value) :
    addRecords (nodes.filter fun record => !Node.isSkipped record)
      (edges.filter fun record => !Edge.isSkipped record) = addRecords nodes edges := by
  have idleNodes : ∀ record ∈ nodes, (!Node.isSkipped record) = false →
      restoreNodeRecord record = pure () := by
    intro record _ skipped
    funext before
    exact restoreNodeRecord_eq_self_iff.2 (by simpa using skipped)
  have idleEdges : ∀ record ∈ edges, (!Edge.isSkipped record) = false →
      restoreEdgeRecord record = pure () := by
    intro record _ skipped
    funext before
    exact restoreEdgeRecord_eq_self_iff.2 (by simpa using skipped)
  unfold addRecords
  rw [forM_filter idleNodes, forM_filter idleEdges]

theorem stops_of_addRecords {nodes edges : List Value} {ids : IdSource} {error : Error}
    {after : Workspace} (failed : addRecords nodes edges ⟨.empty, ids⟩ = .error error after) :
    Stops nodes edges ids error after.graph := by
  rcases bind_eq_error_iff.1 failed with failed | ⟨_, filled, all, failed⟩
  · obtain ⟨earlier, record, rest, during, split, passed, failed⟩ := forM_eq_error_iff.1 failed
    have stays := (ends_nodeRecord record during).of_error failed
    rw [stays]
    refine .node split ?_ ⟨after, failed⟩
    have whole : addRecords earlier [] ⟨.empty, ids⟩ = .ok () during :=
      bind_eq_ok_iff.2 ⟨(), during, passed, rfl⟩
    rw [← whole]
    exact gives_addRecords earlier [] ids
  · obtain ⟨earlier, record, rest, during, split, passed, failed⟩ := forM_eq_error_iff.1 failed
    have stays := (ends_edgeRecord record during).of_error failed
    rw [stays]
    refine .edge split ?_ ⟨after, failed⟩
    have whole : addRecords nodes earlier ⟨.empty, ids⟩ = .ok () during :=
      bind_eq_ok_iff.2 ⟨(), filled, all, passed⟩
    rw [← whole]
    exact gives_addRecords nodes earlier ids

/-- A snapshot of the wrong shape changes nothing. Any other replaces the graph by what its records
make up; the records that are skipped make no difference, and a record that fails leaves behind the
graph of those before it. -/
theorem replaces_up_to_fault (snapshot : Value) (ids : IdSource) :
    (records? snapshot = none → ∀ graph, ∃ cause,
      restore snapshot ⟨graph, ids⟩ = .error (.snapshot cause) ⟨graph, ids⟩) ∧
    ∀ nodes edges, records? snapshot = some (nodes, edges) → ∃ outcome,
      Gives nodes edges ids outcome ∧
      Gives (nodes.filter fun record => !Node.isSkipped record)
        (edges.filter fun record => !Edge.isSkipped record) ids outcome ∧
      ∀ error after, outcome = .error error after → Stops nodes edges ids error after.graph := by
  constructor
  · intro shapeless graph
    exact restore_of_no_records shapeless
  · intro nodes edges _
    refine ⟨_, gives_addRecords nodes edges ids, ?_, fun error after => stops_of_addRecords⟩
    rw [← addRecords_filter nodes edges]
    exact gives_addRecords _ _ ids

/-- The record of a node with nothing but an id. -/
def bare : Value := .dict [("id", .text "a")]

/-- Two nodes of one id, with a record that is skipped between them. -/
def twice : Value := .dict [("nodes", .list [bare, .null, bare])]

/-- The second node stops the restoring, and the first one stays. -/
theorem twice_stops : records? .null = none ∧
    (∀ graph, ∃ cause, restore .null ⟨graph, ⟨4⟩⟩ = .error (.snapshot cause) ⟨graph, ⟨4⟩⟩) ∧
    records? twice = some ([bare, .null, bare], []) ∧
    ∃ outcome, Gives [bare, .null, bare] [] ⟨4⟩ outcome ∧ Gives [bare, bare] [] ⟨4⟩ outcome ∧
      ∃ left, outcome = .error (.snapshot (.duplicateNode "a")) left ∧
        Stops [bare, .null, bare] [] ⟨4⟩ (.snapshot (.duplicateNode "a")) left.graph := by
  have shapeless := (replaces_up_to_fault .null ⟨4⟩).1 rfl
  obtain ⟨outcome, gives, trimmed, stops⟩ :=
    (replaces_up_to_fault twice ⟨4⟩).2 [bare, .null, bare] [] rfl
  obtain ⟨left, failed⟩ : Fails (restore twice) (.snapshot (.duplicateNode "a"))
      ⟨.empty, ⟨4⟩⟩ := by
    decide +kernel
  have same := (gives twice rfl .empty).symm.trans failed
  exact ⟨rfl, shapeless, rfl, outcome, gives, trimmed, left, same, stops _ left same⟩

end Snapshot

end NodeFlow
