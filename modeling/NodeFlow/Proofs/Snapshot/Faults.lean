import NodeFlow.CommandLine
import NodeFlow.Proofs.Adding
import NodeFlow.Proofs.Coverage
import NodeFlow.Proofs.Session.WellFormed
import NodeFlow.Proofs.Snapshot.Normal
import NodeFlow.Proofs.Value.Entries

/-!
# Which errors a snapshot can bring about

Restoring reports what is wrong with a snapshot as an error of the snapshot, and three failed
conversions escape it: a whole number of too many digits in the text, a coordinate beyond binary64,
and an id that ends in what looks like a number and is none. Main statement: these are all, and the
command that runs a snapshot file passes them on, while it reports every other fault.
-/

namespace NodeFlow

open Edit (Fails fails_bind fails_convert fails_forM_of_each fails_throw not_fails_pure bind_eq_ok_iff)
open IdSource (fresh numberOf? Reservable)

/-! ## What escapes -/

/-- Some of the ids cannot be reserved, the first of them for the cause. -/
inductive IdSource.Obstructs : List String → ConversionError → Prop
  | here {id : String} {rest : List String} {cause : ConversionError}
      (unread : numberOf? id = .error cause) : Obstructs (id :: rest) cause
  | later {id : String} {rest : List String} {cause : ConversionError} (own : Reservable id)
      (obstructs : Obstructs rest cause) : Obstructs (id :: rest) cause

/-- The record of a node, with these ids of nodes before it, fails with an error that is not the
snapshot's. -/
inductive Node.Escapes (taken : List String) (record : Value) : Error → Prop
  | coordinate (beyond : Node.ofValue? record = .error .beyondFloat) :
      Escapes taken record (.conversion .beyondFloat)
  | id {node : Node} {cause : ConversionError} (read : Node.ofValue? record = .ok (some node))
      (new : node.id ∉ taken) (obstructs : IdSource.Obstructs node.marks cause) :
      Escapes taken record (.conversion cause)

/-- The record of an edge fails with an error that is not the snapshot's. Its id is looked at last,
when the counter has brought forth one that is not used. -/
inductive Edge.Escapes (ids : IdSource) : Value → Error → Prop
  | source {fields : Fields}
      (beyond : Endpoint.ofValue? (fields.get "source") = .error .beyondFloat) :
      Escapes ids (.dict fields) (.conversion .beyondFloat)
  | target {fields : Fields} {source : Option Endpoint}
      (begins : Endpoint.ofValue? (fields.get "source") = .ok source)
      (beyond : Endpoint.ofValue? (fields.get "target") = .error .beyondFloat) :
      Escapes ids (.dict fields) (.conversion .beyondFloat)
  | id {fields : Fields} {source target : Endpoint} {id : String} {cause : ConversionError}
      (begins : Endpoint.ofValue? (fields.get "source") = .ok (some source))
      (ends : Endpoint.ofValue? (fields.get "target") = .ok (some target))
      (short : ids.last + 1 < 10 ^ digitLimit) (given : (fields.get "id").truthy = true)
      (named : (fields.get "id").toText = .ok id) (unread : numberOf? id = .error cause) :
      Escapes ids (.dict fields) (.conversion cause)

/-- The text of a snapshot fails with an error that is not the snapshot's: as a text, at the first
node that does, or at the first edge that does, all before it being restored. -/
inductive Workspace.Escapes (ids : IdSource) (text : String) : Error → Prop
  | digits {count : Nat} (long : Json.read text = .error (.digits count)) :
      Escapes ids text (.conversion (.digitsRead count))
  | node {fields : Fields} {nodes earlier rest edges : List Value} {record : Value}
      {during : Workspace} {error : Error} (read : Json.read text = .ok (.dict fields))
      (ofNodes : (fields.get? "nodes").getD (.list []) = .list nodes)
      (ofEdges : (fields.get? "edges").getD (.list []) = .list edges)
      (split : nodes = earlier ++ record :: rest)
      (restored : earlier.forM restoreNodeRecord ⟨.empty, ids⟩ = .ok () during)
      (escapes : Node.Escapes (during.graph.nodes.map Node.id) record error) :
      Escapes ids text error
  | edge {fields : Fields} {nodes edges earlier rest : List Value} {record : Value}
      {filled during : Workspace} {error : Error} (read : Json.read text = .ok (.dict fields))
      (ofNodes : (fields.get? "nodes").getD (.list []) = .list nodes)
      (ofEdges : (fields.get? "edges").getD (.list []) = .list edges)
      (allNodes : nodes.forM restoreNodeRecord ⟨.empty, ids⟩ = .ok () filled)
      (split : edges = earlier ++ record :: rest)
      (restored : earlier.forM restoreEdgeRecord filled = .ok () during)
      (escapes : Edge.Escapes during.ids record error) : Escapes ids text error

/-! ## What is read can be shown -/

namespace Value

theorem Storable.exists_literal {value : Value} (storable : value.Storable) :
    ∃ text, value.literal = .ok text := by
  obtain ⟨chars, written⟩ := storable.exists_write .diagnostic 0
  rw [literal, written]
  exact ⟨_, rfl⟩

theorem Storable.exists_toText {value : Value} (storable : value.Storable) :
    ∃ text, value.toText = .ok text := by
  cases value with
  | text s => exact ⟨s, rfl⟩
  | _ => exact storable.exists_literal

end Value

/-! ## Reserving ids -/

section

variable {error : Error}

theorem IdSource.fails_reserve {id : String} {before : IdSource} :
    Fails (reserve id) error before ↔
      ∃ cause, numberOf? id = .error cause ∧ error = .conversion cause := by
  unfold reserve
  rw [fails_bind, fails_convert]
  refine or_iff_left ?_
  rintro ⟨_, _, _, _, failed⟩
  cases failed

theorem IdSource.exists_reserved {id : String} (own : Reservable id) (before : IdSource) :
    ∃ after, reserve id before = .ok () after := by
  rcases reserve_cases id before with ⟨_, _, passed⟩ | ⟨unread, _⟩
  · exact ⟨_, passed⟩
  · exact absurd own unread

namespace Workspace

variable {before : Workspace}

theorem naming_eq_ok_iff {α : Type} {operation : Edit IdSource α} {result : α}
    {after : Workspace} : naming operation before = .ok result after ↔
      ∃ ids, operation before.ids = .ok result ids ∧ after = { before with ids } := by
  unfold naming
  cases operation before.ids <;> simp [eq_comm]

/-- Ids are reserved up to the first one that cannot be. -/
theorem fails_reserveAll {ids : List String} :
    Fails (ids.forM fun id => naming (IdSource.reserve id)) error before ↔
      ∃ cause, IdSource.Obstructs ids cause ∧ error = .conversion cause := by
  induction ids generalizing before with
  | nil =>
    constructor
    · intro failed
      exact absurd failed (not_fails_pure ())
    · rintro ⟨cause, obstructs, _⟩
      cases obstructs
  | cons id rest ih =>
    refine fails_bind.trans ⟨?_, ?_⟩
    · rintro (failed | ⟨_, during, reserved, failed⟩)
      · obtain ⟨cause, unread, same⟩ := IdSource.fails_reserve.1 (fails_naming.1 failed)
        exact ⟨cause, .here unread, same⟩
      · obtain ⟨_, passed, _⟩ := naming_eq_ok_iff.1 reserved
        obtain ⟨cause, obstructs, same⟩ := ih.1 failed
        rcases IdSource.reserve_cases id before.ids with ⟨number, read, _⟩ | ⟨_, _, stopped⟩
        · exact ⟨cause, .later ⟨number, read⟩ obstructs, same⟩
        · rw [stopped] at passed
          cases passed
    · rintro ⟨cause, obstructs, same⟩
      cases obstructs with
      | here unread => exact .inl (fails_naming.2 (IdSource.fails_reserve.2 ⟨cause, unread, same⟩))
      | later own obstructs =>
        obtain ⟨ids, passed⟩ := IdSource.exists_reserved own before.ids
        exact .inr ⟨(), _, naming_eq_ok_iff.2 ⟨ids, passed, rfl⟩, ih.2 ⟨cause, obstructs, same⟩⟩

theorem fails_addNode {node : Node} :
    Fails (addNode node) error before ↔
      (node.id ∈ before.graph.nodes.map Node.id ∧ error = .duplicateNode node.id) ∨
      (node.id ∉ before.graph.nodes.map Node.id ∧
        ∃ cause, IdSource.Obstructs node.marks cause ∧ error = .conversion cause) := by
  have looks : ∀ next : Graph → Edit Workspace Unit,
      Fails (graphNow >>= next) error before ↔ Fails (next before.graph) error before :=
    fun _ => Iff.rfl
  unfold addNode
  rw [looks]
  by_cases taken : node.id ∈ before.graph.nodes.map Node.id
  · rw [dif_pos taken, fails_throw]
    simp [taken]
  · rw [dif_neg taken]
    have marks : ∀ ports : List Port,
        ((ports.map Port.id).forM fun id => naming (IdSource.reserve id)) =
          ports.forM fun port => naming (IdSource.reserve port.id) := by
      intro ports
      induction ports with
      | nil => rfl
      | cons port rest ih => exact congrArg (naming (IdSource.reserve port.id) >>= fun _ => ·) ih
    have all := @fails_reserveAll error before node.marks
    have unfolded : (node.marks.forM fun id => naming (IdSource.reserve id)) =
        naming (IdSource.reserve node.id) >>= fun _ =>
          node.ports.forM fun port => naming (IdSource.reserve port.id) :=
      congrArg (naming (IdSource.reserve node.id) >>= fun _ => ·) (marks node.ports)
    have added : ∀ during, Fails (node.ports.forM (fun port => naming (IdSource.reserve port.id))
        >>= fun _ => Workspace.change fun _ => before.graph.insertLast node.claimPorts taken)
        error during ↔
          Fails (node.ports.forM fun port => naming (IdSource.reserve port.id)) error during := by
      intro during
      refine fails_bind.trans (or_iff_left ?_)
      rintro ⟨_, _, _, _, failed⟩
      cases failed
    rw [unfolded, fails_bind] at all
    rw [fails_bind]
    simp only [added]
    rw [all]
    simp [taken]

theorem fails_restoreNode {node : Node} (foreign : ∀ cause, error ≠ .snapshot cause) :
    Fails (restoreNode node) error before ↔
      node.id ∉ before.graph.nodes.map Node.id ∧
        ∃ cause, IdSource.Obstructs node.marks cause ∧ error = .conversion cause := by
  have adds := @fails_addNode error before node
  have reported : Fails (restoreNode node) error before ↔
      Fails (addNode node) error before ∧ ∀ id, error ≠ .duplicateNode id := by
    unfold Fails restoreNode
    cases outcome : addNode node before with
    | ok _ later => simp
    | error fault later =>
      cases fault with
      | duplicateNode id =>
        constructor
        · rintro ⟨after, failed⟩
          cases failed
          exact absurd rfl (foreign _)
        · rintro ⟨⟨after, failed⟩, other⟩
          cases failed
          exact absurd rfl (other id)
      | _ =>
        simp only [EStateM.Result.error.injEq]
        constructor
        · rintro ⟨after, rfl, rfl⟩
          exact ⟨⟨_, rfl, rfl⟩, by simp⟩
        · exact fun failed => failed.1
  rw [reported, adds]
  constructor
  · rintro ⟨⟨_, same⟩ | escapes, other⟩
    · exact absurd same (other node.id)
    · exact escapes
  · rintro ⟨new, cause, obstructs, rfl⟩
    exact ⟨.inr ⟨new, cause, obstructs, rfl⟩, fun id same => by cases same⟩

/-! ## Records -/

private theorem kind_eq_magnitude_iff {cause : ConversionError} :
    cause.kind = .magnitude ↔ cause = .beyondFloat := by
  cases cause <;> simp [ConversionError.kind]

/-- Of the conversions that fail inside a record, only one about magnitude is passed on. -/
theorem fails_reading {α : Type} {kind : RecordKind} {record : Value} {read : Edit Workspace α}
    (storable : record.Storable) (foreign : ∀ cause, error ≠ .snapshot cause) :
    Fails (reading kind record read) error before ↔
      Fails read error before ∧ ∀ cause, error = .conversion cause → cause = .beyondFloat := by
  obtain ⟨shown, literal⟩ := storable.exists_literal
  unfold Fails reading
  cases outcome : read before with
  | ok result later => simp
  | error fault later =>
    cases fault with
    | conversion cause =>
      simp only [refuse, kind_eq_magnitude_iff, literal, EStateM.Result.error.injEq]
      by_cases magnitude : cause = .beyondFloat
      · rw [if_pos magnitude]
        constructor
        · rintro ⟨after, failed⟩
          cases failed
          exact ⟨⟨_, rfl, rfl⟩, fun other same => by cases same; exact magnitude⟩
        · rintro ⟨⟨after, rfl, rfl⟩, _⟩
          exact ⟨_, rfl⟩
      · rw [if_neg magnitude]
        constructor
        · rintro ⟨after, failed⟩
          cases failed
          exact absurd rfl (foreign _)
        · rintro ⟨⟨after, rfl, rfl⟩, beyond⟩
          exact absurd (beyond cause rfl) magnitude
    | _ =>
      simp only [EStateM.Result.error.injEq]
      constructor
      · rintro ⟨after, rfl, rfl⟩
        exact ⟨⟨_, rfl, rfl⟩, by simp⟩
      · exact fun failed => failed.1

/-- The record of a node fails as the snapshot's fault, or it escapes. -/
theorem fails_restoreNodeRecord {record : Value} (storable : record.Storable)
    (foreign : ∀ cause, error ≠ .snapshot cause) :
    Fails (restoreNodeRecord record) error before ↔
      Node.Escapes (before.graph.nodes.map Node.id) record error := by
  unfold restoreNodeRecord
  rw [fails_bind, fails_reading storable foreign, fails_convert]
  simp only [reading_eq_ok_iff, Edit.convert_eq_ok_iff]
  constructor
  · rintro (⟨⟨cause, unread, rfl⟩, beyond⟩ | ⟨node?, during, ⟨read, rfl⟩, failed⟩)
    · obtain rfl := beyond cause rfl
      exact .coordinate unread
    · cases node? with
      | none => exact absurd failed (not_fails_pure ())
      | some node =>
        obtain ⟨new, cause, obstructs, rfl⟩ := (fails_restoreNode foreign).1 failed
        exact .id read new obstructs
  · intro escapes
    cases escapes with
    | coordinate beyond =>
      exact .inl ⟨⟨_, beyond, rfl⟩, fun cause same => by cases same; rfl⟩
    | @id node cause read new obstructs =>
      exact .inr ⟨some node, before, ⟨read, rfl⟩,
        (fails_restoreNode foreign).2 ⟨new, cause, obstructs, rfl⟩⟩

theorem fails_addEdge {edge : Edge} :
    Fails (addEdge edge) error before ↔
      ∃ cause, numberOf? edge.id = .error cause ∧ error = .conversion cause := by
  unfold addEdge
  rw [fails_bind, fails_naming, IdSource.fails_reserve]
  refine or_iff_left ?_
  rintro ⟨_, _, _, _, failed⟩
  cases failed

private theorem fails_fresh {label : String} {ids : IdSource}
    (failed : Fails (fresh label) error ids) : error = .conversion .digitsWritten := by
  obtain ⟨after, failed⟩ := failed
  rcases IdSource.fresh_cases label ids with ⟨_, outcome⟩ | ⟨_, outcome⟩ <;>
    rw [outcome] at failed <;> cases failed
  rfl

/-- Reading the fields of an edge is passed on where one of its ends is beyond binary64. -/
theorem ends_of_fails_readEdgeFields? {fields : Fields} (storable : (Value.dict fields).Storable)
    (failed : Fails (readEdgeFields? fields) error before)
    (beyond : ∀ cause, error = .conversion cause → cause = .beyondFloat) :
    error = .conversion .beyondFloat ∧
      (Endpoint.ofValue? (fields.get "source") = .error .beyondFloat ∨
        ∃ source, Endpoint.ofValue? (fields.get "source") = .ok source ∧
          Endpoint.ofValue? (fields.get "target") = .error .beyondFloat) := by
  obtain ⟨shown, named⟩ := (Fields.storable_get storable "id").exists_toText
  unfold readEdgeFields? at failed
  rcases fails_bind.1 failed with failed | ⟨source, _, begins, failed⟩
  · obtain ⟨cause, unread, rfl⟩ := fails_convert.1 failed
    obtain rfl := beyond cause rfl
    exact ⟨rfl, .inl unread⟩
  rcases fails_bind.1 failed with failed | ⟨target, during, ends, failed⟩
  · obtain ⟨cause, unread, rfl⟩ := fails_convert.1 failed
    obtain rfl := beyond cause rfl
    exact ⟨rfl, .inr ⟨source, (Edit.convert_eq_ok_iff.1 begins).1, unread⟩⟩
  exfalso
  rcases source with _ | source
  · exact not_fails_pure _ failed
  rcases target with _ | target
  · exact not_fails_pure _ failed
  rcases fails_bind.1 failed with failed | ⟨generated, _, _, failed⟩
  · cases beyond _ (fails_fresh (fails_naming.1 failed))
  · dsimp only at failed
    rw [named] at failed
    split at failed <;> exact not_fails_pure _ failed

/-- An edge that is read has two ends, and its own id or the next one of the counter, which is used up
in either case. -/
theorem ends_of_readEdgeFields? {fields : Fields} {edge : Edge} {after : Workspace}
    (read : readEdgeFields? fields before = .ok (some edge) after) :
    (∃ source, Endpoint.ofValue? (fields.get "source") = .ok (some source)) ∧
    (∃ target, Endpoint.ofValue? (fields.get "target") = .ok (some target)) ∧
    before.ids.last + 1 < 10 ^ digitLimit ∧
    after = { before with ids := ⟨before.ids.last + 1⟩ } ∧
    (((fields.get "id").truthy = true ∧ (fields.get "id").toText = .ok edge.id) ∨
      ((fields.get "id").truthy = false ∧
        edge.id = IdSource.generated "edge" (before.ids.last + 1))) := by
  unfold readEdgeFields? at read
  obtain ⟨source, _, converted, read⟩ := bind_eq_ok_iff.1 read
  obtain ⟨begins, rfl⟩ := Edit.convert_eq_ok_iff.1 converted
  obtain ⟨target, _, converted, read⟩ := bind_eq_ok_iff.1 read
  obtain ⟨ends, rfl⟩ := Edit.convert_eq_ok_iff.1 converted
  rcases source with _ | source
  · cases read
  rcases target with _ | target
  · cases read
  obtain ⟨generated, _, named, read⟩ := bind_eq_ok_iff.1 read
  obtain ⟨ids, issued, rfl⟩ := naming_eq_ok_iff.1 named
  rcases IdSource.fresh_cases "edge" before.ids with ⟨short, outcome⟩ | ⟨_, outcome⟩ <;>
    rw [outcome] at issued <;> cases issued
  dsimp only at read
  split at read
  · rename_i given
    obtain ⟨id, _, converted, read⟩ := bind_eq_ok_iff.1 read
    obtain ⟨shown, rfl⟩ := Edit.convert_eq_ok_iff.1 converted
    cases read
    exact ⟨⟨source, begins⟩, ⟨target, ends⟩, short, rfl, .inl ⟨given, shown⟩⟩
  · rename_i absent
    cases read
    exact ⟨⟨source, begins⟩, ⟨target, ends⟩, short, rfl, .inr ⟨by simpa using absent, rfl⟩⟩

/-- The record of an edge fails as the snapshot's fault, or it escapes. -/
theorem fails_restoreEdgeRecord {record : Value} (storable : record.Storable)
    (foreign : ∀ cause, error ≠ .snapshot cause) :
    Fails (restoreEdgeRecord record) error before ↔ Edge.Escapes before.ids record error := by
  unfold restoreEdgeRecord
  rw [fails_bind, fails_reading storable foreign]
  simp only [reading_eq_ok_iff]
  constructor
  · rintro (⟨failed, beyond⟩ | ⟨edge?, during, read, failed⟩)
    · cases record with
      | dict fields =>
        obtain ⟨rfl, unread | ⟨source, begins, unread⟩⟩ :=
          ends_of_fails_readEdgeFields? storable failed beyond
        · exact .source unread
        · exact .target begins unread
      | _ => exact absurd failed (not_fails_pure _)
    · cases edge? with
      | none => exact absurd failed (not_fails_pure ())
      | some edge =>
        obtain ⟨cause, unread, rfl⟩ := fails_addEdge.1 failed
        cases record with
        | dict fields =>
          obtain ⟨⟨source, begins⟩, ⟨target, ends⟩, short, _, ⟨given, named⟩ | ⟨_, generated⟩⟩ :=
            ends_of_readEdgeFields? read
          · exact .id begins ends short given named unread
          · obtain ⟨number, readable⟩ := @IdSource.reservable_generated "edge" _ short
            rw [generated, readable] at unread
            cases unread
        | _ => cases read
  · intro escapes
    cases escapes with
    | source beyond =>
      refine .inl ⟨fails_bind.2 (.inl (fails_convert.2 ⟨_, beyond, rfl⟩)), ?_⟩
      rintro cause ⟨⟩
      rfl
    | @target fields source begins beyond =>
      refine .inl ⟨fails_bind.2 (.inr ⟨source, before, ?_, ?_⟩), ?_⟩
      · exact Edit.convert_eq_ok_iff.2 ⟨begins, rfl⟩
      · exact fails_bind.2 (.inl (fails_convert.2 ⟨_, beyond, rfl⟩))
      · rintro cause ⟨⟩
        rfl
    | @id fields source target id cause begins ends short given named unread =>
      refine .inr ⟨some ⟨id, source, target, fields.flag "is_exec"⟩,
        ⟨before.graph, ⟨before.ids.last + 1⟩⟩, ?_, fails_addEdge.2 ⟨cause, unread, rfl⟩⟩
      have issued : fresh "edge" before.ids =
          .ok (IdSource.generated "edge" (before.ids.last + 1)) ⟨before.ids.last + 1⟩ := by
        rcases IdSource.fresh_cases "edge" before.ids with ⟨_, outcome⟩ | ⟨long, _⟩
        · exact outcome
        · exact absurd short (Nat.not_lt.2 long)
      refine bind_eq_ok_iff.2 ⟨some source, before, Edit.convert_eq_ok_iff.2 ⟨begins, rfl⟩, ?_⟩
      refine bind_eq_ok_iff.2 ⟨some target, before, Edit.convert_eq_ok_iff.2 ⟨ends, rfl⟩, ?_⟩
      refine bind_eq_ok_iff.2 ⟨_, _, naming_eq_ok_iff.2 ⟨_, issued, rfl⟩, ?_⟩
      dsimp only
      rw [if_pos given, named]
      rfl

/-! ## Texts -/

private theorem storable_records {fields : Fields} (storable : (Value.dict fields).Storable)
    {key : String} {records : List Value}
    (listed : (fields.get? key).getD (.list []) = .list records) :
    ∀ record ∈ records, record.Storable := by
  have whole : (Value.list records).Storable := by
    rw [← listed]
    cases found : Keyed.get? key fields with
    | none => exact .list (by simp)
    | some value => exact Fields.storable_of_get? storable found
  cases whole with
  | list stored => exact stored

/-- The nodes are restored one after the other, and then the edges. -/
theorem fails_restore {fields : Fields} {nodes edges : List Value}
    (storable : (Value.dict fields).Storable)
    (ofNodes : (fields.get? "nodes").getD (.list []) = .list nodes)
    (ofEdges : (fields.get? "edges").getD (.list []) = .list edges)
    (foreign : ∀ cause, error ≠ .snapshot cause) :
    Fails (restore (.dict fields)) error before ↔
      (∃ earlier record rest during, nodes = earlier ++ record :: rest ∧
        earlier.forM restoreNodeRecord ⟨.empty, before.ids⟩ = .ok () during ∧
        Node.Escapes (during.graph.nodes.map Node.id) record error) ∨
      ∃ filled, nodes.forM restoreNodeRecord ⟨.empty, before.ids⟩ = .ok () filled ∧
        ∃ earlier record rest during, edges = earlier ++ record :: rest ∧
          earlier.forM restoreEdgeRecord filled = .ok () during ∧
          Edge.Escapes during.ids record error := by
  have cleared : Fails (restoreRecords (.list nodes) (.list edges)) error before ↔
      Fails (nodes.forM restoreNodeRecord >>= fun _ => edges.forM restoreEdgeRecord) error
        ⟨.empty, before.ids⟩ := Iff.rfl
  have nodesFail := @fails_forM_of_each _ _ _ error ⟨.empty, before.ids⟩ nodes restoreNodeRecord _
    fun record listed during =>
      fails_restoreNodeRecord (storable_records storable ofNodes record listed) foreign
  have edgesFail := fun filled => @fails_forM_of_each _ _ _ error filled edges restoreEdgeRecord _
    fun record listed during =>
      fails_restoreEdgeRecord (storable_records storable ofEdges record listed) foreign
  rw [restore, restoreFields, ofNodes, ofEdges, cleared, fails_bind, nodesFail]
  refine or_congr Iff.rfl ?_
  constructor
  · rintro ⟨_, filled, all, failed⟩
    exact ⟨filled, all, (edgesFail filled).1 failed⟩
  · rintro ⟨filled, all, escapes⟩
    exact ⟨(), filled, all, (edgesFail filled).2 escapes⟩

theorem parse_eq_ok_iff {name text : String} {snapshot : Value} {after : Workspace} :
    parse name text before = .ok snapshot after ↔
      Json.read text = .ok snapshot ∧ after = before := by
  unfold parse
  cases Json.read text with
  | ok value => simp [pure, EStateM.pure, eq_comm]
  | error stop =>
    constructor
    · intro passed
      cases stop <;> cases passed
    · rintro ⟨read, _⟩
      cases read

/-- A text is restored if it is read as a snapshot that is restored. -/
theorem restoreText_eq_ok_iff {name text : String} {after : Workspace} :
    (do restore (← parse name text)) before = .ok () after ↔
      ∃ snapshot, Json.read text = .ok snapshot ∧ restore snapshot before = .ok () after := by
  rw [bind_eq_ok_iff]
  constructor
  · rintro ⟨snapshot, during, parsed, restored⟩
    obtain ⟨read, rfl⟩ := parse_eq_ok_iff.1 parsed
    exact ⟨snapshot, read, restored⟩
  · rintro ⟨snapshot, read, restored⟩
    exact ⟨snapshot, before, parse_eq_ok_iff.2 ⟨read, rfl⟩, restored⟩

theorem fails_parse {name text : String} (foreign : ∀ cause, error ≠ .snapshot cause) :
    Fails (parse name text) error before ↔
      ∃ count, Json.read text = .error (.digits count) ∧
        error = .conversion (.digitsRead count) := by
  unfold parse
  cases Json.read text with
  | ok value => simpa using not_fails_pure value
  | error stop =>
    cases stop with
    | problem what place => simpa [fails_throw] using foreign _
    | digits count => simp [fails_throw]

private theorem lists_of_fails_restoreRecords {nodes edges : Value}
    (failed : Fails (restoreRecords nodes edges) error before)
    (foreign : ∀ cause, error ≠ .snapshot cause) :
    ∃ ofNodes ofEdges, nodes = .list ofNodes ∧ edges = .list ofEdges := by
  unfold restoreRecords at failed
  split at failed
  · exact ⟨_, _, rfl, rfl⟩
  · exact absurd (fails_throw.1 failed) (foreign _)

/-- A text fails as the snapshot's fault, or it escapes, whatever it is called. -/
theorem fails_restoreText {name text : String} (foreign : ∀ cause, error ≠ .snapshot cause) :
    Fails (do restore (← parse name text)) error before ↔ Escapes before.ids text error := by
  rw [fails_bind, fails_parse foreign]
  simp only [parse_eq_ok_iff]
  constructor
  · rintro (⟨count, long, rfl⟩ | ⟨snapshot, _, ⟨read, rfl⟩, failed⟩)
    · exact .digits long
    have storable := Json.storable_of_read read
    cases snapshot with
    | dict fields =>
      obtain ⟨nodes, edges, ofNodes, ofEdges⟩ := lists_of_fails_restoreRecords failed foreign
      rcases (fails_restore storable ofNodes ofEdges foreign).1 failed with
        ⟨earlier, record, rest, during, split, restored, escapes⟩ |
        ⟨filled, all, earlier, record, rest, during, split, restored, escapes⟩
      · exact .node read ofNodes ofEdges split restored escapes
      · exact .edge read ofNodes ofEdges all split restored escapes
    | _ => exact absurd (fails_throw.1 failed) (foreign _)
  · intro escapes
    cases escapes with
    | digits long => exact .inl ⟨_, long, rfl⟩
    | node read ofNodes ofEdges split restored escapes =>
      have storable := Json.storable_of_read read
      refine .inr ⟨_, before, ⟨read, rfl⟩, (fails_restore storable ofNodes ofEdges foreign).2 ?_⟩
      exact .inl ⟨_, _, _, _, split, restored, escapes⟩
    | edge read ofNodes ofEdges all split restored escapes =>
      have storable := Json.storable_of_read read
      refine .inr ⟨_, before, ⟨read, rfl⟩, (fails_restore storable ofNodes ofEdges foreign).2 ?_⟩
      exact .inr ⟨_, all, _, _, _, _, split, restored, escapes⟩

/-- What escapes is a failed conversion. -/
theorem Escapes.exists_cause {ids : IdSource} {text : String} (escapes : Escapes ids text error) :
    ∃ cause, error = .conversion cause := by
  cases escapes with
  | digits => exact ⟨_, rfl⟩
  | node _ _ _ _ _ escapes => cases escapes <;> exact ⟨_, rfl⟩
  | edge _ _ _ _ _ _ escapes => cases escapes <;> exact ⟨_, rfl⟩

end Workspace

end

/-! ## Loading and running -/

namespace Command

open Workspace (Escapes load parse restore fails_restoreText replacing_eq_ok_iff
  restoreText_eq_ok_iff)

/-- A file that holds the text is loaded and run, or its fault is reported, or what escapes is
passed on. -/
theorem runFile_cases {bytes : ByteArray} {decoded text : String}
    (decodes : Text.decodeUtf8 bytes = .ok decoded)
    (folds : String.ofList (Text.foldLineEnds decoded.toList) = text) (path : String)
    (maxSteps : Int) (dump : Bool) (before : Workspace) :
    (∃ cause, Escapes before.ids text (.conversion cause) ∧
      runFile path bytes maxSteps dump before.ids = .crashed "" (.conversion cause)) ∨
    (∃ cause : SnapshotError, (∀ error, ¬ Escapes before.ids text error) ∧
      runFile path bytes maxSteps dump before.ids = .reported "" cause.message) ∨
    ∃ loaded, load text before = .ok () loaded ∧
      runFile path bytes maxSteps dump before.ids = runGraph loaded.graph maxSteps dump := by
  simp only [runFile, decodes, loadFile, folds]
  cases outcome : (do restore (← parse (Path.plain path) text) : Edit Workspace Unit)
      ⟨.empty, before.ids⟩ with
  | ok _ loaded =>
    have loads : load text before = .ok () loaded := by
      rw [load, replacing_eq_ok_iff, restoreText_eq_ok_iff]
      exact restoreText_eq_ok_iff.1 outcome
    exact .inr (.inr ⟨loaded, loads, rfl⟩)
  | error error later =>
    by_cases foreign : ∀ cause, error ≠ .snapshot cause
    · have escapes := (fails_restoreText foreign).1 ⟨later, outcome⟩
      obtain ⟨cause, rfl⟩ := escapes.exists_cause
      exact .inl ⟨cause, escapes, rfl⟩
    · simp only [ne_eq, not_forall, not_not] at foreign
      obtain ⟨cause, rfl⟩ := foreign
      refine .inr (.inl ⟨cause, fun error escapes => ?_, rfl⟩)
      obtain ⟨conversion, rfl⟩ := escapes.exists_cause
      obtain ⟨_, failed⟩ := (@fails_restoreText _ ⟨.empty, before.ids⟩ (Path.plain path) text
        (by simp)).2 escapes
      rw [outcome] at failed
      cases failed

/-- Loading a text fails with an error of the snapshot or with what escapes, and it does fail where
something escapes. A file that holds the text is loaded and run if loading succeeds; of what fails,
the command reports the errors of the snapshot, and passes on what escapes. -/
theorem faults_of_text (text : String) (before : Workspace) :
    (∀ error, Fails (load text) error before →
      (∃ cause, error = .snapshot cause) ∨ Escapes before.ids text error) ∧
    (∀ error, Escapes before.ids text error →
      (∃ cause, error = .conversion cause) ∧ Fails (load text) error before) ∧
    ∀ path bytes maxSteps dump decoded, Text.decodeUtf8 bytes = .ok decoded →
      String.ofList (Text.foldLineEnds decoded.toList) = text →
      (∃ cause, Escapes before.ids text (.conversion cause) ∧
        runFile path bytes maxSteps dump before.ids = .crashed "" (.conversion cause)) ∨
      (∃ cause : SnapshotError, (∀ error, ¬ Escapes before.ids text error) ∧
        runFile path bytes maxSteps dump before.ids = .reported "" cause.message) ∨
      ∃ loaded, load text before = .ok () loaded ∧
        runFile path bytes maxSteps dump before.ids = runGraph loaded.graph maxSteps dump := by
  refine ⟨fun error failed => ?_, fun error escapes => ?_, ?_⟩
  · by_cases foreign : ∀ cause, error ≠ .snapshot cause
    · have built := Workspace.fails_replacing.1 failed
      exact .inr ((@fails_restoreText _ ⟨.empty, before.ids⟩ "Snapshot" text foreign).1 built)
    · simp only [ne_eq, not_forall, not_not] at foreign
      exact .inl foreign
  · obtain ⟨cause, rfl⟩ := escapes.exists_cause
    have fails := (@fails_restoreText _ ⟨.empty, before.ids⟩ "Snapshot" text (by simp)).2 escapes
    exact ⟨⟨cause, rfl⟩, Workspace.fails_replacing.2 fails⟩
  · intro path bytes maxSteps dump decoded decodes folds
    exact runFile_cases decodes folds path maxSteps dump before

/-- A node whose id ends in a superscript digit. -/
def superscriptId : String :=
  "\x7b\"nodes\": [\x7b\"id\": \"n_\u00b2\"\x7d]\x7d"

/-- The failed conversion of the id escapes. -/
theorem superscriptId_escapes : ∃ cause later,
    load superscriptId ⟨.empty, ⟨0⟩⟩ = .error (.conversion cause) later ∧
      (runFile "graph.json" superscriptId.toUTF8 1 false ⟨0⟩).crash =
        some (.conversion cause) := by
  obtain ⟨later, fails⟩ : Fails (load superscriptId)
      (.conversion (.malformedInteger (String.singleton '\u00b2'))) ⟨.empty, ⟨0⟩⟩ := by
    decide +kernel
  exact ⟨_, later, fails, by decide +kernel⟩

end Command

end NodeFlow
