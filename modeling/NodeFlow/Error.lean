import NodeFlow.Json.Reader

/-!
# Errors of graph operations

What can go wrong when a graph is edited, built from a template or preset, or restored from a
snapshot, with the wording of each error.
-/

namespace NodeFlow

/-- The kinds of records in a snapshot. -/
inductive RecordKind where
  | node
  | edge
  deriving DecidableEq, Repr

/-- The name of a kind of record. -/
def RecordKind.name : RecordKind → String
  | node => "node"
  | edge => "edge"

/-- Why a snapshot cannot be restored. -/
inductive SnapshotError where
  /-- A text that is no JSON; `name` says where it comes from. -/
  | notJson (name : String) (problem : Json.Problem) (place : Json.Place)
  | notObject
  | notLists
  /-- A record with a field that cannot be converted; `record` shows it. -/
  | badRecord (kind : RecordKind) (record : String) (cause : ConversionError)
  | duplicateNode (id : String)
  deriving DecidableEq, Repr

/-- The wording for a node id that is already in the graph. -/
def duplicateNodeMessage (id : String) : String :=
  "Graph already has a node with id " ++ Text.quote id

/-- The wording of a snapshot's error. -/
def SnapshotError.message : SnapshotError → String
  | notJson name problem place => name ++ " is not valid JSON: " ++ Json.placedMessage problem place
  | notObject => "Snapshot must be a JSON object."
  | notLists => "Snapshot 'nodes' and 'edges' must be lists."
  | badRecord kind record cause =>
    "Invalid " ++ kind.name ++ " record " ++ record ++ ": " ++ cause.message
  | duplicateNode id => duplicateNodeMessage id

/-- An error of a graph operation. -/
inductive Error where
  | conversion (cause : ConversionError)
  | unknownKind (kind : String)
  | duplicateNode (id : String)
  | unknownPreset (id : String)
  | snapshot (cause : SnapshotError)
  deriving DecidableEq, Repr

/-- The wording of an error. -/
def Error.message : Error → String
  | conversion cause => cause.message
  | unknownKind kind => "Unknown node kind: " ++ Text.quote kind
  | duplicateNode id => duplicateNodeMessage id
  | unknownPreset id => "Unknown preset: " ++ Text.quote id
  | snapshot cause => cause.message

/-- An operation on a state that may fail; a failure keeps what was changed before it. -/
abbrev Edit (σ : Type) := EStateM Error σ

namespace Edit

variable {σ α : Type}

/-- Carries the outcome of a conversion into an operation. -/
def convert : Except ConversionError α → Edit σ α
  | .ok result => fun state => .ok result state
  | .error cause => fun state => .error (.conversion cause) state

theorem convert_eq_ok_iff {outcome : Except ConversionError α} {before after : σ} {result : α} :
    convert outcome before = .ok result after ↔ outcome = .ok result ∧ before = after := by
  cases outcome <;> simp [convert]

theorem convert_eq_error_iff {outcome : Except ConversionError α} {before after : σ}
    {error : Error} : convert outcome before = .error error after ↔
      ∃ cause, outcome = .error cause ∧ error = .conversion cause ∧ before = after := by
  cases outcome <;> simp [convert, eq_comm]

end Edit

end NodeFlow
