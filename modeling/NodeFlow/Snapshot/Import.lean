import NodeFlow.Graph.Editing
import NodeFlow.Value.Literal

/-!
# Restoring snapshots

A snapshot is read leniently: records that name nothing are skipped, absent fields get defaults,
ids, labels and members of any type become texts, and ports and edges are not checked against each
other. A field that cannot be converted ends the restoring; what was restored before stays.
-/

namespace NodeFlow

/-! ## Records -/

namespace Fields

/-- A coordinate, or its default if the field is absent. -/
def coordinate (fields : Fields) (key : String) (fallback : Binary64) :
    Except ConversionError Binary64 :=
  ((fields.get? key).map Value.toFloat).getD (.ok fallback)

/-- A text, or its default if the field is absent. -/
def label (fields : Fields) (key fallback : String) : Except ConversionError String :=
  ((fields.get? key).map Value.toText).getD (.ok fallback)

/-- A flag, off if the field is absent. -/
def flag (fields : Fields) (key : String) : Bool :=
  ((fields.get? key).map Value.truthy).getD false

/-- The items of a field, none if it is absent. -/
def items (fields : Fields) (key : String) : Except ConversionError (List Value) :=
  ((fields.get? key).map Value.items).getD (.ok [])

/-- A tag of a port, or its default if the field is absent or null. -/
def tag (fields : Fields) (key fallback : String) : Value :=
  match fields.get key with
  | .null => .text fallback
  | value => value

end Fields

namespace Port

/-- Reads the fields of a port; without a name there is none. -/
def ofFields? (owner : String) (fields : Fields) : Except ConversionError (Option Port) :=
  if !(fields.get "name").truthy then .ok none
  else do
    let id ← fields.label "id" ""
    let name ← (fields.get "name").toText
    return some {
      id, name
      owner := (fields.get? "node_id").getD (.text owner)
      type := fields.tag "type" PortType.number.tag
      direction := fields.tag "direction" Direction.input.tag
      isExec := fields.flag "is_exec" }

/-- Reads a port of a node; a record that is no mapping is none. -/
def ofValue? (owner : String) : Value → Except ConversionError (Option Port)
  | .dict fields => ofFields? owner fields
  | _ => .ok none

end Port

namespace Node

/-- The data in a node's fields; what is no mapping is no data. -/
def dataOf (fields : Fields) : Fields :=
  match fields.get "data" with
  | .dict data => data
  | _ => []

/-- Reads the fields of a node; without an id there is none. -/
def ofFields? (fields : Fields) : Except ConversionError (Option Node) :=
  if !(fields.get "id").truthy then .ok none
  else do
    let base := blank (← (fields.get "id").toText)
    let x ← fields.coordinate "x" base.x
    let y ← fields.coordinate "y" base.y
    let w ← fields.coordinate "w" base.w
    let h ← fields.coordinate "h" base.h
    let r ← fields.coordinate "r" base.r
    let kind ← fields.label "kind" base.kind
    let label ← fields.label "label" base.label
    let fill ← fields.label "fill" base.fill
    let stroke ← fields.label "stroke" base.stroke
    let members ← (← fields.items "members").mapM Value.toText
    let ports ← (← fields.items "ports").mapM (Port.ofValue? base.id)
    return some {
      id := base.id, x, y, w, h, r, kind, label, fill, stroke, members
      ports := ports.filterMap fun port => port
      data := dataOf fields
      isGroup := fields.flag "is_group" }

/-- Reads a node; a record that is no mapping is none. -/
def ofValue? : Value → Except ConversionError (Option Node)
  | .dict fields => ofFields? fields
  | _ => .ok none

end Node

namespace Endpoint

/-- Reads one end of an edge: a text that is not empty, or the two coordinates of a point. -/
def ofValue? : Value → Except ConversionError (Option Endpoint)
  | .text s => .ok (if s.isEmpty then none else some (.ref s))
  | .list [x, y] => do return some (.point (.float (← x.toFloat)) (.float (← y.toFloat)))
  | _ => .ok none

end Endpoint

/-! ## Restoring -/

namespace Workspace

/-- Reports a failed conversion inside a record with the record. One that is about magnitude is
reported as it is, and so is the failure to show the record. -/
def refuse {α : Type} (kind : RecordKind) (record : Value) (cause : ConversionError) :
    Edit Workspace α :=
  if cause.kind = .magnitude then throw (.conversion cause)
  else
    match record.literal with
    | .ok shown => throw (.snapshot (.badRecord kind shown cause))
    | .error unshown => throw (.conversion unshown)

/-- Runs the reading of a record and reports its failed conversions with the record. -/
def reading {α : Type} (kind : RecordKind) (record : Value) (read : Edit Workspace α) :
    Edit Workspace α := fun workspace =>
  match read workspace with
  | .error (.conversion cause) later => refuse kind record cause later
  | outcome => outcome

/-- Adds a node; an id that is taken is the snapshot's fault. -/
def restoreNode (node : Node) : Edit Workspace Unit := fun workspace =>
  match addNode node workspace with
  | .error (.duplicateNode id) later => .error (.snapshot (.duplicateNode id)) later
  | outcome => outcome

/-- Restores the node of a record. -/
def restoreNodeRecord (record : Value) : Edit Workspace Unit := do
  match ← reading .node record (Edit.convert (Node.ofValue? record)) with
  | some node => restoreNode node
  | none => pure ()

/-- Reads the fields of an edge; without two ends there is none. Every edge uses up a fresh id,
also one that brings its own. -/
def readEdgeFields? (fields : Fields) : Edit Workspace (Option Edge) := do
  let source ← Edit.convert (Endpoint.ofValue? (fields.get "source"))
  let target ← Edit.convert (Endpoint.ofValue? (fields.get "target"))
  match source, target with
  | some source, some target =>
    let generated ← naming (IdSource.fresh "edge")
    let given := fields.get "id"
    let id ← if given.truthy then Edit.convert given.toText else pure generated
    return some ⟨id, source, target, fields.flag "is_exec"⟩
  | _, _ => return none

/-- Reads the edge of a record; a record that is no mapping is none. -/
def readEdge? : Value → Edit Workspace (Option Edge)
  | .dict fields => readEdgeFields? fields
  | _ => return none

/-- Restores the edge of a record. -/
def restoreEdgeRecord (record : Value) : Edit Workspace Unit := do
  match ← reading .edge record (readEdge? record) with
  | some edge => addEdge edge
  | none => pure ()

/-- Replaces the graph by the one that lists of nodes and edges make up. -/
def restoreRecords : (nodes edges : Value) → Edit Workspace Unit
  | .list nodes, .list edges => do
    clear
    nodes.forM restoreNodeRecord
    edges.forM restoreEdgeRecord
  | _, _ => throw (.snapshot .notLists)

/-- Replaces the graph by that of a snapshot's fields. -/
def restoreFields (fields : Fields) : Edit Workspace Unit :=
  restoreRecords ((fields.get? "nodes").getD (.list [])) ((fields.get? "edges").getD (.list []))

/-- Replaces the graph by that of a snapshot. A snapshot of the wrong shape changes nothing. -/
def restore : (snapshot : Value) → Edit Workspace Unit
  | .dict fields => restoreFields fields
  | _ => throw (.snapshot .notObject)

/-- Reads the JSON text of a snapshot; `name` says where it comes from. -/
def parse (name text : String) : Edit Workspace Value :=
  match Json.read text with
  | .ok snapshot => pure snapshot
  | .error (.problem what place) => throw (.snapshot (.notJson name what place))
  | .error (.digits count) => throw (.conversion (.digitsRead count))

/-- Replaces the graph by that of a snapshot's text; on an error the graph stays. -/
def load (text : String) : Edit Workspace Unit :=
  replacing do restore (← parse "Snapshot" text)

end Workspace

end NodeFlow
