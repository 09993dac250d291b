import NodeFlow.Proofs.Json.RoundTrip
import NodeFlow.Proofs.Outcome
import NodeFlow.Snapshot.Export
import NodeFlow.Snapshot.Import

/-!
# Records that read back

A port, node or edge in normal form is restored from its record as it is: its ids, names and
references are not empty, the free tags of its ports are not null, and the points of its edges are
binary64 coordinates. Main statement: the record of a normal form is read as that normal form.
-/

namespace NodeFlow

/-! ## Normal forms -/

/-- A port that no reading changes. -/
structure Port.Normal (port : Port) : Prop where
  named : port.name ≠ ""
  owned : port.owner.isNull = false
  typed : port.type.isNull = false
  placed : port.direction.isNull = false
  storable : port.owner.Storable ∧ port.type.Storable ∧ port.direction.Storable

/-- A node that no reading changes. -/
structure Node.Normal (node : Node) : Prop where
  named : node.id ≠ ""
  ports : ∀ port ∈ node.ports, port.Normal
  storable : (Value.dict node.data).Storable

/-- An end of an edge that no reading changes. -/
inductive Endpoint.Normal : Endpoint → Prop where
  | ref {text : String} (named : text ≠ "") : Normal (.ref text)
  | point (x y : Binary64) : Normal (.point (.float x) (.float y))

/-- An edge that no reading changes. -/
structure Edge.Normal (edge : Edge) : Prop where
  named : edge.id ≠ ""
  source : edge.source.Normal
  target : edge.target.Normal

/-! ## Records can be stored -/

theorem Value.Storable.map {α : Type} {items : List α} {encode : α → Value}
    (each : ∀ item ∈ items, (encode item).Storable) : (Value.list (items.map encode)).Storable := by
  apply list
  intro value member
  obtain ⟨item, present, rfl⟩ := List.mem_map.1 member
  exact each item present

theorem Port.storable_toValue {port : Port} (normal : port.Normal) : port.toValue.Storable := by
  obtain ⟨owner, type, direction⟩ := normal.storable
  apply Value.Storable.dict
  · simp
  intro field member
  simp only [List.mem_cons, List.not_mem_nil, or_false] at member
  rcases member with rfl | rfl | rfl | rfl | rfl | rfl
  · exact .text _
  · exact owner
  · exact .text _
  · exact type
  · exact direction
  · exact .bool _

theorem Node.storable_toValue {node : Node} (normal : node.Normal) : node.toValue.Storable := by
  have ports := Value.Storable.map fun port member =>
    Port.storable_toValue (normal.ports port member)
  have members : (Value.list (node.members.map Value.text)).Storable := .map fun id _ => .text id
  apply Value.Storable.dict
  · simp
  intro field member
  simp only [List.mem_cons, List.not_mem_nil, or_false] at member
  rcases member with
    rfl | rfl | rfl | rfl | rfl | rfl | rfl | rfl | rfl | rfl | rfl | rfl | rfl | rfl
  · exact .text _
  · exact .float _
  · exact .float _
  · exact .float _
  · exact .float _
  · exact .float _
  · exact .text _
  · exact .text _
  · exact .text _
  · exact .text _
  · exact ports
  · exact normal.storable
  · exact .bool _
  · exact members

theorem Endpoint.storable_toValue {endpoint : Endpoint} (normal : endpoint.Normal) :
    endpoint.toValue.Storable := by
  cases normal with
  | ref named => exact .text _
  | point x y =>
    apply Value.Storable.list
    intro item member
    simp only [List.mem_cons, List.not_mem_nil, or_false] at member
    rcases member with rfl | rfl
    · exact .float x
    · exact .float y

theorem Edge.storable_toValue {edge : Edge} (normal : edge.Normal) : edge.toValue.Storable := by
  apply Value.Storable.dict
  · simp
  intro field member
  simp only [List.mem_cons, List.not_mem_nil, or_false] at member
  rcases member with rfl | rfl | rfl | rfl
  · exact .text _
  · exact Endpoint.storable_toValue normal.source
  · exact Endpoint.storable_toValue normal.target
  · exact .bool _

/-! ## Records are read back -/

private theorem tag_of_not_null {fields : Fields} {key : String} {value : Value}
    (found : fields.get key = value) (present : value.isNull = false) (fallback : String) :
    fields.tag key fallback = value := by
  unfold Fields.tag
  rw [found]
  cases value with
  | null => cases present
  | _ => rfl

theorem Value.truthy_text {s : String} (named : s ≠ "") : (Value.text s).truthy = true := by
  simpa [truthy] using named

theorem Port.ofValue?_toValue {port : Port} (normal : port.Normal) (owner : String) :
    Port.ofValue? owner port.toValue = .ok (some port) := by
  obtain ⟨fields, shape⟩ : ∃ fields : Fields, port.toValue = .dict fields := ⟨_, rfl⟩
  have type : fields.get "type" = port.type := by cases shape; rfl
  have direction : fields.get "direction" = port.direction := by cases shape; rfl
  have name : fields.get "name" = .text port.name := by cases shape; rfl
  have id : fields.label "id" "" = .ok port.id := by cases shape; rfl
  have owned : fields.get? "node_id" = some port.owner := by cases shape; rfl
  have isExec : fields.flag "is_exec" = port.isExec := by cases shape; rfl
  have named : (Value.text port.name).truthy = true := Value.truthy_text normal.named
  rw [shape]
  simp only [ofValue?, ofFields?, tag_of_not_null type normal.typed,
    tag_of_not_null direction normal.placed, name, id, owned, isExec, named]
  rfl

theorem Node.ofValue?_toValue {node : Node} (normal : node.Normal) :
    Node.ofValue? node.toValue = .ok (some node) := by
  obtain ⟨fields, shape⟩ : ∃ fields : Fields, node.toValue = .dict fields := ⟨_, rfl⟩
  have id : fields.get "id" = .text node.id := by cases shape; rfl
  have x fallback : fields.coordinate "x" fallback = .ok node.x := by cases shape; rfl
  have y fallback : fields.coordinate "y" fallback = .ok node.y := by cases shape; rfl
  have w fallback : fields.coordinate "w" fallback = .ok node.w := by cases shape; rfl
  have h fallback : fields.coordinate "h" fallback = .ok node.h := by cases shape; rfl
  have r fallback : fields.coordinate "r" fallback = .ok node.r := by cases shape; rfl
  have kind fallback : fields.label "kind" fallback = .ok node.kind := by cases shape; rfl
  have label fallback : fields.label "label" fallback = .ok node.label := by cases shape; rfl
  have fill fallback : fields.label "fill" fallback = .ok node.fill := by cases shape; rfl
  have stroke fallback : fields.label "stroke" fallback = .ok node.stroke := by cases shape; rfl
  have listed : fields.items "members" = .ok (node.members.map Value.text) := by cases shape; rfl
  have drawn : fields.items "ports" = .ok (node.ports.map Port.toValue) := by cases shape; rfl
  have data : dataOf fields = node.data := by cases shape; rfl
  have isGroup : fields.flag "is_group" = node.isGroup := by cases shape; rfl
  have members : (node.members.map Value.text).mapM Value.toText = .ok node.members := by
    have each := @Outcome.mapM_map _ _ _ _ node.members Value.text Value.toText (fun s => s)
      fun _ _ => rfl
    rwa [List.map_id'] at each
  have ports : (node.ports.map Port.toValue).mapM (Port.ofValue? node.id) =
      .ok (node.ports.map some) :=
    Outcome.mapM_map fun port member => Port.ofValue?_toValue (normal.ports port member) node.id
  have kept : (node.ports.map some).filterMap (fun port => port) = node.ports := by
    rw [List.filterMap_map]
    exact List.filterMap_some
  have named : (Value.text node.id).truthy = true := Value.truthy_text normal.named
  have read : (Value.text node.id).toText = .ok node.id := rfl
  rw [shape]
  simp only [ofValue?, ofFields?, id, x, y, w, h, r, kind, label, fill, stroke, listed, drawn,
    data, isGroup, named, read, blank, members, ports, kept, bind, Except.bind]
  rfl

theorem Endpoint.ofValue?_toValue {endpoint : Endpoint} (normal : endpoint.Normal) :
    Endpoint.ofValue? endpoint.toValue = .ok (some endpoint) := by
  cases normal with
  | ref named =>
    simp only [toValue, ofValue?]
    rw [if_neg (by simpa using named)]
  | point x y => rfl

end NodeFlow
