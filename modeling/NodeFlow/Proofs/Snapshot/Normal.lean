import NodeFlow.Graph.Editing
import NodeFlow.Proofs.Json.Reading
import NodeFlow.Proofs.Snapshot.Records

/-!
# What is read from a record is normal

However lenient the reading of a record is, it ends in a normal form: ids and names come from values
that count, absent and null tags get their defaults, and the points of edges become binary64. Main
statement: the node that is restored from a record is normal once its ports are claimed.
-/

namespace NodeFlow

open Outcome (bind_eq_ok map_eq_ok)

/-! ## Texts that are not empty -/

theorem Layout.write_data_ne_nil (negative : Bool) (d : Decimal) :
    Layout.data.write negative d ≠ [] := by
  obtain ⟨c, tail, shape, _⟩ := Json.exists_digit_of_write d negative
  rw [shape]
  simp

theorem Style.float_diagnostic_ne_nil (x : Binary64) : Style.diagnostic.float x ≠ [] := by
  cases x with
  | nan => decide
  | infinite negative => cases negative <;> decide
  | finite negative units bounded => exact Layout.write_data_ne_nil negative _

theorem Value.write_diagnostic_ne_nil {value : Value} {chars : List Char}
    (written : value.write .diagnostic 0 = .ok chars) : chars ≠ [] := by
  cases value with
  | null =>
    simp only [write, Except.ok.injEq] at written
    simp [← written, Style.diagnostic]
  | bool b =>
    simp only [write, Except.ok.injEq] at written
    cases b <;> simp [← written, Style.diagnostic]
  | int n =>
    have digits : Nat.toDigits 10 n.natAbs ≠ [] := by simp
    obtain ⟨_, shape⟩ := Json.writeInt_eq_ok written
    simp [shape, digits]
  | float x =>
    simp only [write, Except.ok.injEq] at written
    rw [← written]
    exact Style.float_diagnostic_ne_nil x
  | text s =>
    simp only [write, Except.ok.injEq] at written
    simp [← written, Style.diagnostic, Text.quote]
  | list items =>
    cases items with
    | nil =>
      simp only [write, Except.ok.injEq] at written
      simp [← written]
    | cons item rest =>
      obtain ⟨first, _, done⟩ := bind_eq_ok.1 written
      obtain ⟨others, _, done⟩ := bind_eq_ok.1 done
      cases done
      simp
  | dict fields =>
    cases fields with
    | nil =>
      simp only [write, Except.ok.injEq] at written
      simp [← written]
    | cons field rest =>
      obtain ⟨first, _, done⟩ := bind_eq_ok.1 written
      obtain ⟨others, _, done⟩ := bind_eq_ok.1 done
      cases done
      simp

/-- A value that counts has a text that is not empty. -/
theorem Value.toText_ne_empty {value : Value} {s : String} (counts : value.truthy = true)
    (shown : value.toText = .ok s) : s ≠ "" := by
  have literal : value.literal = .ok s → s ≠ "" := by
    intro done
    obtain ⟨chars, written, rfl⟩ := map_eq_ok.1 done
    simpa using write_diagnostic_ne_nil written
  cases value with
  | text t =>
    cases shown
    simpa [truthy] using counts
  | _ => exact literal shown

/-! ## Fields of storable mappings -/

namespace Fields

variable {fields : Fields}

theorem storable_of_get? (storable : (Value.dict fields).Storable) {key : String} {value : Value}
    (found : Keyed.get? key fields = some value) : value.Storable := by
  cases storable with
  | dict _ stored => exact stored _ (Keyed.mem_of_get? found)

theorem storable_get (storable : (Value.dict fields).Storable) (key : String) :
    (Fields.get fields key).Storable := by
  unfold Fields.get
  cases found : Keyed.get? key fields with
  | none => exact .null
  | some value => exact storable_of_get? storable found

theorem isNull_tag (key fallback : String) : (fields.tag key fallback).isNull = false := by
  unfold Fields.tag
  split
  · rfl
  · rename_i present
    cases value : Fields.get fields key with
    | null => exact absurd value present
    | _ => rfl

theorem storable_tag (storable : (Value.dict fields).Storable) (key fallback : String) :
    (fields.tag key fallback).Storable := by
  unfold Fields.tag
  split
  · exact .text _
  · exact storable_get storable key

theorem storable_items (storable : (Value.dict fields).Storable) {key : String}
    {items : List Value} (walked : fields.items key = .ok items) {item : Value}
    (member : item ∈ items) : item.Storable := by
  unfold Fields.items at walked
  cases found : Keyed.get? key fields with
  | none =>
    rw [found] at walked
    cases walked
    cases member
  | some value =>
    rw [found] at walked
    have stored := storable_of_get? storable found
    cases value with
    | text s =>
      cases walked
      obtain ⟨c, _, rfl⟩ := List.mem_map.1 member
      exact .text _
    | list values =>
      cases walked
      cases stored with
      | list each => exact each item member
    | dict entries =>
      cases walked
      obtain ⟨entry, _, rfl⟩ := List.mem_map.1 member
      exact .text _
    | _ => cases walked

theorem storable_data (storable : (Value.dict fields).Storable) :
    (Value.dict (Node.dataOf fields)).Storable := by
  have data := storable_get storable "data"
  unfold Node.dataOf
  split
  · rename_i found
    rwa [found] at data
  · exact .dict List.nodup_nil (by simp)

end Fields

/-! ## Ports and nodes -/

/-- A port that is read is normal once it has an owner. -/
theorem Port.normal_of_ofValue? {owner : String} {record : Value} {port : Port}
    (storable : record.Storable) (read : Port.ofValue? owner record = .ok (some port))
    (id : String) :
    Normal (if port.owner.isNull then { port with owner := .text id } else port) := by
  cases record with
  | dict fields =>
    have read : ofFields? owner fields = .ok (some port) := read
    unfold ofFields? at read
    by_cases counts : (Fields.get fields "name").truthy = true
    · rw [if_neg (by simp [counts])] at read
      obtain ⟨portId, _, read⟩ := bind_eq_ok.1 read
      obtain ⟨name, shown, read⟩ := bind_eq_ok.1 read
      cases read
      have named := Value.toText_ne_empty counts shown
      have typed := @Fields.isNull_tag fields "type" PortType.number.tag
      have placed := @Fields.isNull_tag fields "direction" Direction.input.tag
      have type := Fields.storable_tag storable "type" PortType.number.tag
      have direction := Fields.storable_tag storable "direction" Direction.input.tag
      have owned : ((Keyed.get? "node_id" fields).getD (.text owner)).Storable := by
        cases found : Keyed.get? "node_id" fields with
        | none => exact .text owner
        | some value => exact Fields.storable_of_get? storable found
      by_cases absent : ((Keyed.get? "node_id" fields).getD (.text owner)).isNull = true
      · rw [if_pos absent]
        exact ⟨named, rfl, typed, placed, .text id, type, direction⟩
      · rw [if_neg absent]
        exact ⟨named, by simpa using absent, typed, placed, owned, type, direction⟩
    · rw [if_pos (by simp [counts])] at read
      cases read
  | _ => cases read

theorem Node.normal_of_ofValue? {record : Value} {node : Node} (storable : record.Storable)
    (read : Node.ofValue? record = .ok (some node)) : node.claimPorts.Normal := by
  cases record with
  | dict fields =>
    have read : ofFields? fields = .ok (some node) := read
    unfold ofFields? at read
    by_cases counts : (Fields.get fields "id").truthy = true
    · rw [if_neg (by simp [counts])] at read
      obtain ⟨id, shown, read⟩ := bind_eq_ok.1 read
      obtain ⟨x, _, read⟩ := bind_eq_ok.1 read
      obtain ⟨y, _, read⟩ := bind_eq_ok.1 read
      obtain ⟨w, _, read⟩ := bind_eq_ok.1 read
      obtain ⟨h, _, read⟩ := bind_eq_ok.1 read
      obtain ⟨r, _, read⟩ := bind_eq_ok.1 read
      obtain ⟨kind, _, read⟩ := bind_eq_ok.1 read
      obtain ⟨label, _, read⟩ := bind_eq_ok.1 read
      obtain ⟨fill, _, read⟩ := bind_eq_ok.1 read
      obtain ⟨stroke, _, read⟩ := bind_eq_ok.1 read
      obtain ⟨listed, _, read⟩ := bind_eq_ok.1 read
      obtain ⟨members, _, read⟩ := bind_eq_ok.1 read
      obtain ⟨drawn, walked, read⟩ := bind_eq_ok.1 read
      obtain ⟨found, portsRead, read⟩ := bind_eq_ok.1 read
      cases read
      refine ⟨Value.toText_ne_empty counts shown, ?_, Fields.storable_data storable⟩
      intro claimed member
      obtain ⟨port, present, rfl⟩ := List.mem_map.1 member
      obtain ⟨outcome, listed, shape⟩ := List.mem_filterMap.1 present
      obtain ⟨item, inDrawn, itemRead⟩ := Outcome.exists_of_mapM portsRead listed
      subst shape
      exact Port.normal_of_ofValue? (Fields.storable_items storable walked inDrawn) itemRead _
    · rw [if_pos (by simp [counts])] at read
      cases read
  | _ => cases read

theorem Node.claimPorts_of_normal {node : Node} (normal : node.Normal) :
    node.claimPorts = node := by
  have same : node.ports.map (fun port =>
      if port.owner.isNull then { port with owner := .text node.id } else port) = node.ports := by
    conv_rhs => rw [← List.map_id' node.ports]
    apply List.map_congr_left
    intro port member
    rw [if_neg (by simp [(normal.ports port member).owned])]
  unfold claimPorts
  rw [same]

/-! ## Edges -/

theorem Endpoint.normal_of_ofValue? {record : Value} {endpoint : Endpoint}
    (read : Endpoint.ofValue? record = .ok (some endpoint)) : endpoint.Normal := by
  unfold ofValue? at read
  split at read
  · rename_i s
    by_cases absent : s.isEmpty = true
    · rw [if_pos absent] at read
      cases read
    · rw [if_neg absent] at read
      cases read
      exact .ref (by simpa using absent)
  · obtain ⟨x, _, read⟩ := bind_eq_ok.1 read
    obtain ⟨y, _, read⟩ := bind_eq_ok.1 read
    cases read
    exact .point x y
  · cases read

theorem Endpoint.settled_of_normal {endpoint : Endpoint} (normal : endpoint.Normal) :
    endpoint.settled = .ok endpoint := by
  cases normal <;> rfl

theorem Edge.settled_of_normal {edge : Edge} (normal : edge.Normal) : edge.settled = .ok edge := by
  unfold settled
  rw [Endpoint.settled_of_normal normal.source, Endpoint.settled_of_normal normal.target]
  rfl

end NodeFlow
