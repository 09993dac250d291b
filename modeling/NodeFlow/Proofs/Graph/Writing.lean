import NodeFlow.Proofs.Edit
import NodeFlow.Proofs.Number.Limits
import NodeFlow.Proofs.Run.Repetition

/-!
# Writing values

To write a value changes a field of one node, and the output that the node derives from it. Main
statement: writing fails exactly if a field that the output is derived from is a text of too many
digits; then the field is written and the output is left behind.
-/

namespace NodeFlow

/-! ## Outputs that are derived -/

/-- A vector is read unless one of its components is a text of too many digits. -/
theorem Vector3.ofFields_cases (fields : Fields) :
    ((∃ axis ∈ ["x", "y", "z"], (fields.get axis).IsOverlong) ∧
      ∃ count, ofFields fields = .error (.digitsRead count)) ∨
    ((¬ ∃ axis ∈ ["x", "y", "z"], (fields.get axis).IsOverlong) ∧
      ∃ v, ofFields fields = .ok v) := by
  rw [ofFields]
  rcases (fields.get "x").toNumber_cases with ⟨long, count, unread⟩ | ⟨first, x, read⟩
  · exact .inl ⟨⟨"x", by simp, long⟩, count, by rw [unread]; rfl⟩
  rcases (fields.get "y").toNumber_cases with ⟨long, count, unread⟩ | ⟨second, y, read'⟩
  · exact .inl ⟨⟨"y", by simp, long⟩, count, by rw [read, unread]; rfl⟩
  rcases (fields.get "z").toNumber_cases with ⟨long, count, unread⟩ | ⟨third, z, read''⟩
  · exact .inl ⟨⟨"z", by simp, long⟩, count, by rw [read, read', unread]; rfl⟩
  · exact .inr ⟨by simp [first, second, third], ⟨x, y, z⟩, by rw [read, read', read'']; rfl⟩

namespace Node

/-- The fields that a node's output is derived from when a field is written. -/
def sources (node : Node) (name : String) : List String :=
  if node.kind = "number" ∧ name = "num" then ["num"]
  else if node.kind = "vec3" ∧ name ∈ ["x", "y", "z"] then ["x", "y", "z"]
  else []

/-- The data hold the output that is derived when a field is written: the number that `num` is read
as, or the vector that `x`, `y` and `z` are read as. -/
structure InStep (node : Node) (name : String) (data : Fields) : Prop where
  number : node.kind = "number" → name = "num" →
    ∃ n, (data.get "num").toNumber = .ok n ∧ data.get? "v" = some (.ofNumber n)
  vector : node.kind = "vec3" → name ∈ ["x", "y", "z"] →
    ∃ v, Vector3.ofFields data = .ok v ∧ data.get? "v" = some v.toValue

/-- The data of a node when the value is written and the output is derived, if there is one. -/
structure Writes (node : Node) (name : String) (value : Value) (data : Fields) : Prop where
  written : data.get? name = some value
  inStep : node.InStep name data
  others : ∀ other ≠ name, other ≠ "v" ∨ node.sources name = [] →
    data.get? other = node.data.get? other

/-- When the value is written, a field that the output is derived from is a text of too many
digits. -/
def Refuses (node : Node) (name : String) (value : Value) : Prop :=
  ∃ source ∈ node.sources name, (Fields.get (node.data.set name value) source).IsOverlong

variable {node : Node} {name : String} {value : Value}

/-- Which output is derived when a field is written, and from which fields. -/
inductive Derives (node : Node) (name : String) : Prop
  | number (kind : node.kind = "number") (field : name = "num")
      (sources : node.sources name = ["num"]) (output : ∀ data, node.derivedOutput name data =
        (data.get "num").toNumber.map fun n => some (.ofNumber n))
  | vector (kind : node.kind = "vec3") (field : name ∈ ["x", "y", "z"])
      (sources : node.sources name = ["x", "y", "z"])
      (output : ∀ data, node.derivedOutput name data =
        (Vector3.ofFields data).map fun v => some v.toValue)
  | nothing (sources : node.sources name = [])
      (output : ∀ data, node.derivedOutput name data = .ok none)
      (apart : ∀ data, node.InStep name data)

theorem derives (node : Node) (name : String) : node.Derives name := by
  have ofNumber : ((node.kind == Template.number.kind) = true ∧ (name == "num") = true) ↔
      node.kind = "number" ∧ name = "num" := by simp [Template.number]
  have ofVector : ((node.kind == Template.vec3.kind) = true ∧
      (["x", "y", "z"].contains name) = true) ↔
        node.kind = "vec3" ∧ name ∈ ["x", "y", "z"] := by simp [Template.vec3]
  by_cases number : node.kind = "number" ∧ name = "num"
  · refine .number number.1 number.2 (if_pos number) fun data => ?_
    rw [derivedOutput, if_pos (by simpa only [Bool.and_eq_true] using ofNumber.2 number)]
  by_cases vector : node.kind = "vec3" ∧ name ∈ ["x", "y", "z"]
  · refine .vector vector.1 vector.2 ((if_neg number).trans (if_pos vector)) fun data => ?_
    rw [derivedOutput, if_neg (by simpa only [Bool.and_eq_true] using mt ofNumber.1 number),
      if_pos (by simpa only [Bool.and_eq_true] using ofVector.2 vector)]
  · refine .nothing ((if_neg number).trans (if_neg vector)) (fun data => ?_) fun data => ?_
    · rw [derivedOutput, if_neg (by simpa only [Bool.and_eq_true] using mt ofNumber.1 number),
        if_neg (by simpa only [Bool.and_eq_true] using mt ofVector.1 vector)]
    · exact ⟨fun kind field => absurd ⟨kind, field⟩ number,
        fun kind field => absurd ⟨kind, field⟩ vector⟩

theorem derivedOutput_cases (node : Node) (name : String) (data : Fields) :
    ((∃ source ∈ node.sources name, (data.get source).IsOverlong) ∧
      ∃ count, node.derivedOutput name data = .error (.digitsRead count)) ∨
    ((¬ ∃ source ∈ node.sources name, (data.get source).IsOverlong) ∧
      ∃ output, node.derivedOutput name data = .ok output) := by
  rcases node.derives name with ⟨_, _, sources, output⟩ | ⟨_, _, sources, output⟩ |
    ⟨sources, output, _⟩ <;> rw [sources, output]
  · rcases (data.get "num").toNumber_cases with ⟨long, count, unread⟩ | ⟨short, n, read⟩
    · exact .inl ⟨⟨"num", by simp, long⟩, count, by rw [unread]; rfl⟩
    · exact .inr ⟨by simp [short], some (.ofNumber n), by rw [read]; rfl⟩
  · rcases Vector3.ofFields_cases data with ⟨long, count, unread⟩ | ⟨short, v, read⟩
    · exact .inl ⟨long, count, by rw [unread]; rfl⟩
    · exact .inr ⟨short, some v.toValue, by rw [read]; rfl⟩
  · exact .inr ⟨by simp, none, rfl⟩

/-- The data with the output in it, if there is one. -/
def withOutput (data : Fields) : Option Value → Fields
  | some output => data.set "v" output
  | none => data

theorem get?_withOutput (data : Fields) (output : Option Value) {other : String}
    (apart : other ≠ "v") : (withOutput data output).get? other = data.get? other := by
  cases output with
  | none => rfl
  | some output => exact Keyed.get?_set_of_ne _ _ apart

theorem get_withOutput (data : Fields) (output : Option Value) {other : String}
    (apart : other ≠ "v") : (withOutput data output).get other = data.get other := by
  rw [Fields.get, Fields.get, get?_withOutput data output apart]

/-- To write the output does not touch the fields that it is derived from. -/
theorem writes_withOutput {output : Option Value}
    (derived : node.derivedOutput name (node.data.set name value) = .ok output) :
    node.Writes name value (withOutput (node.data.set name value) output) := by
  have others : ∀ other ≠ name, other ≠ "v" →
      (withOutput (node.data.set name value) output).get? other = node.data.get? other := by
    intro other new apart
    rw [get?_withOutput _ _ apart, Keyed.get?_set_of_ne _ _ new]
  have written : name ≠ "v" →
      (withOutput (node.data.set name value) output).get? name = some value := by
    intro apart
    rw [get?_withOutput _ _ apart, Keyed.get?_set_self]
  rcases node.derives name with ⟨kind, rfl, sources, output'⟩ |
    ⟨kind, field, sources, output'⟩ | ⟨sources, output', inStep⟩
  · rw [output'] at derived
    obtain ⟨n, read, rfl⟩ := Outcome.map_eq_ok.1 derived
    refine ⟨written (by decide), ⟨fun _ _ => ⟨n, ?_, Keyed.get?_set_self _ _ _⟩, ?_⟩, ?_⟩
    · rw [get_withOutput _ _ (by decide), read]
    · intro other
      rw [kind] at other
      exact absurd other (by decide)
    · intro other new apart
      exact others other new (by simpa [sources] using apart)
  · rw [output'] at derived
    obtain ⟨v, read, rfl⟩ := Outcome.map_eq_ok.1 derived
    have apart : name ≠ "v" := by
      rintro rfl
      exact absurd field (by decide)
    refine ⟨written apart, ⟨?_, fun _ _ => ⟨v, ?_, Keyed.get?_set_self _ _ _⟩⟩, ?_⟩
    · intro other
      rw [kind] at other
      exact absurd other (by decide)
    · rw [Vector3.ofFields, get_withOutput _ _ (by decide), get_withOutput _ _ (by decide),
        get_withOutput _ _ (by decide)]
      exact read
    · intro other new apart
      exact others other new (by simpa [sources] using apart)
  · rw [output'] at derived
    cases derived
    refine ⟨Keyed.get?_set_self _ _ _, inStep _, fun other new _ => ?_⟩
    exact Keyed.get?_set_of_ne _ _ new

end Node

namespace Graph

variable {graph : Graph} {id : String}

/-- Only the node with the id has its data changed. -/
theorem changeData_eq_const {node : Node} (found : graph.node? id = some node)
    (change : Fields → Fields) :
    graph.changeData id change = graph.changeData id fun _ => change node.data := by
  refine eq_of_parts (List.map_congr_left fun other member => ?_) rfl
  by_cases named : other.id = id
  · rw [if_pos named, if_pos named,
      eq_of_id (mem_of_node? found) member (named.trans (id_of_node? found).symm)]
  · rw [if_neg named, if_neg named]

theorem changeData_changeData (graph : Graph) (id : String) (first second : Fields → Fields) :
    (graph.changeData id first).changeData id second =
      graph.changeData id fun data => second (first data) := by
  refine eq_of_parts ?_ rfl
  simp only [changeData, mapNodes, List.map_map]
  refine List.map_congr_left fun other _ => ?_
  by_cases named : other.id = id
  · simp [named, Node.withData]
  · simp [named]

end Graph

namespace Workspace

variable {graph : Graph} {ids : IdSource} {id name : String} {value : Value} {node : Node}

/-- To write a field comes first, and then the output is derived. -/
theorem setValue_eq (found : graph.node? id = some node) :
    setValue id name value ⟨graph, ids⟩ =
      (Edit.convert (node.derivedOutput name (node.data.set name value)) >>= fun
        | some output => setData id "v" output
        | none => pure ()) ⟨graph.changeData id fun _ => node.data.set name value, ids⟩ := by
  rw [← Graph.changeData_eq_const found (Keyed.set name value), setValue, graphNow_bind, found]
  rfl

theorem setValue_of_derived {output : Option Value} (found : graph.node? id = some node)
    (derived : node.derivedOutput name (node.data.set name value) = .ok output) :
    setValue id name value ⟨graph, ids⟩ =
      .ok () ⟨graph.changeData id fun _ => Node.withOutput (node.data.set name value) output,
        ids⟩ := by
  rw [setValue_eq found, derived]
  cases output with
  | none => rfl
  | some output =>
    change EStateM.Result.ok () (⟨(graph.changeData id _).changeData id _, ids⟩ : Workspace) = _
    rw [Graph.changeData_changeData]
    rfl

theorem setValue_of_underived {cause : ConversionError} (found : graph.node? id = some node)
    (underived : node.derivedOutput name (node.data.set name value) = .error cause) :
    setValue id name value ⟨graph, ids⟩ =
      .error (.conversion cause) ⟨graph.changeData id fun _ => node.data.set name value, ids⟩ := by
  rw [setValue_eq found, underived]
  rfl

/-- Writing does nothing if there is no such node. Else it changes the data of that node only: if it
ends, the value is written and the output follows; if a field that the output is derived from is a
text of too many digits it fails, with the value written and the output left as it was. -/
theorem setValue_outcome (id name : String) (value : Value) (graph : Graph) (ids : IdSource) :
    (graph.node? id = none → setValue id name value ⟨graph, ids⟩ = .ok () ⟨graph, ids⟩) ∧
    ∀ node, graph.node? id = some node →
      (¬ node.Refuses name value ∧
        ∃ data, node.Writes name value data ∧ setValue id name value ⟨graph, ids⟩ =
          .ok () ⟨graph.changeData id fun _ => data, ids⟩) ∨
      (node.Refuses name value ∧
        ∃ count, setValue id name value ⟨graph, ids⟩ = .error (.conversion (.digitsRead count))
          ⟨graph.changeData id fun _ => node.data.set name value, ids⟩) := by
  constructor
  · intro absent
    rw [setValue, graphNow_bind, absent]
    rfl
  · intro node found
    rcases node.derivedOutput_cases name (node.data.set name value) with
      ⟨long, count, underived⟩ | ⟨short, output, derived⟩
    · exact .inr ⟨long, count, setValue_of_underived found underived⟩
    · exact .inl ⟨short, _, Node.writes_withOutput derived, setValue_of_derived found derived⟩

/-- A number node. -/
def numberNode : Node :=
  { Node.blank "n" with kind := "number", data := [("num", .int 0), ("v", .int 0)] }

/-- A graph of one number node. -/
def numberGraph : Graph := ⟨[numberNode], [], by simp⟩

/-- Without the node nothing happens; the number `7` is read where it is written. -/
theorem setValue_seven :
    setValue "m" "num" (.int 7) ⟨numberGraph, ⟨0⟩⟩ = .ok () ⟨numberGraph, ⟨0⟩⟩ ∧
    ∃ data, numberNode.Writes "num" (.int 7) data ∧
      setValue "n" "num" (.int 7) ⟨numberGraph, ⟨0⟩⟩ =
        .ok () ⟨numberGraph.changeData "n" fun _ => data, ⟨0⟩⟩ := by
  refine ⟨(setValue_outcome "m" "num" (.int 7) numberGraph ⟨0⟩).1 rfl, ?_⟩
  rcases (setValue_outcome "n" "num" (.int 7) numberGraph ⟨0⟩).2 numberNode rfl with
    ⟨_, data, writes, ended⟩ | ⟨⟨source, derives, long⟩, _⟩
  · exact ⟨data, writes, ended⟩
  · obtain rfl : source = "num" := List.mem_singleton.1 derives
    exact long.elim

/-- A text of ones. -/
def ones (count : Nat) : String := String.ofList (List.replicate count '1')

theorem toNumber_ones {count : Nat} (long : digitLimit < count) :
    (Value.text (ones count)).toNumber = .error (.digitsRead count) := by
  have digits : Digits (List.replicate count '1') := by
    intro c member
    rw [List.eq_of_mem_replicate member]
    decide
  have unread := Value.toNumber_of_digits digits (by rwa [List.length_replicate])
  rwa [List.length_replicate] at unread

/-- To write 4301 ones fails, the text is stored, and the output is still that of the number
before. -/
theorem setValue_ones : ∃ cause after,
    setValue "n" "num" (.text (ones 4301)) ⟨numberGraph, ⟨0⟩⟩ = .error cause after ∧
    numberGraph.nodes.map Node.data = [[("num", .int 0), ("v", .int 0)]] ∧
    after.graph.nodes.map Node.data = [[("num", .text (ones 4301)), ("v", .int 0)]] := by
  have output : ∀ data, numberNode.derivedOutput "num" data =
      (Fields.get data "num").toNumber.map fun n => some (.ofNumber n) := fun data => rfl
  have underived : numberNode.derivedOutput "num"
      (numberNode.data.set "num" (.text (ones 4301))) = .error (.digitsRead 4301) := by
    rw [output, Fields.get_set_self, toNumber_ones (by decide)]
    rfl
  exact ⟨_, _, setValue_of_underived rfl underived, rfl, rfl⟩

end Workspace

end NodeFlow
