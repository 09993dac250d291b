import NodeFlow.Evaluation.Registry
import NodeFlow.Proofs.Outcome
import NodeFlow.Run
import NodeFlow.Template

/-!
# The outputs of the built-in evaluators

Which values flow through ports of a type, and what the built-in evaluators give. Main statements:
every output of a built-in evaluator has the type that the template of its kind declares; a node
receives a value for each data input, and stores the outputs for which it has a data output.
-/

namespace NodeFlow

open Outcome (bind_eq_ok)

/-! ## Values of a type -/

namespace Value

/-- Whether the value is a number; truth values are none. -/
def isNumber : Value → Bool
  | .int _ | .float _ => true
  | _ => false

/-- Whether the value is a mapping with three numbers as components. -/
def isVector : Value → Bool
  | .dict fields =>
    (Fields.get fields "x").isNumber && (Fields.get fields "y").isNumber &&
      (Fields.get fields "z").isNumber
  | _ => false

@[simp] theorem isNumber_ofNumber (n : Number) : (ofNumber n).isNumber = true := by
  cases n <;> rfl

end Value

@[simp] theorem Vector3.isVector_toValue (v : Vector3) : v.toValue.isVector = true := by
  simp [Vector3.toValue, Value.isVector, Fields.get, Keyed.get?]

/-- Whether the value may arrive at a port of the type. Null may arrive everywhere; other types than
these two are not looked at. -/
def PortType.admits : PortType → Value → Bool
  | .number, value => value.isNull || value.isNumber
  | .vector3, value => value.isNull || value.isVector
  | _, _ => true

/-- Templates start with data that their outputs admit. -/
theorem Template.defaults_admitted : ∀ template ∈ Template.all, ∀ output ∈ template.outputs,
    output.2.admits (template.defaults.get output.1) = true := by
  decide

/-! ## Built-in evaluators -/

/-- The number has a text in the log. -/
def Number.IsShown (number : Number) : Prop :=
  ∃ text, number.format = .ok text

theorem Evaluation.ofConversion_eq {conversion : Except ConversionError (List String × Fields)}
    {lines : List String} {outputs : Fields}
    (evaluated : Evaluation.ofConversion conversion = ⟨lines, .ok outputs⟩) :
    conversion = .ok (lines, outputs) := by
  cases conversion with
  | error cause => cases evaluated
  | ok result =>
    cases evaluated
    rfl

namespace Builtin

variable {data inputs outputs : Fields} {lines : List String}

/-- The log shows the number that a calculation gives. -/
theorem outputs_calculate {title sign : String}
    {combine : Number → Number → Except ConversionError Number}
    (evaluated : calculate title sign combine inputs = .ok (lines, outputs)) :
    ∃ out : Number, outputs = [("out", .ofNumber out)] ∧ out.IsShown := by
  obtain ⟨a, _, evaluated⟩ := bind_eq_ok.1 evaluated
  obtain ⟨b, _, evaluated⟩ := bind_eq_ok.1 evaluated
  obtain ⟨out, _, evaluated⟩ := bind_eq_ok.1 evaluated
  obtain ⟨_, _, evaluated⟩ := bind_eq_ok.1 evaluated
  obtain ⟨_, _, evaluated⟩ := bind_eq_ok.1 evaluated
  obtain ⟨text, shown, evaluated⟩ := bind_eq_ok.1 evaluated
  cases evaluated
  exact ⟨out, rfl, text, shown⟩

theorem outputs_buildVector (evaluated : buildVector inputs = .ok (lines, outputs)) :
    ∃ v : Vector3, outputs = [("v", v.toValue)] ∧ v.x.IsShown ∧ v.y.IsShown ∧ v.z.IsShown := by
  obtain ⟨v, _, evaluated⟩ := bind_eq_ok.1 evaluated
  obtain ⟨first, shown, evaluated⟩ := bind_eq_ok.1 evaluated
  obtain ⟨second, shown', evaluated⟩ := bind_eq_ok.1 evaluated
  obtain ⟨third, shown'', evaluated⟩ := bind_eq_ok.1 evaluated
  cases evaluated
  exact ⟨v, rfl, ⟨first, shown⟩, ⟨second, shown'⟩, ⟨third, shown''⟩⟩

/-- A number is exposed as it is read, and shown nowhere. -/
theorem outputs_exposeNumber (evaluated : exposeNumber data inputs = .ok (lines, outputs)) :
    ∃ out : Number, outputs = [("v", .ofNumber out)] ∧
      ((inputs.get "num").toNumber = .ok out ∨ (data.get "num").toNumber = .ok out) := by
  obtain ⟨out, read, evaluated⟩ := bind_eq_ok.1 evaluated
  cases evaluated
  refine ⟨out, rfl, ?_⟩
  split at read
  · exact .inr read
  · exact .inl read

theorem outputs_dotProduct (evaluated : dotProduct inputs = .ok (lines, outputs)) :
    ∃ out : Number, outputs = [("out", .ofNumber out)] ∧ out.IsShown := by
  obtain ⟨a, _, evaluated⟩ := bind_eq_ok.1 evaluated
  obtain ⟨b, _, evaluated⟩ := bind_eq_ok.1 evaluated
  obtain ⟨out, _, evaluated⟩ := bind_eq_ok.1 evaluated
  obtain ⟨text, shown, evaluated⟩ := bind_eq_ok.1 evaluated
  cases evaluated
  exact ⟨out, rfl, text, shown⟩

theorem outputs_vectorLength (evaluated : vectorLength inputs = .ok (lines, outputs)) :
    ∃ out : Number, outputs = [("out", .ofNumber out)] ∧ out.IsShown := by
  obtain ⟨a, _, evaluated⟩ := bind_eq_ok.1 evaluated
  obtain ⟨out, _, evaluated⟩ := bind_eq_ok.1 evaluated
  obtain ⟨text, shown, evaluated⟩ := bind_eq_ok.1 evaluated
  cases evaluated
  exact ⟨out, rfl, text, shown⟩

theorem outputs_printInput (evaluated : printInput inputs = .ok (lines, outputs)) :
    outputs = [] := by
  unfold printInput at evaluated
  split at evaluated
  · cases evaluated
    rfl
  · obtain ⟨_, _, evaluated⟩ := bind_eq_ok.1 evaluated
    cases evaluated
    rfl

/-- What a built-in evaluator gives: nothing, a number or the components of a vector as the log
shows them, or the number that a number node reads. -/
inductive Gives (data inputs : Fields) : Builtin → Fields → Prop
  | nothing {builtin : Builtin} (silent : builtin ∈ [.start, .print]) :
      Gives data inputs builtin []
  | result {builtin : Builtin} {out : Number} (calculates : builtin ∈ [.add, .mul, .dot, .length])
      (shown : out.IsShown) : Gives data inputs builtin [("out", .ofNumber out)]
  | vector {v : Vector3} (x : v.x.IsShown) (y : v.y.IsShown) (z : v.z.IsShown) :
      Gives data inputs .vec3 [("v", v.toValue)]
  | exposed {out : Number} (read : (inputs.get "num").toNumber = .ok out ∨
      (data.get "num").toNumber = .ok out) : Gives data inputs .number [("v", .ofNumber out)]

theorem gives_of_evaluate {builtin : Builtin}
    (evaluated : builtin.evaluate data inputs = ⟨lines, .ok outputs⟩) :
    builtin.Gives data inputs outputs := by
  cases builtin with
  | start =>
    cases evaluated
    exact .nothing (by simp)
  | add | mul =>
    obtain ⟨out, rfl, shown⟩ := outputs_calculate (Evaluation.ofConversion_eq evaluated)
    exact .result (by simp) shown
  | vec3 =>
    obtain ⟨v, rfl, x, y, z⟩ := outputs_buildVector (Evaluation.ofConversion_eq evaluated)
    exact .vector x y z
  | number =>
    obtain ⟨out, rfl, read⟩ := outputs_exposeNumber (Evaluation.ofConversion_eq evaluated)
    exact .exposed read
  | dot =>
    obtain ⟨out, rfl, shown⟩ := outputs_dotProduct (Evaluation.ofConversion_eq evaluated)
    exact .result (by simp) shown
  | length =>
    obtain ⟨out, rfl, shown⟩ := outputs_vectorLength (Evaluation.ofConversion_eq evaluated)
    exact .result (by simp) shown
  | print =>
    obtain rfl := outputs_printInput (Evaluation.ofConversion_eq evaluated)
    exact .nothing (by simp)

/-- The only output of an evaluation has the type that a template declares. -/
private theorem admits_single {template : Template} {label name : String} {value result : Value}
    (declared : ∀ output ∈ template.outputs, output.1 = label → output.2.admits result = true)
    (given : Keyed.get? name [(label, result)] = some value) :
    ∀ type, (name, type) ∈ template.outputs → type.admits value = true := by
  obtain ⟨rfl, rfl⟩ := Keyed.get?_single.1 given
  exact fun type listed => declared _ listed rfl

/-- Every output of a built-in evaluator has the type that the template of its kind declares. -/
theorem admits_output {builtin : Builtin} (gives : builtin.Gives data inputs outputs)
    {name : String} {value : Value} (given : outputs.get? name = some value) :
    ∃ template, Template.find? builtin.kind = some template ∧
      ∀ type, (name, type) ∈ template.outputs → type.admits value = true := by
  cases gives with
  | nothing => cases given
  | result calculates =>
    simp only [List.mem_cons, List.not_mem_nil, or_false] at calculates
    rcases calculates with rfl | rfl | rfl | rfl
    · exact ⟨_, rfl, admits_single (by simp [Template.add, PortType.admits]) given⟩
    · exact ⟨_, rfl, admits_single (by simp [Template.mul, PortType.admits]) given⟩
    · exact ⟨_, rfl, admits_single (by simp [Template.dot, PortType.admits]) given⟩
    · exact ⟨_, rfl, admits_single (by simp [Template.length, PortType.admits]) given⟩
  | vector => exact ⟨_, rfl, admits_single (by simp [Template.vec3, PortType.admits]) given⟩
  | exposed => exact ⟨_, rfl, admits_single (by simp [Template.number, PortType.admits]) given⟩

end Builtin

/-! ## The built-in registry -/

namespace Registry

theorem entries_builtin :
    builtin.entries = Builtin.all.map fun kind => (kind.kind, Evaluator.builtin kind) :=
  rfl

theorem get?_builtin {kind : String} {evaluator : Evaluator}
    (found : builtin.get? kind = some evaluator) :
    ∃ known : Builtin, evaluator = .builtin known ∧ known.kind = kind := by
  have listed := Keyed.mem_of_get? found
  rw [entries_builtin] at listed
  obtain ⟨known, _, same⟩ := List.mem_map.1 listed
  cases same
  exact ⟨known, rfl, rfl⟩

/-- The built-in registry gives what the evaluator of the node's kind gives, if there is one. -/
theorem gives_builtin {node : Node} {inputs outputs : Fields} {lines : List String}
    (evaluated : builtin.evaluate node inputs = ⟨lines, .ok outputs⟩) :
    outputs = [] ∨
      ∃ known : Builtin, known.kind = node.kind ∧ known.Gives node.data inputs outputs := by
  unfold evaluate at evaluated
  cases found : builtin.get? node.kind with
  | none =>
    rw [found] at evaluated
    cases evaluated
    exact .inl rfl
  | some evaluator =>
    rw [found] at evaluated
    obtain ⟨known, rfl, kind⟩ := get?_builtin found
    exact .inr ⟨known, kind, Builtin.gives_of_evaluate evaluated⟩

/-- Every output that the built-in registry gives has the type that the node's template declares. -/
theorem admits_output {node : Node} {inputs outputs : Fields} {lines : List String}
    (evaluated : builtin.evaluate node inputs = ⟨lines, .ok outputs⟩) {name : String}
    {value : Value} (given : outputs.get? name = some value) :
    ∃ template, Template.find? node.kind = some template ∧
      ∀ type, (name, type) ∈ template.outputs → type.admits value = true := by
  rcases gives_builtin evaluated with rfl | ⟨known, kind, gives⟩
  · cases given
  · rw [← kind]
    exact Builtin.admits_output gives given

end Registry

/-! ## What a node receives and stores -/

namespace Fields

theorem get_set_of_ne {data : Fields} {name other : String} (value : Value) (h : other ≠ name) :
    Fields.get (data.set name value) other = data.get other := by
  rw [Fields.get, Fields.get, Keyed.get?_set_of_ne _ _ h]

theorem get_set_self (data : Fields) (name : String) (value : Value) :
    Fields.get (data.set name value) name = value := by
  rw [Fields.get, Keyed.get?_set_self, Option.getD_some]

end Fields

/-- A node stores the outputs that have an output port; the rest of its data stays. -/
theorem Node.get?_store (node : Node) (outputs data : Fields) (name : String) :
    (node.store outputs data).get? name =
      if name ∈ (node.dataPorts .output).map Port.name then
        (outputs.get? name).or (data.get? name)
      else data.get? name := by
  unfold store
  induction node.dataPorts .output generalizing data with
  | nil => simp
  | cons port rest ih =>
    rw [List.foldl_cons, ih]
    by_cases same : port.name = name
    · subst same
      cases given : outputs.get? port.name with
      | none => simp
      | some value => simp [Keyed.get?_set_self]
    · have kept : Keyed.get? name
          (((outputs.get? port.name).map fun v => data.set port.name v).getD data) =
            data.get? name := by
        cases outputs.get? port.name with
        | none => rfl
        | some value => exact Keyed.get?_set_of_ne _ _ (Ne.symm same)
      simp only [kept, List.map_cons, List.mem_cons, Ne.symm same, false_or]

/-- A node receives a value for each of its data inputs. -/
theorem Graph.get?_inputs (graph : Graph) (node : Node) (name : String) :
    (graph.inputs node).get? name =
      if name ∈ (node.dataPorts .input).map Port.name then some (graph.inputValue node name)
      else none := by
  have onward : ∀ (ports : List Port) (fields : Fields),
      Keyed.get? name (ports.foldl
        (fun inputs port => inputs.set port.name (graph.inputValue node port.name)) fields) =
          if name ∈ ports.map Port.name then some (graph.inputValue node name)
          else fields.get? name := by
    intro ports
    induction ports with
    | nil => simp
    | cons port rest ih =>
      intro fields
      rw [List.foldl_cons, ih]
      by_cases same : port.name = name
      · subst same
        simp [Keyed.get?_set_self]
      · rw [Keyed.get?_set_of_ne _ _ (Ne.symm same)]
        simp [Ne.symm same]
  exact onward (node.dataPorts .input) []

end NodeFlow
