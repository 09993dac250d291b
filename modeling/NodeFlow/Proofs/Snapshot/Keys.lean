import NodeFlow.Graph.Editing
import NodeFlow.Proofs.Evaluation.Outputs
import NodeFlow.Proofs.Value.Entries

/-!
# Values with distinct keys

Every mapping has distinct keys, also inside other values. The data of nodes keeps to that if what
is written to it does. Main statement: such a value can be stored as soon as it can be written at
all, which only a whole number of too many digits prevents.
-/

namespace NodeFlow

open Outcome (bind_eq_ok map_eq_ok)

/-- The keys of every mapping in the value are distinct. -/
inductive Value.WellKeyed : Value → Prop where
  | null : WellKeyed .null
  | bool (b : Bool) : WellKeyed (.bool b)
  | int (n : Int) : WellKeyed (.int n)
  | float (x : Binary64) : WellKeyed (.float x)
  | text (s : String) : WellKeyed (.text s)
  | list {items : List Value} (each : ∀ item ∈ items, WellKeyed item) : WellKeyed (.list items)
  | dict {fields : Fields} (distinct : (fields.map (·.1)).Nodup)
      (each : ∀ field ∈ fields, WellKeyed field.2) : WellKeyed (.dict fields)

/-- The fields have distinct keys, and so have the mappings in them. -/
def Fields.WellKeyed (fields : Fields) : Prop :=
  (Value.dict fields).WellKeyed

/-! ## Reading and writing fields -/

theorem Value.wellKeyed_ofNumber (n : Number) : (ofNumber n).WellKeyed := by
  cases n with
  | int n => exact .int n
  | float x => exact .float x

theorem Vector3.wellKeyed_toValue (v : Vector3) : v.toValue.WellKeyed := by
  refine .dict (by simp) fun field member => ?_
  simp only [List.mem_cons, List.not_mem_nil, or_false] at member
  rcases member with rfl | rfl | rfl <;> exact Value.wellKeyed_ofNumber _

namespace Fields.WellKeyed

variable {fields : Fields}

theorem nil : Fields.WellKeyed [] :=
  .dict List.nodup_nil (by simp)

theorem single (key : String) {value : Value} (wellKeyed : value.WellKeyed) :
    Fields.WellKeyed [(key, value)] :=
  .dict (by simp) (by simpa using wellKeyed)

theorem of_get? (wellKeyed : fields.WellKeyed) {key : String} {value : Value}
    (found : Keyed.get? key fields = some value) : value.WellKeyed := by
  cases wellKeyed with
  | dict _ each => exact each _ (Keyed.mem_of_get? found)

theorem get (wellKeyed : fields.WellKeyed) (key : String) : (fields.get key).WellKeyed := by
  unfold Fields.get
  cases found : Keyed.get? key fields with
  | none => exact .null
  | some value => exact wellKeyed.of_get? found

theorem set (wellKeyed : fields.WellKeyed) (key : String) {value : Value}
    (ofValue : value.WellKeyed) : Fields.WellKeyed (Keyed.set key value fields) := by
  cases wellKeyed with
  | dict distinct each =>
    refine .dict (Keyed.nodup_keys_set distinct key value) fun field member => ?_
    rcases Keyed.mem_of_mem_set member with old | new
    · exact each field old
    · exact new ▸ ofValue

end Fields.WellKeyed

theorem Template.wellKeyed_defaults {template : Template} (listed : template ∈ Template.all) :
    template.defaults.WellKeyed := by
  have zeros : (Value.dict [("x", .int 0), ("y", .int 0), ("z", .int 0)]).WellKeyed :=
    .dict (by simp) (by simp [Value.WellKeyed.int])
  simp only [Template.all, List.mem_cons, List.not_mem_nil, or_false] at listed
  rcases listed with rfl | rfl | rfl | rfl | rfl | rfl | rfl | rfl <;>
    exact .dict (by decide) (by
      simp [start, add, mul, vec3, number, dot, length, print, Value.WellKeyed.int, zeros])

/-! ## Nodes and graphs -/

namespace Node

variable {node : Node}

/-- What a node stores comes from its data and from outputs. -/
theorem wellKeyed_store {outputs data : Fields} (ofData : data.WellKeyed)
    (ofOutputs : outputs.WellKeyed) : (node.store outputs data).WellKeyed := by
  unfold store
  induction node.dataPorts .output generalizing data with
  | nil => exact ofData
  | cons port rest ih =>
    rw [List.foldl_cons]
    apply ih
    cases given : outputs.get? port.name with
    | none => exact ofData
    | some value => exact ofData.set port.name (ofOutputs.of_get? given)

theorem wellKeyed_derived {name : String} {data : Fields} {output : Value}
    (derived : node.derivedOutput name data = .ok (some output)) : output.WellKeyed := by
  unfold derivedOutput at derived
  split at derived
  · obtain ⟨n, _, same⟩ := map_eq_ok.1 derived
    cases same
    exact Value.wellKeyed_ofNumber n
  · split at derived
    · obtain ⟨v, _, same⟩ := map_eq_ok.1 derived
      cases same
      exact v.wellKeyed_toValue
    · cases derived

end Node

/-- A node receives values from its data and from the data of other nodes. -/
theorem Graph.wellKeyed_inputs {graph : Graph}
    (each : ∀ node ∈ graph.nodes, node.data.WellKeyed) {node : Node}
    (ofNode : node.data.WellKeyed) : (graph.inputs node).WellKeyed := by
  have output : ∀ ref, (graph.outputValue ref).WellKeyed := by
    intro ref
    unfold outputValue
    cases found : graph.node? (Ref.node ref) with
    | none => exact .null
    | some source => exact (each source (mem_of_node? found)).get _
  have input : ∀ port, (graph.inputValue node port).WellKeyed := by
    intro port
    unfold inputValue
    cases graph.feed? (Ref.make node.id port) with
    | none => exact ofNode.get port
    | some ref => exact output ref
  have onward : ∀ (ports : List Port) (fields : Fields), fields.WellKeyed →
      Fields.WellKeyed (ports.foldl
        (fun inputs port => inputs.set port.name (graph.inputValue node port.name)) fields) := by
    intro ports
    induction ports with
    | nil => exact fun _ wellKeyed => wellKeyed
    | cons port rest ih => exact fun _ wellKeyed => ih _ (wellKeyed.set port.name (input port.name))
  exact onward _ [] .nil

/-! ## Evaluators -/

/-- From data and inputs with distinct keys the evaluators give outputs with distinct keys. -/
def Registry.WellKeyed (registry : Registry) : Prop :=
  ∀ (node : Node) (inputs : Fields) lines outputs, node.data.WellKeyed → inputs.WellKeyed →
    registry.evaluate node inputs = ⟨lines, .ok outputs⟩ → outputs.WellKeyed

theorem Builtin.Gives.wellKeyed {builtin : Builtin} {data inputs outputs : Fields}
    (gives : builtin.Gives data inputs outputs) : outputs.WellKeyed := by
  cases gives with
  | nothing => exact .nil
  | result => exact .single _ (Value.wellKeyed_ofNumber _)
  | vector => exact .single _ (Vector3.wellKeyed_toValue _)
  | exposed => exact .single _ (Value.wellKeyed_ofNumber _)

/-- The built-in evaluators give outputs with distinct keys whatever they receive. -/
theorem Registry.wellKeyed_builtin : Registry.builtin.WellKeyed := by
  intro node inputs lines outputs _ _ evaluated
  rcases gives_builtin evaluated with rfl | ⟨_, _, gives⟩
  · exact .nil
  · exact gives.wellKeyed

/-! ## Values that can be written -/

namespace Value

variable {style : Style}

/-- The value can be written in the style. -/
def Writable (style : Style) (value : Value) : Prop :=
  ∃ depth text, value.write style depth = .ok text

/-- With a list its items are written. -/
theorem Writable.items {items : List Value} (writable : (list items).Writable style) :
    ∀ item ∈ items, item.Writable style := by
  obtain ⟨depth, written⟩ := writable
  exact fun item member => ⟨_, exists_write_list_iff.1 written item member⟩

/-- With a mapping the values of its fields are written. -/
theorem Writable.fields {fields : Fields} (writable : (dict fields).Writable style) :
    ∀ field ∈ fields, field.2.Writable style := by
  obtain ⟨depth, written⟩ := writable
  exact fun field member => ⟨_, exists_write_dict_iff.1 written field member⟩

/-- A value with distinct keys that can be written can be stored. -/
theorem WellKeyed.storable {value : Value} (wellKeyed : value.WellKeyed)
    (writable : value.Writable style) : value.Storable := by
  induction wellKeyed with
  | null => exact .null
  | bool b => exact .bool b
  | int n =>
    obtain ⟨depth, text, written⟩ := writable
    exact .int n (Json.writeInt_eq_ok written).1
  | float x => exact .float x
  | text s => exact .text s
  | list _ ih => exact .list fun item member => ih item member (writable.items item member)
  | dict distinct _ ih =>
    exact .dict distinct fun field member => ih field member (writable.fields field member)

/-- A value that can be stored has distinct keys. -/
theorem Storable.wellKeyed {value : Value} (storable : value.Storable) : value.WellKeyed := by
  induction storable with
  | null => exact .null
  | bool b => exact .bool b
  | int n => exact .int n
  | float x => exact .float x
  | text s => exact .text s
  | list _ ih => exact .list ih
  | dict distinct _ ih => exact .dict distinct ih

end Value

/-- Fields with distinct keys can be stored if what is found under each name can. -/
theorem Fields.WellKeyed.storable_of_get {fields : Fields} (wellKeyed : fields.WellKeyed)
    (stored : ∀ name, (fields.get name).Storable) : (Value.dict fields).Storable := by
  cases wellKeyed with
  | dict distinct _ =>
    refine .dict distinct fun field member => ?_
    have found := stored field.1
    rwa [Fields.get, Keyed.get?_of_mem distinct member, Option.getD_some] at found

end NodeFlow
