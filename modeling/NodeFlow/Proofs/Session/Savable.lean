import NodeFlow.Proofs.Graph.Writing
import NodeFlow.Proofs.Session.Saving

/-!
# Which graphs can be saved

A snapshot can be written unless a whole number of too many digits is among the data. Values that
are written by hand may be checked before, but number and vector nodes also store what texts are
read as, and a text in another base may stand for a number of more digits than can be written. Main
statement: what an editor session leaves behind can be saved exactly if the outputs of these nodes
can, which is so as long as no such text is written.
-/

namespace NodeFlow

open Outcome (bind_eq_ok)

/-! ## Values that can be read and stored -/

namespace Value

theorem storable_ofNumber_iff {n : Number} : (ofNumber n).Storable ↔ ¬ n.IsOversized := by
  cases n with
  | float x => exact iff_of_true (.float x) not_false
  | int n =>
    rw [Number.not_isOversized_int_iff]
    constructor
    · intro storable
      cases storable with
      | int _ short => exact short
    · exact .int n

/-- The value can be stored, and so can the number that it is read as. -/
structure Modest (value : Value) : Prop where
  storable : value.Storable
  readable : ¬ value.IsOversizedText

theorem modest_null : null.Modest := ⟨.null, not_false⟩

theorem modest_ofNumber {n : Number} (small : ¬ n.IsOversized) : (ofNumber n).Modest := by
  refine ⟨storable_ofNumber_iff.2 small, ?_⟩
  cases n <;> exact not_false

theorem Modest.toNumber {value : Value} (modest : value.Modest) {n : Number}
    (read : value.toNumber = .ok n) : (ofNumber n).Modest := by
  refine modest_ofNumber fun large => ?_
  rcases isOversized_of_toNumber read large with text | rfl
  · exact modest.readable text
  · exact storable_ofNumber_iff.1 modest.storable large

end Value

theorem Number.IsShown.modest {n : Number} (shown : n.IsShown) : (Value.ofNumber n).Modest := by
  obtain ⟨text, shown⟩ := shown
  rcases n.format_cases with ⟨_, failed⟩ | ⟨small, _⟩
  · rw [failed] at shown
    cases shown
  · exact Value.modest_ofNumber small

namespace Vector3

theorem modest_toValue {v : Vector3} (x : (Value.ofNumber v.x).Modest)
    (y : (Value.ofNumber v.y).Modest) (z : (Value.ofNumber v.z).Modest) : v.toValue.Modest := by
  refine ⟨.dict (by simp) fun field member => ?_, not_false⟩
  simp only [List.mem_cons, List.not_mem_nil, or_false] at member
  rcases member with rfl | rfl | rfl
  · exact x.storable
  · exact y.storable
  · exact z.storable

theorem modest_ofFields {fields : Fields} (modest : ∀ name, (fields.get name).Modest)
    {v : Vector3} (read : ofFields fields = .ok v) : v.toValue.Modest := by
  obtain ⟨x, first, read⟩ := bind_eq_ok.1 read
  obtain ⟨y, second, read⟩ := bind_eq_ok.1 read
  obtain ⟨z, third, read⟩ := bind_eq_ok.1 read
  cases read
  exact modest_toValue ((modest "x").toNumber first) ((modest "y").toNumber second)
    ((modest "z").toNumber third)

end Vector3

/-- Templates start with modest data. -/
theorem Template.modest_defaults {template : Template} (listed : template ∈ Template.all)
    (name : String) : (template.defaults.get name).Modest := by
  have zero : (Value.int 0).Modest := ⟨.int 0 (by decide), not_false⟩
  have one : (Value.int 1).Modest := ⟨.int 1 (by decide), not_false⟩
  have zeros : (Value.dict [("x", .int 0), ("y", .int 0), ("z", .int 0)]).Modest :=
    @Vector3.modest_toValue ⟨.int 0, .int 0, .int 0⟩ zero zero zero
  have each : ∀ field ∈ template.defaults, field.2.Modest := by
    simp only [Template.all, List.mem_cons, List.not_mem_nil, or_false] at listed
    rcases listed with rfl | rfl | rfl | rfl | rfl | rfl | rfl | rfl <;>
      simp [start, add, mul, vec3, number, dot, length, print, zero, one, zeros]
  rw [Fields.get]
  cases found : Keyed.get? name template.defaults with
  | none => exact Value.modest_null
  | some value => exact each _ (Keyed.mem_of_get? found)

/-! ## Properties of fields -/

/-- The property holds of each field of the node; it may depend on the node's kind and the field's
name. -/
def Node.EachField (ofField : String → String → Value → Prop) (node : Node) : Prop :=
  ∀ name, ofField node.kind name (node.data.get name)

/-- Modest values have the property, and if fields have it, so does the output that a number or
vector node derives from them. -/
structure PassedOn (ofField : String → String → Value → Prop) : Prop where
  modest : ∀ kind name value, value.Modest → ofField kind name value
  number : ∀ kind name value n, ofField kind name value → value.toNumber = .ok n →
    ofField "number" "v" (.ofNumber n)
  vector : ∀ kind fields v, (∀ name, ofField kind name (Fields.get fields name)) →
    Vector3.ofFields fields = .ok v → ofField "vec3" "v" v.toValue

/-- Modesty is passed on. -/
theorem passedOn_modest : PassedOn fun _ _ value => value.Modest where
  modest _ _ _ modest := modest
  number _ _ _ _ modest read := modest.toNumber read
  vector _ _ _ modest read := Vector3.modest_ofFields modest read

/-- The outputs of number and vector nodes may be more than can be stored. -/
def StorableButDerived (kind name : String) (value : Value) : Prop :=
  value.Storable ∨ kind ∈ ["number", "vec3"] ∧ name = "v"

theorem passedOn_storableButDerived : PassedOn StorableButDerived where
  modest _ _ _ modest := .inl modest.storable
  number _ _ _ _ _ _ := .inr ⟨by simp, rfl⟩
  vector _ _ _ _ _ := .inr ⟨by simp, rfl⟩

namespace PassedOn

variable {ofField : String → String → Value → Prop}

theorem null (passedOn : PassedOn ofField) (kind name : String) : ofField kind name .null :=
  passedOn.modest kind name .null Value.modest_null

theorem made (passedOn : PassedOn ofField) {node : Node} (made : node.Made) :
    node.EachField ofField := by
  intro name
  cases made with
  | template listed planned =>
    rw [planned.data]
    exact passedOn.modest _ _ _ (Template.modest_defaults listed name)
  | shape _ planned =>
    rw [planned.data]
    exact passedOn.null _ name

/-- What is created has the property, and what is moved or pruned keeps it. -/
theorem lasting (passedOn : PassedOn ofField) :
    Lasting (Node.EachField ofField) fun _ => True where
  made _ made := passedOn.made made
  grouped _ _ _ _ _ name := passedOn.null _ name
  placed _ _ _ each := each
  pruned node gone each := by
    unfold Node.prune
    split
    · exact each
    · exact each
  joined _ _ _ _ _ := trivial

/-- A node accepts what has the property, whatever the field. -/
theorem accepts (passedOn : PassedOn ofField) {node : Node} (each : node.EachField ofField)
    {name : String} {value : Value} (holds : ∀ kind name, ofField kind name value) :
    node.Accepts (Node.EachField ofField) name value := by
  have written : ∀ other,
      ofField node.kind other (Fields.get (node.data.set name value) other) := by
    intro other
    by_cases same : other = name
    · rw [same, Fields.get_set_self]
      exact holds _ _
    · rw [Fields.get_set_of_ne value same]
      exact each other
  refine ⟨written, fun output derived other => ?_⟩
  show ofField node.kind other (Fields.get (Keyed.set "v" output _) other)
  by_cases same : other = "v"
  · rw [same, Fields.get_set_self]
    rcases node.derives name with ⟨kind, _, _, output'⟩ | ⟨kind, _, _, output'⟩ |
      ⟨_, output', _⟩ <;> rw [output'] at derived
    · obtain ⟨n, read, shape⟩ := Outcome.map_eq_ok.1 derived
      cases shape
      exact kind ▸ passedOn.number _ _ _ n (written "num") read
    · obtain ⟨v, read, shape⟩ := Outcome.map_eq_ok.1 derived
      cases shape
      exact kind ▸ passedOn.vector _ _ v written read
    · cases derived
  · rw [Fields.get_set_of_ne output same]
    exact written other

/-- What a node receives was in a field. -/
theorem exists_field_of_input (passedOn : PassedOn ofField) {graph : Graph}
    (each : ∀ node ∈ graph.nodes, node.EachField ofField) {node : Node}
    (ofNode : node.EachField ofField) (port : String) :
    ∃ kind name, ofField kind name ((graph.inputs node).get port) := by
  rw [Fields.get, Graph.get?_inputs]
  split
  · rw [Option.getD_some, Graph.inputValue]
    cases graph.feed? (Ref.make node.id port) with
    | none => exact ⟨_, _, ofNode port⟩
    | some ref =>
      show ∃ kind name, ofField kind name (graph.outputValue ref)
      unfold Graph.outputValue
      cases found : graph.node? (Ref.node ref) with
      | none => exact ⟨"", "", passedOn.null _ _⟩
      | some source => exact ⟨_, _, each source (Graph.mem_of_node? found) (Ref.port ref)⟩
  · exact ⟨"", "", passedOn.null _ _⟩

/-- What a built-in evaluator gives to a node has the property. -/
theorem output (passedOn : PassedOn ofField) {builtin : Builtin} {data inputs outputs : Fields}
    (gives : builtin.Gives data inputs outputs)
    (ofInput : ∃ kind name, ofField kind name (inputs.get "num"))
    (ofData : ∃ kind name, ofField kind name (data.get "num")) {name : String} {value : Value}
    (given : outputs.get? name = some value) : ofField builtin.kind name value := by
  cases gives with
  | nothing => cases given
  | result _ shown =>
    obtain ⟨_, rfl⟩ := Keyed.get?_single.1 given
    exact passedOn.modest _ _ _ shown.modest
  | vector x y z =>
    obtain ⟨_, rfl⟩ := Keyed.get?_single.1 given
    exact passedOn.modest _ _ _ (Vector3.modest_toValue x.modest y.modest z.modest)
  | exposed read =>
    obtain ⟨rfl, rfl⟩ := Keyed.get?_single.1 given
    obtain ⟨kind, name, own⟩ := ofData
    obtain ⟨kind', name', input⟩ := ofInput
    rcases read with read | read
    · exact passedOn.number kind' name' _ _ input read
    · exact passedOn.number kind name _ _ own read

/-- The built-in evaluators respect the property. -/
theorem respects (passedOn : PassedOn ofField) :
    Registry.builtin.Respects (Node.EachField ofField) fun _ => True := by
  intro graph each node member lines outputs evaluated name
  have ofNode := each.nodes node member
  have ofInput := passedOn.exists_field_of_input each.nodes ofNode "num"
  show ofField node.kind name (Fields.get (node.store outputs node.data) name)
  rw [Fields.get, Node.get?_store]
  split
  · cases given : outputs.get? name with
    | none =>
      rw [Option.none_or]
      exact ofNode name
    | some value =>
      rw [Option.some_or, Option.getD_some]
      rcases Registry.gives_builtin evaluated with rfl | ⟨known, kind, gives⟩
      · cases given
      · exact kind ▸ passedOn.output gives ofInput ⟨_, _, ofNode "num"⟩ given
  · exact ofNode name

end PassedOn

/-! ## Sessions -/

/-- What the action brings can be stored. Data is not written in other ways, presets are not opened,
and runs are those of the built-in evaluators. -/
def EditorAction.Storable : EditorAction → Prop
  | .add _ _ _ data => (Value.dict data).Storable
  | .setValue _ _ value => value.Storable
  | .writeData .. => False
  | .openPreset _ => False
  | .run registry _ => registry = Registry.builtin
  | _ => True

/-- The action brings the value into a field: a node is added with it, or it is written. -/
def EditorAction.Brings (value : Value) : EditorAction → Prop
  | .add _ _ _ data => ∃ name, data.get name = value
  | .setValue _ _ written => written = value
  | _ => False

namespace EditorAction.Storable

variable {action : EditorAction}

theorem wellKeyed (storable : action.Storable) : action.WellKeyed := by
  cases action with
  | add => exact Value.Storable.wellKeyed storable
  | setValue => exact Value.Storable.wellKeyed storable
  | writeData => exact storable.elim
  | run =>
    obtain rfl := storable
    exact Registry.wellKeyed_builtin
  | _ => trivial

theorem brought (storable : action.Storable) {value : Value} (brings : action.Brings value) :
    value.Storable := by
  cases action with
  | add =>
    obtain ⟨name, rfl⟩ := brings
    exact Fields.storable_get storable name
  | setValue =>
    obtain rfl := brings
    exact storable
  | _ => exact brings.elim

end EditorAction.Storable

/-- A number node stores the number of a text, however large it is. -/
theorem Workspace.exists_output_of_isOversizedText {workspace : Workspace} {id : String}
    {node : Node} (found : workspace.graph.node? id = some node) (kind : node.kind = "number")
    {value : Value} (large : value.IsOversizedText) :
    ∃ n : Number, n.IsOversized ∧
      ∃ written ∈ (Edit.stateAfter (setValue id "num" value) workspace).graph.nodes,
        written.data.get "v" = .ofNumber n := by
  obtain ⟨n, read, tooLarge⟩ := large.toNumber
  have derived : node.derivedOutput "num" (node.data.set "num" value) =
      .ok (some (.ofNumber n)) := by
    rcases node.derives "num" with ⟨_, _, _, output⟩ | ⟨_, field, _⟩ | ⟨sources, _⟩
    · rw [output, Fields.get_set_self, read]
      rfl
    · exact absurd field (by decide)
    · rw [Node.sources, if_pos ⟨kind, rfl⟩] at sources
      cases sources
  rw [Edit.stateAfter_of_ok (setValue_of_derived found derived)]
  refine ⟨n, tooLarge, _, List.mem_map_of_mem (Graph.mem_of_node? found), ?_⟩
  rw [if_pos (Graph.id_of_node? found)]
  exact Fields.get_set_self _ _ _

namespace Session

variable {ids : IdSource} {actions : List EditorAction}

/-- What is passed on, and holds of all that the actions bring, holds of every field. -/
theorem eachField_after {ofField : String → String → Value → Prop} (passedOn : PassedOn ofField)
    (storable : ∀ action ∈ actions, action.Storable)
    (brought : ∀ action ∈ actions, ∀ value, action.Brings value →
      ∀ kind name, ofField kind name value) :
    ∀ node ∈ (after ids actions).workspace.graph.nodes, node.EachField ofField := by
  have each : (after ids actions).Each (Node.EachField ofField) fun _ => True := by
    refine each_after_of_respects passedOn.lasting ids fun session each action member => ?_
    have allowed := storable action member
    have holds := brought action member
    cases action with
    | add turn x y data =>
      exact fun node _ name => holds _ ⟨name, rfl⟩ _ _
    | setValue id name value =>
      exact fun node inGraph _ => passedOn.accepts (each.graph.nodes node inGraph) (holds _ rfl)
    | writeData => exact allowed.elim
    | openPreset => exact allowed.elim
    | run =>
      obtain rfl := allowed
      exact passedOn.respects
    | _ => trivial
  exact each.graph.nodes

/-- A graph is saved if each node's data can be stored. -/
theorem exists_dump_of_storable (storable : ∀ action ∈ actions, action.Storable)
    (data : ∀ node ∈ (after ids actions).workspace.graph.nodes, ∀ name,
      (node.data.get name).Storable) :
    ∃ snapshot, (after ids actions).workspace.graph.dump = .ok snapshot := by
  have wellKeyed : ∀ action ∈ actions, action.WellKeyed :=
    fun action listed => (storable action listed).wellKeyed
  have each := (each_after ids wellKeyed).graph
  obtain ⟨_, _, _, sound⟩ := sound_after ids actions
  have normal : (after ids actions).workspace.graph.Normal := by
    refine ⟨fun node member => ?_, fun edge member => ?_⟩
    · have keepable := each.nodes node member
      have stored := keepable.data.storable_of_get (data node member)
      exact ⟨keepable.normal ⟨0, stored.exists_write .diagnostic 0⟩, keepable.reservable⟩
    · exact ⟨sound.edge_normal member (each.edges edge member), (each.edges edge member).reservable⟩
  obtain ⟨snapshot, dumped, _⟩ := Graph.exists_dump normal
  exact ⟨snapshot, dumped⟩

/-- The graph of an editor session can be saved if and only if the outputs of its number and vector
nodes can be stored; they can be as long as no text in another base is brought that stands for more
than 4300 digits. -/
theorem exists_dump_iff (storable : ∀ action ∈ actions, action.Storable) :
    ((∃ snapshot, (after ids actions).workspace.graph.dump = .ok snapshot) ↔
      ∀ node ∈ (after ids actions).workspace.graph.nodes, node.kind ∈ ["number", "vec3"] →
        (node.data.get "v").Storable) ∧
    ((∀ action ∈ actions, ∀ value, action.Brings value → ¬ value.IsOversizedText) →
      ∃ snapshot, (after ids actions).workspace.graph.dump = .ok snapshot) := by
  constructor
  · constructor
    · rintro ⟨snapshot, dumped⟩ node member _
      have normal := normal_of_dump (fun action listed => (storable action listed).wellKeyed) dumped
      exact Fields.storable_get (normal.nodes node member).1.storable "v"
    · intro derived
      refine exists_dump_of_storable storable fun node member name => ?_
      have each := eachField_after passedOn_storableButDerived storable
        (fun action listed value brings _ _ => .inl ((storable action listed).brought brings))
        node member name
      rcases each with stored | ⟨kind, rfl⟩
      · exact stored
      · exact derived node member kind
  · intro small
    refine exists_dump_of_storable storable fun node member name => ?_
    exact (eachField_after passedOn_modest storable (fun action listed value brings _ _ =>
      ⟨(storable action listed).brought brings, small action listed value brings⟩)
      node member name).storable

/-- A number node is added. -/
def numberAdded : List EditorAction :=
  [.create "number" (.int 0) (.int 0),
   .add 0 (Node.coordinate 0) (Node.coordinate 0) Template.number.defaults]

theorem storable_numberAdded : ∀ action ∈ numberAdded, action.Storable := by
  have listed : Template.number ∈ Template.all := by simp [Template.all]
  have defaults : (Value.dict Template.number.defaults).Storable :=
    (Template.wellKeyed_defaults listed).storable_of_get fun name =>
      (Template.modest_defaults listed name).storable
  intro action member
  simp only [numberAdded, List.mem_cons, List.not_mem_nil, or_false] at member
  rcases member with rfl | rfl
  · trivial
  · exact defaults

/-- A number node is added, and a text is written to it. -/
def numberText (s : String) : List EditorAction :=
  numberAdded ++ [.setValue "node_1" "num" (.text s)]

theorem storable_numberText (s : String) : ∀ action ∈ numberText s, action.Storable := by
  intro action listed
  rcases List.mem_append.1 listed with old | new
  · exact storable_numberAdded action old
  · exact List.mem_singleton.1 new ▸ Value.Storable.text s

/-- The text `0x10` is no obstacle. -/
theorem exists_dump_numberText :
    (∃ snapshot, (after ⟨0⟩ (numberText "0x10")).workspace.graph.dump = .ok snapshot) ∧
      ∀ node ∈ (after ⟨0⟩ (numberText "0x10")).workspace.graph.nodes,
        node.kind ∈ ["number", "vec3"] → (node.data.get "v").Storable := by
  have small : ¬ (Value.text "0x10").IsOversizedText := by
    intro large
    obtain ⟨n, read, tooLarge⟩ := large.toNumber
    have sixteen : (Value.text "0x10").toNumber = .ok (.int 16) := by
      decide +kernel
    rw [sixteen] at read
    cases read
    have atMost := Number.isOversized_int_iff.1 tooLarge
    have hundred : 10 ^ 2 ≤ 10 ^ digitLimit := Nat.pow_le_pow_right (by decide) (by decide)
    omega
  have brought : ∀ action ∈ numberText "0x10", ∀ value, action.Brings value →
      ¬ value.IsOversizedText := by
    intro action listed value brings
    simp only [numberText, numberAdded, List.cons_append, List.nil_append, List.mem_cons,
      List.not_mem_nil, or_false] at listed
    rcases listed with rfl | rfl | rfl
    · exact brings.elim
    · obtain ⟨name, rfl⟩ := brings
      have template : Template.number ∈ Template.all := by simp [Template.all]
      exact (Template.modest_defaults template name).readable
    · obtain rfl := brings
      exact small
  have both := @exists_dump_iff ⟨0⟩ _ (storable_numberText "0x10")
  exact ⟨both.2 brought, both.1.1 (both.2 brought)⟩

/-- Once a text that stands for too large a number is written to a number node, nothing can be
saved. -/
theorem not_dump_of_isOversizedText (wellKeyed : ∀ action ∈ actions, action.WellKeyed) {id : String}
    {node : Node} (found : (after ids actions).workspace.graph.node? id = some node)
    (kind : node.kind = "number") {value : Value} (large : value.IsOversizedText)
    (snapshot : String) :
    (after ids (actions ++ [.setValue id "num" value])).workspace.graph.dump ≠ .ok snapshot := by
  intro dumped
  have ofValue : value.WellKeyed := by
    cases value with
    | text s => exact .text s
    | _ => exact large.elim
  have ofAll : ∀ action ∈ actions ++ [.setValue id "num" value], action.WellKeyed := by
    intro action listed
    rcases List.mem_append.1 listed with old | new
    · exact wellKeyed action old
    · exact List.mem_singleton.1 new ▸ ofValue
  have last : after ids (actions ++ [.setValue id "num" value]) =
      (after ids actions).step (.setValue id "num" value) := List.foldl_append
  have normal := normal_of_dump ofAll dumped
  rw [last] at normal
  obtain ⟨n, tooLarge, written, member, output⟩ :=
    Workspace.exists_output_of_isOversizedText found kind large
  have stored := Fields.storable_get (normal.nodes written member).1.storable "v"
  rw [output] at stored
  exact Value.storable_ofNumber_iff.1 stored tooLarge

/-- One and zeros, in base sixteen. -/
def hexPower (zeros : Nat) : String :=
  String.ofList ('0' :: 'x' :: '1' :: List.replicate zeros '0')

theorem isOversizedText_hexPower {zeros : Nat} (many : digitLimit ≤ zeros) :
    (Value.text (hexPower zeros)).IsOversizedText := by
  have row : ∀ count, List.Forall₂ (RadixDigit 16) (List.replicate count '0')
      (List.replicate count 0) := by
    intro count
    induction count with
    | zero => exact .nil
    | succ count ih => exact .cons ⟨by decide, .inl rfl⟩ ih
  have value : 16 ^ zeros = Nat.ofDigits 16 (1 :: List.replicate zeros 0).reverse := by
    rw [List.reverse_cons, List.reverse_replicate, Nat.ofDigits_append, Nat.ofDigits_replicate_zero,
      List.length_replicate, Nat.ofDigits_singleton, Nat.zero_add, Nat.mul_one]
  have nonblank : ∀ c ∈ '0' :: 'x' :: '1' :: List.replicate zeros '0', Text.isBlank c = false := by
    intro c member
    simp only [List.mem_cons, List.mem_replicate] at member
    rcases member with rfl | rfl | rfl | ⟨_, rfl⟩ <;> decide
  refine ⟨'x', 16, '1' :: List.replicate zeros '0', 16 ^ zeros, by decide, ?_, by simp,
    ⟨_, .cons ⟨by decide, .inl rfl⟩ (row zeros), value⟩, ?_⟩
  · rw [hexPower, String.toList_ofList]
    exact .of_nonblank nonblank
  · calc 10 ^ digitLimit ≤ 10 ^ zeros := Nat.pow_le_pow_right (by decide) many
      _ ≤ 16 ^ zeros := Nat.pow_le_pow_left (by decide) zeros

/-- But `16 ^ 4300` has too many digits, and a session that writes it in base sixteen cannot be
saved. -/
theorem not_dump_hexPower : (∀ action ∈ numberText (hexPower 4300), action.Storable) ∧
    ∀ snapshot,
      (after ⟨0⟩ (numberText (hexPower 4300))).workspace.graph.dump ≠ .ok snapshot := by
  refine ⟨storable_numberText _, ?_⟩
  have wellKeyed : ∀ action ∈ numberAdded, action.WellKeyed :=
    fun action listed => (storable_numberAdded action listed).wellKeyed
  have kinds : ((after ⟨0⟩ numberAdded).workspace.graph.node? "node_1").map Node.kind =
      some "number" := by
    decide +kernel
  obtain ⟨node, found, kind⟩ := Option.map_eq_some_iff.1 kinds
  exact not_dump_of_isOversizedText wellKeyed found kind
    (isOversizedText_hexPower (Nat.le_refl _))

end Session

end NodeFlow
