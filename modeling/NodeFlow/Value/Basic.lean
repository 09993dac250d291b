import NodeFlow.Keyed
import NodeFlow.Number

/-!
# Values

The dynamically typed values that nodes hold and exchange: what a JSON text can hold, with whole
and binary64 numbers told apart. A mapping keeps its fields in the order in which their keys were
first written.
-/

namespace NodeFlow

/-- A value. The keys of a mapping are distinct. -/
inductive Value where
  | null
  | bool (b : Bool)
  | int (n : Int)
  | float (x : Binary64)
  | text (s : String)
  | list (items : List Value)
  | dict (fields : List (String × Value))

/-- The fields of a mapping, in order. -/
abbrev Fields := Keyed Value

/-- The value under a key; an absent key counts as null. -/
def Fields.get (fields : Fields) (key : String) : Value :=
  (fields.get? key).getD .null

namespace Value

instance : Inhabited Value := ⟨.null⟩

/-- What messages call the type of a value. -/
def typeName : Value → String
  | .null => "NoneType"
  | .bool _ => "bool"
  | .int _ => "int"
  | .float _ => "float"
  | .text _ => "str"
  | .list _ => "list"
  | .dict _ => "dict"

/-- A number as a value. -/
def ofNumber : Number → Value
  | .int n => .int n
  | .float x => .float x

/-- Whether the value is the given text. -/
def isText (s : String) : Value → Bool
  | .text t => t == s
  | _ => false

theorem isText_iff {s : String} {value : Value} : value.isText s = true ↔ value = .text s := by
  cases value <;> simp [isText]

/-- Whether the value is null. -/
def isNull : Value → Bool
  | .null => true
  | _ => false

/-- Whether a flag holds the value: null, false, zeros and everything empty do not count. -/
def truthy : Value → Bool
  | .null => false
  | .bool b => b
  | .int n => n != 0
  | .float x => !x.equalsInt 0
  | .text s => !s.isEmpty
  | .list items => !items.isEmpty
  | .dict fields => !fields.isEmpty

/-- A truth value counts as zero or one where numbers are compared or read. -/
def ofBool (b : Bool) : Int := if b then 1 else 0

end Value

end NodeFlow
