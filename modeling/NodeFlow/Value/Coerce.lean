import NodeFlow.Value.Basic

/-!
# Reading values as numbers, vectors and lists

Two readings of a value as a number: the strict one for geometry, which refuses what is not
numeric, and the forgiving one for the data of nodes, where text that is no number is NaN and an
absent value is zero.
-/

namespace NodeFlow

namespace Value

/-- The value as a coordinate. -/
def toFloat : Value → Except ConversionError Binary64
  | .bool b => (Number.int (ofBool b)).toFloat
  | .int n => (Number.int n).toFloat
  | .float x => .ok x
  | .text s => readFloat s
  | other => .error (.notNumeric other.typeName)

/-- The value as a number in a node's data. -/
def toNumber : Value → Except ConversionError Number
  | .null => .ok (.int 0)
  | .bool b => .ok (.int (ofBool b))
  | .int n => .ok (.int n)
  | .float x => .ok (.float x)
  | .text s => Number.ofText s
  | .list _ | .dict _ => .ok (.float .nan)

/-- The value as a number, with a value of the caller's choice for null. -/
def toNumberOr (value fallback : Value) : Except ConversionError Value :=
  if value.isNull then .ok fallback else value.toNumber.map ofNumber

/-- The items of a value that is walked through: the characters of a text, the keys of a
mapping. -/
def items : Value → Except ConversionError (List Value)
  | .text s => .ok (s.toList.map fun c => .text (String.singleton c))
  | .list values => .ok values
  | .dict fields => .ok (fields.map fun field => .text field.1)
  | other => .error (.notIterable other.typeName)

end Value

/-- A vector of three numbers. -/
structure Vector3 where
  x : Number
  y : Number
  z : Number
  deriving DecidableEq

namespace Vector3

/-- The vector as a mapping. -/
def toValue (v : Vector3) : Value :=
  .dict [("x", .ofNumber v.x), ("y", .ofNumber v.y), ("z", .ofNumber v.z)]

/-- Reads the components from fields; absent ones count as zero. -/
def ofFields (fields : Fields) : Except ConversionError Vector3 := do
  return ⟨← (fields.get "x").toNumber, ← (fields.get "y").toNumber, ← (fields.get "z").toNumber⟩

/-- The value as a vector; what is no mapping is the zero vector. -/
def ofValue : Value → Except ConversionError Vector3
  | .dict fields => ofFields fields
  | _ => .ok ⟨.int 0, .int 0, .int 0⟩

/-- The sum of the products of components, added from first to last. -/
def dot (v w : Vector3) : Except ConversionError Number := do
  let first ← v.x.mul w.x
  let second ← v.y.mul w.y
  let partialSum ← first.add second
  let third ← v.z.mul w.z
  partialSum.add third

/-- The Euclidean length. -/
def length (v : Vector3) : Except ConversionError Number := do
  return .float (Binary64.length [← v.x.toFloat, ← v.y.toFloat, ← v.z.toFloat])

end Vector3

end NodeFlow
