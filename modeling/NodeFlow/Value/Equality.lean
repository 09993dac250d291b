import NodeFlow.Value.Basic

/-!
# Equality of values

When two values count as the same: truth values are the numbers zero and one, whole and binary64
numbers are compared by value, and the order of a mapping's fields does not matter. A NaN differs
from every value, but inside containers a NaN agrees with a NaN.
-/

namespace NodeFlow.Value

/-- Whether two numbers are equal; `nested` tells whether they lie inside containers. -/
def sameNumber (nested : Bool) : Number → Number → Bool
  | .int m, .int n => m == n
  | .int m, .float y => y.equalsInt m
  | .float x, .int n => x.equalsInt n
  | .float .nan, .float .nan => nested
  | .float x, .float y => x.numEq y

/-- The number that a scalar counts as. -/
def scalarNumber? : Value → Option Number
  | .bool b => some (.int (ofBool b))
  | .int n => some (.int n)
  | .float x => some (.float x)
  | _ => none

mutual

/-- Whether two values are equal. -/
def same (nested : Bool) : Value → Value → Bool
  | .null, other => other.isNull
  | .bool b, other => (other.scalarNumber?.map (sameNumber nested (.int (ofBool b)))).getD false
  | .int n, other => (other.scalarNumber?.map (sameNumber nested (.int n))).getD false
  | .float x, other => (other.scalarNumber?.map (sameNumber nested (.float x))).getD false
  | .text s, other => other.isText s
  | .list items, .list others => sameItems items others
  | .list _, _ => false
  | .dict fields, .dict others => fields.length == others.length && sameFields fields others
  | .dict _, _ => false

/-- Whether two lists hold equal items at the same places. -/
def sameItems : List Value → List Value → Bool
  | [], others => others.isEmpty
  | item :: rest, other :: others => same true item other && sameItems rest others
  | _ :: _, [] => false

/-- Whether every field has an equal one among the others. -/
def sameFields : List (String × Value) → Fields → Bool
  | [], _ => true
  | (key, value) :: rest, others =>
    ((others.get? key).map (same true value)).getD false && sameFields rest others

end

end NodeFlow.Value
