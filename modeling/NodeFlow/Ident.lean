import NodeFlow.Error

/-!
# Identifiers

Generated identifiers are a label and a number, such as `node_12`; the numbers come from one
counter. An identifier that comes from elsewhere moves the counter past the number it ends in, so
that it is never generated again. Main statement: generating an identifier advances the counter by
one.
-/

namespace NodeFlow

/-- The counter behind generated identifiers: the last number in use. -/
structure IdSource where
  last : Nat
  deriving DecidableEq, Repr

namespace IdSource

/-- A fresh identifier. The counter advances even if its text would be too long. -/
def fresh (label : String) : Edit IdSource String := fun ids =>
  let next : IdSource := ⟨ids.last + 1⟩
  Edit.convert ((writeInt next.last).map fun digits => label ++ "_" ++ String.ofList digits) next

/-- What follows the last underscore of an identifier; all of it if there is none. -/
def numberPart (id : String) : String :=
  String.ofList (id.toList.reverse.takeWhile (· != '_')).reverse

/-- The number that an identifier ends in. Characters such as `²` make it look like one that
cannot be read. -/
def numberOf? (id : String) : Except ConversionError (Option Nat) :=
  let part := numberPart id
  if !part.isEmpty && part.toList.all Text.isDigitLike then
    (readInteger part).map fun n => some n.toNat
  else .ok none

/-- Moves the counter past the number of an identifier. -/
def reserve (id : String) : Edit IdSource Unit := do
  let number ← Edit.convert (numberOf? id)
  modify fun ids => ⟨max ids.last (number.getD 0)⟩

theorem fresh_last {label id : String} {before after : IdSource}
    (h : fresh label before = .ok id after) : after.last = before.last + 1 := by
  rw [← (Edit.convert_eq_ok_iff.1 h).2]

end IdSource

end NodeFlow
