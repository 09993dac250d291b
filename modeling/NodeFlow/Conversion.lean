import NodeFlow.Text.Quoted

/-!
# Failed conversions

Why a value cannot be read as a number, written as text or walked through. Whole numbers travel
through decimal text only up to `digitLimit` digits.
-/

namespace NodeFlow

/-- The most decimal digits of a whole number that is read from text or written to it. -/
def digitLimit : Nat := 4300

/-- A failed conversion. -/
inductive ConversionError where
  /-- A text of too many digits. -/
  | digitsRead (count : Nat)
  /-- A whole number whose text would have too many digits. -/
  | digitsWritten
  | malformedInteger (text : String)
  | malformedFloat (text : String)
  /-- A value of a type that no number is made from. -/
  | notNumeric (typeName : String)
  /-- A value of a type that has no items. -/
  | notIterable (typeName : String)
  /-- A whole number beyond the binary64 format. -/
  | beyondFloat
  deriving DecidableEq, Repr

namespace ConversionError

/-- What a failed conversion is about: the value itself, its type, or its magnitude. -/
inductive Kind where
  | value
  | type
  | magnitude
  deriving DecidableEq, Repr

/-- The kind of a failure. -/
def kind : ConversionError → Kind
  | digitsRead _ | digitsWritten | malformedInteger _ | malformedFloat _ => .value
  | notNumeric _ | notIterable _ => .type
  | beyondFloat => .magnitude

/-- The wording of a failure. A malformed whole number is quoted up to 200 characters. -/
def message : ConversionError → String
  | digitsRead count =>
    "Exceeds the limit (" ++ toString digitLimit ++ " digits) for integer string conversion: value has "
      ++ toString count ++ " digits; use sys.set_int_max_str_digits() to increase the limit"
  | digitsWritten =>
    "Exceeds the limit (" ++ toString digitLimit ++ " digits) for integer string conversion; "
      ++ "use sys.set_int_max_str_digits() to increase the limit"
  | malformedInteger text =>
    "invalid literal for int() with base 10: "
      ++ String.ofList ((Text.quote text).toList.take 200)
  | malformedFloat text => "could not convert string to float: " ++ Text.quote text
  | notNumeric typeName =>
    "float() argument must be a string or a real number, not '" ++ typeName ++ "'"
  | notIterable typeName => "'" ++ typeName ++ "' object is not iterable"
  | beyondFloat => "int too large to convert to float"

end ConversionError

/-- The decimal text of a whole number, unless it is too long. -/
def writeInt (n : Int) : Except ConversionError (List Char) :=
  let digits := Nat.toDigits 10 n.natAbs
  if digitLimit < digits.length then .error .digitsWritten
  else .ok (if n < 0 then '-' :: digits else digits)

end NodeFlow
