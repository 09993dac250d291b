import NodeFlow.Binary64.Decimal
import NodeFlow.Conversion
import NodeFlow.Text.Blank
import NodeFlow.Text.Digit

/-!
# Numerals

Numbers written in decimal digits of any script: an optional sign, digits with an optional point,
an optional exponent. Strict numerals are read by `Numeral.read?`; the lenient readers allow
padding around a numeral and single underscores between its digits.
-/

namespace NodeFlow

/-- A numeral in its parts. -/
structure Numeral where
  negative : Bool
  /-- The digits before the point. -/
  whole : List Char
  /-- The digits after the point, if there is a point. -/
  fraction : Option (List Char)
  /-- The power of ten, if one is given. -/
  exponent : Option Int
  deriving DecidableEq, Repr

/-- Splits a leading sign off. -/
def takeSign : List Char → Bool × List Char
  | '-' :: rest => (true, rest)
  | '+' :: rest => (false, rest)
  | rest => (false, rest)

/-- A whole number with a sign. -/
def signed (negative : Bool) (magnitude : Nat) : Int :=
  if negative then -magnitude else magnitude

namespace Numeral

/-- Reads the exponent that makes up a whole text: `some none` if the text is empty. -/
def readExponent? : List Char → Option (Option Int)
  | [] => some none
  | mark :: rest =>
    let (negative, digits) := takeSign rest
    if (mark == 'e' || mark == 'E') && !digits.isEmpty && digits.all Text.isDecimalDigit then
      some (some (signed negative (Text.digitsValue digits)))
    else none

/-- Splits the digits after a point off, if a point comes first. -/
def takeFraction : List Char → Option (List Char) × List Char
  | '.' :: rest => (some (rest.takeWhile Text.isDecimalDigit), rest.dropWhile Text.isDecimalDigit)
  | rest => (none, rest)

/-- Reads a whole text as a numeral; a digit must stand before or after the point. -/
def read? (chars : List Char) : Option Numeral :=
  let (negative, unsigned) := takeSign chars
  let whole := unsigned.takeWhile Text.isDecimalDigit
  let (fraction, rest) := takeFraction (unsigned.dropWhile Text.isDecimalDigit)
  if whole.isEmpty && (fraction.getD []).isEmpty then none
  else (readExponent? rest).map fun exponent => ⟨negative, whole, fraction, exponent⟩

/-- Whether the numeral has neither point nor exponent. -/
def isWhole (numeral : Numeral) : Bool :=
  numeral.fraction.isNone && numeral.exponent.isNone

/-- The magnitude that the numeral denotes. -/
def magnitude (numeral : Numeral) : Decimal :=
  let fraction := numeral.fraction.getD []
  ⟨Text.digitsValue (numeral.whole ++ fraction), numeral.exponent.getD 0 - fraction.length⟩

/-- The binary64 number nearest to what the numeral denotes. -/
def toBinary64 (numeral : Numeral) : Binary64 :=
  Binary64.ofDecimal numeral.negative numeral.magnitude

end Numeral

/-- The whole number that a row of digits denotes, unless the row is too long; zeros at its head
count. -/
def readDigits (negative : Bool) (digits : List Char) : Except ConversionError Int :=
  if digitLimit < digits.length then .error (.digitsRead digits.length)
  else .ok (signed negative (Text.digitsValue digits))

/-- Whether every underscore stands between two digits; `afterDigit` tells whether a digit stands
before the text. -/
def separatorsFit (afterDigit : Bool) : List Char → Bool
  | [] => true
  | '_' :: rest =>
    afterDigit && (rest.head?.map Text.isDecimalDigit).getD false && separatorsFit false rest
  | c :: rest => separatorsFit (Text.isDecimalDigit c) rest

/-- Reads a whole number leniently. A row of digits that is too long is reported as such even if
something else follows it. -/
def readInteger (text : String) : Except ConversionError Int :=
  let (negative, unsigned) := takeSign (Text.dropEnds Text.isNumeralPadding text.toList)
  let inRow (c : Char) : Bool := Text.isDecimalDigit c || c == '_'
  let row := unsigned.takeWhile inRow
  let digits := row.filter Text.isDecimalDigit
  if !separatorsFit false row then .error (.malformedInteger text)
  else if digitLimit < digits.length then .error (.digitsRead digits.length)
  else if digits.isEmpty || !(unsigned.dropWhile inRow).isEmpty then .error (.malformedInteger text)
  else .ok (signed negative (Text.digitsValue digits))

/-- Reads one of the names `inf`, `infinity` and `nan`, in letters of either case. -/
def readFloatName? (chars : List Char) : Option Binary64 :=
  let (negative, name) := takeSign chars
  let name := String.ofList (name.map Char.toLower)
  if name == "inf" || name == "infinity" then some (.infinite negative)
  else if name == "nan" then some .nan
  else none

/-- Reads a binary64 number leniently. -/
def readFloat (text : String) : Except ConversionError Binary64 :=
  let chars := Text.dropEnds Text.isNumeralPadding text.toList
  let bare := chars.filter (· != '_')
  if !separatorsFit false chars then .error (.malformedFloat text)
  else
    match readFloatName? bare with
    | some x => .ok x
    | none =>
      match Numeral.read? bare with
      | some numeral => .ok numeral.toBinary64
      | none => .error (.malformedFloat text)

example : Numeral.read? "-1.50e+2".toList = some ⟨true, ['1'], some ['5', '0'], some 2⟩ := by
  decide +kernel
example : Numeral.read? ".".toList = none ∧ Numeral.read? "1e".toList = none := by decide +kernel
example : (readInteger " 1_000 ").toOption = some 1000 := by decide +kernel
example : (readInteger "1__0").toOption = none := by decide +kernel

end NodeFlow
