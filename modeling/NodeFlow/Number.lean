import NodeFlow.Numeral

/-!
# Numbers

The two kinds of numbers that flow between nodes: whole numbers of any size and binary64 numbers.
Whole numbers stay exact; they become binary64 only when they meet one.
-/

namespace NodeFlow

/-- A number. -/
inductive Number where
  | int (n : Int)
  | float (x : Binary64)
  deriving DecidableEq

namespace Number

/-- The binary64 number nearest to a number, unless that is beyond the format. -/
def toFloat : Number → Except ConversionError Binary64
  | .int n => ((Binary64.ofInt? n).map .ok).getD (.error .beyondFloat)
  | .float x => .ok x

/-- Combines two numbers: exactly if both are whole, else as binary64 numbers. -/
def combine (exact : Int → Int → Int) (rounded : Binary64 → Binary64 → Binary64) :
    Number → Number → Except ConversionError Number
  | .int m, .int n => .ok (.int (exact m n))
  | x, y => do return .float (rounded (← x.toFloat) (← y.toFloat))

/-- The sum. -/
def add : Number → Number → Except ConversionError Number := combine (· + ·) Binary64.add

/-- The product. -/
def mul : Number → Number → Except ConversionError Number := combine (· * ·) Binary64.mul

/-- Reads a whole number in base sixteen, eight or two; `chars` is what follows the `0`. -/
def readRadix? : List Char → Option Nat
  | [] => none
  | mark :: digits =>
    let base :=
      if mark == 'x' || mark == 'X' then 16
      else if mark == 'o' || mark == 'O' then 8
      else if mark == 'b' || mark == 'B' then 2
      else 0
    let value (c : Char) : Nat :=
      if c.isDigit then c.toNat - '0'.toNat
      else if c.isAlpha then c.toLower.toNat - 'a'.toNat + 10
      else base
    if !digits.isEmpty && digits.all fun c => value c < base then
      some (digits.foldl (fun total c => total * base + value c) 0)
    else none

/-- Reads a trimmed text that is no infinity: a decimal numeral is whole unless it has a point or
an exponent, `0x`, `0o` and `0b` introduce other bases, and all else is NaN. -/
def readNumeral (chars : List Char) : Except ConversionError Number :=
  match Numeral.read? chars with
  | some numeral =>
    if numeral.isWhole then (readDigits numeral.negative numeral.whole).map .int
    else .ok (.float numeral.toBinary64)
  | none =>
    match chars with
    | '0' :: rest => .ok (((readRadix? rest).map fun n => .int n).getD (.float .nan))
    | _ => .ok (.float .nan)

/-- The number that a text stands for: zero if it is blank. -/
def ofText (text : String) : Except ConversionError Number :=
  let chars := Text.trim text.toList
  if chars.isEmpty then .ok (.int 0)
  else if chars == "Infinity".toList || chars == "+Infinity".toList then
    .ok (.float (.infinite false))
  else if chars == "-Infinity".toList then .ok (.float (.infinite true))
  else readNumeral chars

/-- The text of a number in a run's log. -/
def format : Number → Except ConversionError String
  | .int n => (writeInt n).map fun _ =>
    String.ofList (Layout.console.write (n < 0) ⟨n.natAbs, 0⟩)
  | .float .nan => .ok "NaN"
  | .float (.infinite negative) => .ok (if negative then "-Infinity" else "Infinity")
  | .float (.finite negative units _) =>
    .ok (String.ofList (Layout.console.write negative (Binary64.shortest units)))

end Number

end NodeFlow
