/-!
# Digits

Decimal digits of every script (general category Nd of Unicode 14) with their values, and the
wider class of digit-like characters, which adds superscripts, circled digits and the like.
Main statements: the value of a digit is below ten, and the ASCII digits have their own values.
-/

namespace NodeFlow.Text

/-- The zero of each script; the digits one to nine follow it directly. -/
def zeroDigits : List Nat :=
  [0x30, 0x660, 0x6F0, 0x7C0, 0x966, 0x9E6, 0xA66, 0xAE6, 0xB66, 0xBE6, 0xC66, 0xCE6, 0xD66,
   0xDE6, 0xE50, 0xED0, 0xF20, 0x1040, 0x1090, 0x17E0, 0x1810, 0x1946, 0x19D0, 0x1A80, 0x1A90,
   0x1B50, 0x1BB0, 0x1C40, 0x1C50, 0xA620, 0xA8D0, 0xA900, 0xA9D0, 0xA9F0, 0xAA50, 0xABF0,
   0xFF10, 0x104A0, 0x10D30, 0x11066, 0x110F0, 0x11136, 0x111D0, 0x112F0, 0x11450, 0x114D0,
   0x11650, 0x116C0, 0x11730, 0x118E0, 0x11950, 0x11C50, 0x11D50, 0x11DA0, 0x16A60, 0x16AC0,
   0x16B50, 0x1D7CE, 0x1D7D8, 0x1D7E2, 0x1D7EC, 0x1D7F6, 0x1E140, 0x1E2F0, 0x1E950, 0x1FBF0]

/-- Digit-like characters that are no decimal digits, as inclusive ranges. -/
def ornamentedDigits : List (Nat × Nat) :=
  [(0xB2, 0xB3), (0xB9, 0xB9), (0x1369, 0x1371), (0x19DA, 0x19DA), (0x2070, 0x2070),
   (0x2074, 0x2079), (0x2080, 0x2089), (0x2460, 0x2468), (0x2474, 0x247C), (0x2488, 0x2490),
   (0x24EA, 0x24EA), (0x24F5, 0x24FD), (0x24FF, 0x24FF), (0x2776, 0x277E), (0x2780, 0x2788),
   (0x278A, 0x2792), (0x10A40, 0x10A43), (0x10E60, 0x10E68), (0x11052, 0x1105A),
   (0x1F100, 0x1F10A)]

/-- The value of a decimal digit of any script. -/
def digitValue? (c : Char) : Option Nat :=
  (zeroDigits.find? fun first => first ≤ c.toNat && c.toNat < first + 10).map (c.toNat - ·)

/-- Whether the character is a decimal digit of some script. -/
def isDecimalDigit (c : Char) : Bool :=
  (digitValue? c).isSome

/-- Whether the character counts as a digit when ornamented forms such as `²` are let in. -/
def isDigitLike (c : Char) : Bool :=
  isDecimalDigit c || ornamentedDigits.any fun range => range.1 ≤ c.toNat && c.toNat ≤ range.2

/-- The number that a row of decimal digits of any scripts denotes; other characters count as
zero, so callers pass digits only. -/
def digitsValue (digits : List Char) : Nat :=
  digits.foldl (fun total c => 10 * total + (digitValue? c).getD 0) 0

theorem digitValue?_lt_ten {c : Char} {value : Nat} (h : digitValue? c = some value) :
    value < 10 := by
  obtain ⟨first, found, rfl⟩ := Option.map_eq_some_iff.1 h
  have inside := List.find?_some found
  simp only [Bool.and_eq_true, decide_eq_true_eq] at inside
  omega

theorem digitValue?_digitChar {digit : Nat} (h : digit < 10) :
    digitValue? (Nat.digitChar digit) = some digit := by
  revert digit
  decide

theorem digitsValue_append (left : List Char) (c : Char) :
    digitsValue (left ++ [c]) = 10 * digitsValue left + (digitValue? c).getD 0 := by
  simp [digitsValue]

example : zeroDigits.length = 66 := rfl
example : digitValue? '7' = some 7 ∧ digitValue? '\u0665' = some 5 ∧ digitValue? 'a' = none := by
  decide
example : isDecimalDigit '²' = false ∧ isDigitLike '²' = true := by decide

end NodeFlow.Text
