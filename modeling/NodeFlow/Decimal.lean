/-!
# Decimals

Decimal numbers as a coefficient and a power of ten, their significant digits, and the layouts in
which they are written: plain notation within a range of magnitudes, an exponent outside it.
-/

-- Powers mean the same to every module, also where a library brings its own.
attribute [instance (2000), default_instance 20000] instPowNat

namespace NodeFlow

/-- The decimal `coefficient * 10 ^ exponent`. -/
structure Decimal where
  coefficient : Nat
  exponent : Int
  deriving DecidableEq, Repr

namespace Decimal

/-- The significant digits: those of the coefficient without the zeros at its end. -/
def significant (d : Decimal) : List Char :=
  ((Nat.toDigits 10 d.coefficient).reverse.dropWhile (· == '0')).reverse

/-- Where the decimal point falls: the decimal is `0.` followed by its significant digits, times
ten to this power. -/
def point (d : Decimal) : Int :=
  (Nat.toDigits 10 d.coefficient).length + d.exponent

end Decimal

/-- How decimals are written. -/
structure Layout where
  /-- The least and the greatest place of the point in plain notation. -/
  lowest : Int
  highest : Int
  /-- What follows a whole number in plain notation. -/
  wholeMark : List Char
  /-- The least number of digits of an exponent. -/
  exponentWidth : Nat
  /-- Whether a negative zero shows its sign. -/
  signedZero : Bool

namespace Layout

/-- How numbers stand in stored data and in diagnostics: a point at least, plain notation from
`0.0001` to below `10 ^ 16`, and exponents of two digits or more. -/
def data : Layout := ⟨-3, 16, ['.', '0'], 2, true⟩

/-- How numbers stand in a run's log: whole numbers without a point, and plain notation from
`10 ^ (-6)` to below `10 ^ 21`. -/
def console : Layout := ⟨-5, 21, [], 1, false⟩

/-- Significant digits in plain notation. -/
def plain (layout : Layout) (digits : List Char) (point : Int) : List Char :=
  if point ≤ 0 then '0' :: '.' :: (List.replicate point.natAbs '0' ++ digits)
  else if digits.length ≤ point then
    digits ++ List.replicate (point.natAbs - digits.length) '0' ++ layout.wholeMark
  else digits.take point.natAbs ++ '.' :: digits.drop point.natAbs

/-- Significant digits with one of them before the point, and an exponent. -/
def scientific (layout : Layout) (digits : List Char) (point : Int) : List Char :=
  let power := point - 1
  let size := Nat.toDigits 10 power.natAbs
  let mantissa :=
    match digits with
    | first :: second :: rest => first :: '.' :: second :: rest
    | few => few
  mantissa ++ 'e' :: (if power < 0 then '-' else '+')
    :: (List.replicate (layout.exponentWidth - size.length) '0' ++ size)

/-- A decimal with a sign, as the layout writes it. -/
def write (layout : Layout) (negative : Bool) (d : Decimal) : List Char :=
  if d.coefficient = 0 then
    (if negative && layout.signedZero then ['-'] else []) ++ '0' :: layout.wholeMark
  else
    let digits := d.significant
    let body :=
      if layout.lowest ≤ d.point && d.point ≤ layout.highest then layout.plain digits d.point
      else layout.scientific digits d.point
    (if negative then ['-'] else []) ++ body

example : data.write true ⟨15, -1⟩ = "-1.5".toList := by decide
example : data.write false ⟨1, 16⟩ = "1e+16".toList := by decide
example : console.write false ⟨1, 16⟩ = "10000000000000000".toList := by decide
example : console.write false ⟨12, -8⟩ = "1.2e-7".toList := by decide
example : console.write true ⟨0, 0⟩ = "0".toList := by decide

end Layout

end NodeFlow
