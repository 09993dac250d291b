import NodeFlow.Binary64.Basic

/-!
# Binary64 arithmetic

Sums, products, lengths, comparisons and conversions from and to whole numbers. Every result is
the exact one, rounded once. Main statement: a whole number converts unless its magnitude rounds
to `2 ^ 1024`.
-/

namespace NodeFlow.Binary64

/-- The signed count of units of a finite number; zero for the others. -/
def signedUnits : Binary64 → Int
  | .finite true units _ => -units
  | .finite false units _ => units
  | _ => 0

/-- Whether the number is neither infinite nor NaN. -/
def isFinite : Binary64 → Bool
  | .finite .. => true
  | _ => false

/-- The number with the other sign. -/
def neg : Binary64 → Binary64
  | .nan => .nan
  | .infinite negative => .infinite !negative
  | .finite negative units fits => .finite (!negative) units fits

/-- The sum. Opposite infinities have none; an exact zero is negative only if both terms are. -/
def add : Binary64 → Binary64 → Binary64
  | .nan, _ | _, .nan => .nan
  | .infinite s, .infinite t => if s == t then .infinite s else .nan
  | .infinite s, .finite .. => .infinite s
  | .finite .., .infinite t => .infinite t
  | x@(.finite s ..), y@(.finite t ..) =>
    let total := x.signedUnits + y.signedUnits
    if total = 0 then zero (s && t) else ofRatio (total < 0) total.natAbs 1

/-- The difference. -/
def sub (x y : Binary64) : Binary64 := x.add y.neg

/-- The product. Zero times infinity has none. -/
def mul : Binary64 → Binary64 → Binary64
  | .nan, _ | _, .nan => .nan
  | .infinite s, .infinite t => .infinite (s != t)
  | .infinite s, .finite t units _ | .finite s units _, .infinite t =>
    if units = 0 then .nan else .infinite (s != t)
  | .finite s left _, .finite t right _ => ofRatio (s != t) (left * right) unitsPerOne

/-- The length of the vector with the given components: infinite as soon as one of them is, else
NaN as soon as one of them is, else the nearest number to the root of the sum of squares. -/
def length (components : List Binary64) : Binary64 :=
  if components.any fun x => x matches .infinite _ then .infinite false
  else if components.any fun x => x matches .nan then .nan
  else
    let squares := components.foldl
      (fun total x => total + x.signedUnits.natAbs * x.signedUnits.natAbs) 0
    ofUnits false (roundSqrt squares) (roundSqrt_dvd squares)

/-- The strict order; NaN is comparable to nothing. -/
def lt : Binary64 → Binary64 → Bool
  | .nan, _ | _, .nan => false
  | .infinite s, .infinite t => s && !t
  | .infinite s, .finite .. => s
  | .finite .., .infinite t => !t
  | x@(.finite ..), y@(.finite ..) => x.signedUnits < y.signedUnits

/-- The number itself if it is finite. -/
def finite? : Binary64 → Option Binary64
  | x@(.finite ..) => some x
  | _ => none

/-- The number nearest to a whole number, unless that rounds beyond the format. -/
def ofInt? (n : Int) : Option Binary64 :=
  (ofRatio (n < 0) (n.natAbs * unitsPerOne) 1).finite?

/-- The whole number that a finite number equals. -/
def toInt? : Binary64 → Option Int
  | x@(.finite ..) =>
    if x.signedUnits % unitsPerOne = 0 then some (x.signedUnits / unitsPerOne) else none
  | _ => none

/-- Whether a number equals a whole number. -/
def equalsInt (x : Binary64) (n : Int) : Bool :=
  x.isFinite && x.signedUnits == n * unitsPerOne

/-- Numeric equality: zeros of both signs are equal, NaN equals nothing. -/
def numEq : Binary64 → Binary64 → Bool
  | .nan, _ | _, .nan => false
  | .infinite s, .infinite t => s == t
  | x@(.finite ..), y@(.finite ..) => x.signedUnits == y.signedUnits
  | _, _ => false

theorem ofInt?_eq_none_iff (n : Int) :
    ofInt? n = none ↔ unitLimit ≤ roundRatio (n.natAbs * unitsPerOne) 1 := by
  rw [ofInt?, ofRatio]
  rcases Nat.lt_or_ge (roundRatio (n.natAbs * unitsPerOne) 1) unitLimit with below | beyond
  · rw [ofUnits_of_lt below]
    exact iff_of_false (by simp [finite?]) (Nat.not_le.2 below)
  · rw [ofUnits_of_le beyond]
    exact iff_of_true rfl beyond

end NodeFlow.Binary64
