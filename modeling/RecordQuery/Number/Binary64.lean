/-!
# Binary floating-point numbers

Numbers in the 64-bit binary interchange format, decoded exactly: a finite
number is an integer count of the smallest positive one, `2 ^ -1074`.
-/

namespace RecordQuery

/-- A number in the 64-bit binary interchange format, given by its bits. -/
structure Binary64 where
  bits : UInt64
  deriving DecidableEq

namespace Binary64

-- powers are those of the core library, whichever others are in scope
attribute [local instance (high)] instPowNat

def word (x : Binary64) : Nat :=
  x.bits.toNat

def isNegative (x : Binary64) : Bool :=
  decide (2 ^ (63 : Nat) ≤ x.word)

def exponentField (x : Binary64) : Nat :=
  x.word / 2 ^ (52 : Nat) % 2 ^ (11 : Nat)

def fraction (x : Binary64) : Nat :=
  x.word % 2 ^ (52 : Nat)

def isFinite (x : Binary64) : Bool :=
  x.exponentField != 2047

def isNaN (x : Binary64) : Bool :=
  x.exponentField == 2047 && x.fraction != 0

/-- The significand as an integer, its hidden bit included. -/
def significand (x : Binary64) : Nat :=
  if x.exponentField = 0 then x.fraction else 2 ^ (52 : Nat) + x.fraction

/-- The power of two, counted from the smallest unit, that scales the significand. -/
def scale (x : Binary64) : Nat :=
  x.exponentField - 1

/-- The size of a finite number in units of `2 ^ -1074`. -/
def magnitude (x : Binary64) : Nat :=
  x.significand * 2 ^ x.scale

/-- A finite number in units of `2 ^ -1074`. -/
def units (x : Binary64) : Int :=
  if x.isNegative then -(x.magnitude : Int) else x.magnitude

def unitsPerOne : Nat :=
  2 ^ (1074 : Nat)

def infinityWord : Nat :=
  2047 * 2 ^ (52 : Nat)

/-- The number with the given sign and the magnitude word `w`; too large a word is infinity. -/
def ofWord (negative : Bool) (w : Nat) : Binary64 :=
  ⟨UInt64.ofNat ((if negative then 2 ^ (63 : Nat) else 0) + min w infinityWord)⟩

/-- The integer nearest to `num / den`, an exact half going to the even neighbour. -/
def nearestEven (num den : Nat) : Nat :=
  let quotient := num / den
  let remainder := num % den
  if 2 * remainder < den then quotient
  else if den < 2 * remainder then quotient + 1
  else quotient + quotient % 2

/--
The number nearest to `num / den` units.  The significand is rounded at the
power of two that leaves it fifty-three bits; a carry out of it runs into the
exponent bits, where it belongs.
-/
def ofUnits (negative : Bool) (num den : Nat) : Binary64 :=
  let power := Nat.log2 (num / den) - 52
  ofWord negative (power * 2 ^ (52 : Nat) + nearestEven num (den * 2 ^ power))

def ofInt (n : Int) : Binary64 :=
  ofUnits (decide (n < 0)) (n.natAbs * unitsPerOne) 1

/-- The product of two finite magnitudes, rounded to nearest. -/
def times (x y : Binary64) : Binary64 :=
  ofUnits false (x.magnitude * y.magnitude) unitsPerOne

def dividedBy (x y : Binary64) : Binary64 :=
  ofUnits false (x.magnitude * unitsPerOne) y.magnitude

def withSign (negative : Bool) (x : Binary64) : Binary64 :=
  ofWord negative (x.word % 2 ^ (63 : Nat))

/-- Where a number stands: finite numbers by their units, infinities beyond them. -/
inductive Position where
  | below
  | at (units : Int)
  | above
  | nowhere

def position (x : Binary64) : Position :=
  if x.isFinite then .at x.units
  else if x.isNaN then .nowhere
  else if x.isNegative then .below
  else .above

/-- Numerical order; a NaN compares with nothing, and both zeros are equal. -/
def compare? (x y : Binary64) : Option Ordering :=
  match x.position, y.position with
  | .nowhere, _ => none
  | _, .nowhere => none
  | .at m, .at n => some (compare m n)
  | .below, .below => some .eq
  | .below, _ => some .lt
  | _, .below => some .gt
  | .above, .above => some .eq
  | .above, _ => some .gt
  | _, .above => some .lt

/-- Numerical equality: a NaN differs from itself and the two zeros are equal. -/
instance : BEq Binary64 :=
  ⟨fun x y => x.compare? y == some .eq⟩

def isZero (x : Binary64) : Bool :=
  x.word % 2 ^ (63 : Nat) == 0

end Binary64

end RecordQuery
