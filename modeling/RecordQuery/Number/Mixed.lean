import RecordQuery.Number.Binary64

/-!
# Comparison of integers with binary numbers

An integer is compared with a binary number through a decimal of at most
ninety-six bits of coefficient and twenty-eight places, rounded to about the
precision of the binary number.  A number without such a decimal is compared
with the binary number nearest to the integer.
-/

namespace RecordQuery

namespace Binary64

-- powers are those of the core library, whichever others are in scope
attribute [local instance (high)] instPowNat

/-- A decimal coefficient with its power of ten. -/
structure Scaled where
  coefficient : Nat
  exponent : Int
  deriving DecidableEq

namespace Scaled

def limit : Nat := 2 ^ (96 : Nat)

/--
Take `steps` powers of two off the binary scale of a small number: an even
coefficient is halved, an odd one multiplied by five where that fits, and
otherwise halved with the last bit lost.
-/
def lower : Nat → Scaled → Scaled
  | 0, d => d
  | steps + 1, d =>
      if d.coefficient % 2 = 0 then lower steps ⟨d.coefficient / 2, d.exponent + 1⟩
      else if d.coefficient * 5 < limit then lower steps ⟨d.coefficient * 5, d.exponent⟩
      else lower steps ⟨d.coefficient / 2, d.exponent + 1⟩

/--
Put `steps` powers of two onto a large number: the coefficient is doubled while
it has room, and divided by five afterwards, unless that cannot suffice.
-/
def raise? : Nat → Scaled → Option Scaled
  | 0, d => some d
  | steps + 1, d =>
      if d.coefficient * 2 < limit then raise? steps ⟨d.coefficient * 2, d.exponent - 1⟩
      else if 2 * d.exponent > steps + 1 then none
      else raise? steps ⟨d.coefficient / 5, d.exponent⟩

def expand? : Nat → Scaled → Option Scaled
  | 0, d => some d
  | steps + 1, d =>
      if d.coefficient * 10 < limit then expand? steps ⟨d.coefficient * 10, d.exponent - 1⟩
      else none

/-- The coefficient without its last digit, a half rounded up. -/
def withoutLastDigit (d : Scaled) : Scaled :=
  ⟨d.coefficient / 10 + (if 5 ≤ d.coefficient % 10 then 1 else 0), d.exponent + 1⟩

/-- Drop `steps` digits; what is less than one unit of a dropped digit becomes zero. -/
def shorten : Nat → Scaled → Scaled
  | 0, d => d
  | steps + 1, d =>
      if d.coefficient < 10 then ⟨0, 0⟩ else shorten steps d.withoutLastDigit

/-- Drop at most `steps` digits, down to fifty-two bits. -/
def trim : Nat → Scaled → Scaled
  | 0, d => d
  | steps + 1, d => if d.coefficient < 2 ^ (52 : Nat) then d else trim steps d.withoutLastDigit

def ofBinary64? (x : Binary64) : Option Scaled := do
  let exponent : Int := x.scale - 1074
  let start : Scaled := ⟨x.significand, exponent⟩
  let d ← if exponent < 0 then some (lower exponent.natAbs start) else raise? exponent.toNat start
  let d ← expand? d.exponent.toNat d
  let d := shorten (-28 - d.exponent).toNat d
  return trim (-d.exponent).toNat d

end Scaled

def compareInt? (n : Int) (x : Binary64) : Option Ordering :=
  let decimal := if x.isZero then some ⟨0, 0⟩ else if x.isFinite then Scaled.ofBinary64? x else none
  match decimal with
  | some d =>
      let units : Int := if x.isNegative then -(d.coefficient : Int) else d.coefficient
      some (compare (n * 10 ^ (-d.exponent).toNat) units)
  | none => (ofInt n).compare? x

end Binary64

end RecordQuery
