import RecordQuery.Number.Binary64

/-!
# Decimal numerals

Decimal scientific numbers, the correctly rounded reading of one, and the
shortest decimal that reads back as a given binary number.
-/

namespace RecordQuery

/-- The number `digits * 10 ^ exponent`. -/
structure Decimal where
  digits : Nat
  exponent : Int
  deriving DecidableEq

namespace Decimal

-- powers are those of the core library, whichever others are in scope
attribute [local instance (high)] instPowNat

/-- The number of decimal digits of `n`; zero has none. -/
def digitCount (n : Nat) : Nat :=
  if n = 0 then 0 else (Nat.toDigits 10 n).length

/-- The exponent `k` with `10 ^ (k - 1) ≤ d < 10 ^ k`, for a positive `d`. -/
def order (d : Decimal) : Int :=
  digitCount d.digits + d.exponent

def numerator (d : Decimal) : Nat :=
  d.digits * 10 ^ d.exponent.toNat * Binary64.unitsPerOne

def denominator (d : Decimal) : Nat :=
  10 ^ (-d.exponent).toNat

/--
The binary number nearest to `d`, with the given sign.  Decimals beyond the
binary range by whole orders of magnitude are settled without computing them.
-/
def toBinary64 (negative : Bool) (d : Decimal) : Binary64 :=
  if d.digits = 0 ∨ d.order < -330 then Binary64.ofWord negative 0
  else if 310 < d.order then Binary64.ofWord negative Binary64.infinityWord
  else Binary64.ofUnits negative d.numerator d.denominator

/-- Move trailing zeros of the digits into the exponent, at most `fuel` of them. -/
def stripZeros : Nat → Decimal → Decimal
  | 0, d => d
  | fuel + 1, d =>
      if d.digits ≠ 0 ∧ d.digits % 10 = 0 then
        stripZeros fuel ⟨d.digits / 10, d.exponent + 1⟩
      else d

def exactly (magnitude : Nat) : Decimal :=
  stripZeros 2000 ⟨magnitude * 5 ^ (1074 : Nat), -1074⟩

/-- Which of two equally near decimals is taken. -/
inductive HalfWay where
  | up
  | even

/-- The order of magnitude of a positive number of units, searched upwards from `k`. -/
def magnitudeOrder (magnitude : Nat) : Nat → Int → Int
  | 0, k => k
  | fuel + 1, k =>
      let d : Decimal := ⟨1, k⟩
      if d.numerator ≤ magnitude * d.denominator then magnitudeOrder magnitude fuel (k + 1) else k

def reads (x : Binary64) (d : Decimal) : Bool :=
  decide (d.toBinary64 false = x)

/--
The better of the two neighbours of a magnitude on the grid of multiples of
`10 ^ exponent`, among those that read back as `x`.
-/
def onGrid? (half : HalfWay) (x : Binary64) (exponent : Int) : Option Decimal :=
  let one : Decimal := ⟨1, exponent⟩
  let scaled := x.magnitude * one.denominator
  let low := scaled / one.numerator
  let below : Decimal := ⟨low, exponent⟩
  let above : Decimal := ⟨low + 1, exponent⟩
  let rest := scaled % one.numerator
  let takeLow :=
    if 2 * rest = one.numerator then
      match half with
      | .up => false
      | .even => low % 2 == 0
    else decide (2 * rest < one.numerator)
  let candidates := if takeLow then [below, above] else [above, below]
  candidates.find? (reads x)

/-- The first grid with a hit, `count` grids being tried from `exponent` downwards. -/
def firstGrid? (half : HalfWay) (x : Binary64) : Nat → Int → Option Decimal
  | 0, _ => none
  | count + 1, exponent =>
      (onGrid? half x exponent).orElse fun _ => firstGrid? half x count (exponent - 1)

/--
The decimal with the fewest digits that reads back as the positive finite
number `x`, and the nearest to it of those.
-/
def shortest (half : HalfWay) (x : Binary64) : Decimal :=
  let order := magnitudeOrder x.magnitude 640 (-324)
  ((firstGrid? half x 17 (order - 1)).map (stripZeros 20)).getD (exactly x.magnitude)

end Decimal

end RecordQuery
