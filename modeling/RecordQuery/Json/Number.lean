import RecordQuery.Json.Basic
import RecordQuery.Number.Numeral

/-!
# Numbers of JSON documents

How a numeral becomes a JSON number.  A float is read in two rounded steps: its
leading digits, as far as they fit sixty-four bits, are rounded to a binary
number, which is then scaled by a power of ten.
-/

namespace RecordQuery

namespace Json

/--
Append digits to a significand as long as it fits sixty-four bits.  The second
result is the number of digits appended.
-/
def absorb (significand : Nat) : List Char → Nat × Nat
  | [] => (significand, 0)
  | c :: cs =>
      let extended := digitsValue [c] + 10 * significand
      if extended < 0x10000000000000000 then
        let (result, count) := absorb extended cs
        (result, count + 1)
      else (significand, 0)

def powerOfTen (exponent : Nat) : Binary64 :=
  Decimal.toBinary64 false ⟨1, exponent⟩

/--
Scale a magnitude by a power of ten.  A scale beyond the range of binary numbers
is taken in parts, at most `fuel` of them; what becomes infinite has no value.
-/
def scaleByTen? : Nat → Binary64 → Int → Option Binary64
  | 0, x, _ => some x
  | fuel + 1, x, exponent =>
      if exponent.natAbs ≤ 308 then
        if exponent < 0 then some (x.dividedBy (powerOfTen exponent.natAbs))
        else
          let scaled := x.times (powerOfTen exponent.natAbs)
          if scaled.isFinite then some scaled else none
      else if x.isZero then some x
      else if exponent < 0 then scaleByTen? fuel (x.dividedBy (powerOfTen 308)) (exponent + 308)
      else none

/-- The float that a numeral denotes, unless it is beyond the range of binary numbers. -/
def floatOf? (n : Numeral) : Option Binary64 :=
  let fraction := n.fraction.getD []
  let power : Int :=
    match n.exponent with
    | some part => part.value
    | none => 0
  let (whole, wholeCount) := absorb 0 n.whole
  let (significand, fractionCount) := absorb whole fraction
  let exponent : Int := power + (n.whole.length - wholeCount : Nat) - fractionCount
  (scaleByTen? 4 (Binary64.ofInt significand) exponent).map (Binary64.withSign n.negative)

/--
The number that a numeral denotes.  Without point and exponent it is an integer,
as far as the range from `-2 ^ 63` to `2 ^ 64 - 1` goes and except for `-0`.
-/
def ofNumeral? (n : Numeral) : Option Json :=
  let whole := n.toInt
  if n.isWhole ∧ -0x8000000000000000 ≤ whole ∧ whole < 0x10000000000000000 ∧
      ¬ (n.negative ∧ whole = 0) then
    some (.integer whole)
  else (floatOf? n).map .float

end Json

end RecordQuery
