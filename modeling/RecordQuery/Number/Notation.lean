import RecordQuery.Number.Decimal

/-!
# Notation of numbers

Positional and scientific notation of decimals, and the positional text of a
binary number.
-/

namespace RecordQuery

namespace Decimal

def digitChars (d : Decimal) : List Char :=
  Nat.toDigits 10 d.digits

/-- Positional notation; a point is written only before a fraction. -/
def positional (d : Decimal) : List Char :=
  let digits := d.digitChars
  let places := (-d.exponent).toNat
  if places = 0 then digits ++ List.replicate d.exponent.toNat '0'
  else if places < digits.length then
    digits.take (digits.length - places) ++ '.' :: digits.drop (digits.length - places)
  else '0' :: '.' :: List.replicate (places - digits.length) '0' ++ digits

/-- Scientific notation with a signed exponent and one digit before the point. -/
def scientific (d : Decimal) : List Char :=
  let digits := d.digitChars
  let power := d.exponent + (digits.length - 1 : Nat)
  let mantissa :=
    match digits with
    | first :: second :: rest => first :: '.' :: second :: rest
    | _ => digits
  mantissa ++ 'e' :: (if power < 0 then '-' else '+') :: Nat.toDigits 10 power.natAbs

end Decimal

namespace Binary64

/-- The text of a number in positional notation, with the fewest digits that read back. -/
def positional (x : Binary64) : List Char :=
  if x.isNaN then "NaN".toList
  else
    (if x.isNegative then ['-'] else []) ++
      (if !x.isFinite then "inf".toList
      else if x.isZero then ['0']
      else (Decimal.shortest .up (x.withSign false)).positional)

end Binary64

end RecordQuery
