import RecordQuery.Number.Decimal
import RecordQuery.Text.Characters

/-!
# Numerals

Decimal numerals as they are written: an optional sign, a whole part without
leading zeros, and an optional fraction and exponent.  A numeral is split off
the front of a text, read as a binary number, and written back.
-/

namespace RecordQuery

/-- The exponent part of a numeral: its mark, its sign if one is written, its digits. -/
structure ExponentPart where
  mark : Char
  sign : Option Char
  digits : List Char
  deriving DecidableEq

/-- A decimal numeral in its written parts. -/
structure Numeral where
  negative : Bool
  whole : List Char
  fraction : Option (List Char)
  exponent : Option ExponentPart
  deriving DecidableEq

namespace ExponentPart

def text (part : ExponentPart) : List Char :=
  part.mark :: part.sign.toList ++ part.digits

def value (part : ExponentPart) : Int :=
  if part.sign = some '-' then -(digitsValue part.digits : Int) else digitsValue part.digits

def split? : List Char → Option (ExponentPart × List Char)
  | [] => none
  | mark :: cs =>
      if mark = 'e' ∨ mark = 'E' then
        let (sign, rest) :=
          match cs with
          | '+' :: rest => (some '+', rest)
          | '-' :: rest => (some '-', rest)
          | _ => (none, cs)
        match rest.takeWhile isDigit with
        | [] => none
        | digits => some (⟨mark, sign, digits⟩, rest.dropWhile isDigit)
      else none

end ExponentPart

namespace Numeral

def text (n : Numeral) : List Char :=
  (if n.negative then ['-'] else []) ++ n.whole ++
    (match n.fraction with
      | some digits => '.' :: digits
      | none => []) ++
    (match n.exponent with
      | some part => part.text
      | none => [])

/-- Split a whole part off the front of `cs`: a lone zero, or digits not led by zero. -/
def splitWhole? : List Char → Option (List Char × List Char)
  | [] => none
  | c :: cs =>
      if c = '0' then some (['0'], cs)
      else if isDigit c then some (c :: cs.takeWhile isDigit, cs.dropWhile isDigit)
      else none

/-- Split a point with at least one digit after it off the front of `cs`. -/
def splitFraction? : List Char → Option (List Char × List Char)
  | '.' :: cs =>
      match cs.takeWhile isDigit with
      | [] => none
      | digits => some (digits, cs.dropWhile isDigit)
  | _ => none

/-- Split the longest numeral off the front of `cs`. -/
def split? (cs : List Char) : Option (Numeral × List Char) :=
  let (negative, unsigned) :=
    match cs with
    | '-' :: rest => (true, rest)
    | _ => (false, cs)
  match splitWhole? unsigned with
  | none => none
  | some (whole, rest) =>
      let (fraction, rest) :=
        match splitFraction? rest with
        | some (digits, rest) => (some digits, rest)
        | none => (none, rest)
      let (exponent, rest) :=
        match ExponentPart.split? rest with
        | some (part, rest) => (some part, rest)
        | none => (none, rest)
      some (⟨negative, whole, fraction, exponent⟩, rest)

/-- Whether neither a point nor an exponent is written. -/
def isWhole (n : Numeral) : Bool :=
  n.fraction.isNone && n.exponent.isNone

def magnitude (n : Numeral) : Decimal :=
  let fraction := n.fraction.getD []
  let power : Int :=
    match n.exponent with
    | some part => part.value
    | none => 0
  ⟨digitsValue (n.whole ++ fraction), power - fraction.length⟩

def toBinary64 (n : Numeral) : Binary64 :=
  n.magnitude.toBinary64 n.negative

/-- The integer that a numeral without point and exponent denotes. -/
def toInt (n : Numeral) : Int :=
  if n.negative then -(digitsValue n.whole : Int) else digitsValue n.whole

end Numeral

end RecordQuery
