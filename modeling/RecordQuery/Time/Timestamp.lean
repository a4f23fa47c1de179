import RecordQuery.Number.Numeral
import RecordQuery.Time.Calendar

/-!
# Timestamps

Points in time with the offset in which they are shown, written and read in the
RFC 3339 format.
-/

namespace RecordQuery

/--
A point in time: seconds since the start of 1970 in UTC, nanoseconds on top of
them, and the offset from UTC, in seconds, in which it is shown.
-/
structure Timestamp where
  seconds : Int
  nanoseconds : Nat
  offset : Int
  deriving DecidableEq

namespace Timestamp

-- powers are those of the core library, whichever others are in scope
attribute [local instance (high)] instPowNat

def instant (t : Timestamp) : Int :=
  t.seconds * 1000000000 + t.nanoseconds

/-- Chronological order; the offset does not count. -/
def order (a b : Timestamp) : Ordering :=
  compare a.instant b.instant

/-- `n` in decimal digits, with leading zeros up to the given width. -/
def padded (width n : Nat) : List Char :=
  let digits := Nat.toDigits 10 n
  List.replicate (width - digits.length) '0' ++ digits

/-- The fraction of a second, without trailing zeros. -/
def fractionText (nanoseconds : Nat) : List Char :=
  if nanoseconds = 0 then []
  else '.' :: ((padded 9 nanoseconds).reverse.dropWhile (· == '0')).reverse

def offsetText (offset : Int) : List Char :=
  if offset = 0 then ['Z']
  else
    let minutes := offset.natAbs / 60
    (if offset < 0 then '-' else '+') :: padded 2 (minutes / 60) ++ ':' :: padded 2 (minutes % 60)

/--
The RFC 3339 text of a timestamp.  There is none for a year outside 0 to 9999,
nor for an offset of a day or more or with seconds in it.
-/
def text? (t : Timestamp) : Option String :=
  let shown := t.seconds + t.offset
  let date := Date.ofDays (shown / 86400)
  let second := (shown % 86400).toNat
  if 0 ≤ date.year ∧ date.year ≤ 9999 ∧ t.offset % 60 = 0 ∧ t.offset.natAbs < 86400 then
    some <| String.ofList <|
      padded 4 date.year.toNat ++ '-' :: padded 2 date.month ++ '-' :: padded 2 date.day ++
        'T' :: padded 2 (second / 3600) ++ ':' :: padded 2 (second / 60 % 60) ++
        ':' :: padded 2 (second % 60) ++ fractionText t.nanoseconds ++ offsetText t.offset
  else none

def digits? (count : Nat) (cs : List Char) : Option (Nat × List Char) :=
  let digits := cs.take count
  if digits.length = count ∧ digits.all isDigit then some (digitsValue digits, cs.drop count)
  else none

def mark? (c : Char) : List Char → Option (List Char)
  | [] => none
  | d :: cs => if d = c then some cs else none

def separator? : List Char → Option (List Char)
  | [] => none
  | c :: cs => if c.utf8Size = 1 then some cs else none

/-- Read an optional fraction of a second as nanoseconds; digits past the ninth are ignored. -/
def fraction? : List Char → Option (Nat × List Char)
  | '.' :: cs =>
      match cs.takeWhile isDigit with
      | [] => none
      | digits =>
          let kept := digits.take 9
          some (digitsValue kept * 10 ^ (9 - kept.length), cs.dropWhile isDigit)
  | cs => some (0, cs)

def offset? : List Char → Option Int
  | ['Z'] | ['z'] => some 0
  | sign :: cs => do
      let (hours, cs) ← digits? 2 cs
      let cs ← mark? ':' cs
      let (minutes, cs) ← digits? 2 cs
      if cs.isEmpty ∧ hours ≤ 23 ∧ minutes ≤ 59 then
        let seconds : Int := (hours * 60 + minutes) * 60
        match sign with
        | '+' => some seconds
        | '-' => some (-seconds)
        | _ => none
      else none
  | [] => none

/-- Whether a point in time lies in the last second of a month in UTC. -/
def endsMonth (t : Timestamp) : Bool :=
  let date := Date.ofDays (t.seconds / 86400)
  t.seconds % 86400 == 86399 && date.day == daysInMonth date.year date.month

/--
Read an RFC 3339 text.  A leap second is read as the last nanosecond of the
second before it, and only at the end of a month.
-/
def ofText? (text : String) : Option Timestamp := do
  let (year, cs) ← digits? 4 text.toList
  let (month, cs) ← digits? 2 (← mark? '-' cs)
  let (day, cs) ← digits? 2 (← mark? '-' cs)
  let (hour, cs) ← digits? 2 (← separator? cs)
  let (minute, cs) ← digits? 2 (← mark? ':' cs)
  let (second, cs) ← digits? 2 (← mark? ':' cs)
  let (fraction, cs) ← fraction? cs
  let offset ← offset? cs
  let date : Date := ⟨year, month, day⟩
  if date.isValid ∧ hour ≤ 23 ∧ minute ≤ 59 ∧ second ≤ 60 then
    let isLeap := decide (second = 60)
    let secondOfDay : Int := (hour * 60 + minute) * 60 + min second 59
    let t : Timestamp :=
      ⟨date.toDays * 86400 + secondOfDay - offset, if isLeap then 999999999 else fraction, offset⟩
    if isLeap ∧ ¬ t.endsMonth then none else some t
  else none

end Timestamp

end RecordQuery
