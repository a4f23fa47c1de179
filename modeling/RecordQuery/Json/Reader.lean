import RecordQuery.Json.Number
import RecordQuery.Text.Characters

/-!
# Reading JSON

A reader for one JSON value and for a stream of values.  A fault is told apart
by whether the text ends inside a value or goes wrong before its end.
-/

namespace RecordQuery

namespace Json

inductive Fault where
  /-- The text ends inside a value. -/
  | unfinished
  /-- The text breaks the grammar, the nesting limit or the range of numbers. -/
  | malformed
  deriving DecidableEq

/-- A reader takes something off the front of a text and leaves the rest. -/
abbrev Reader (α : Type) := List Char → Except Fault (α × List Char)

def nestingLimit : Nat := 127

def isBlank (c : Char) : Bool :=
  c == ' ' || c == '\n' || c == '\t' || c == '\r'

def skipBlank (cs : List Char) : List Char :=
  cs.dropWhile isBlank

def faultAt : List Char → Fault
  | [] => .unfinished
  | _ :: _ => .malformed

def literal (value : Json) : List Char → Reader Json
  | [], cs => .ok (value, cs)
  | _ :: _, [] => .error .unfinished
  | w :: word, c :: cs => if c = w then literal value word cs else .error .malformed

/-- Read four hexadecimal digits; fewer than four bytes left are an unfinished escape. -/
def hexUnit : Reader Nat
  | a :: b :: c :: d :: cs =>
      match Text.hexUnit? a b c d with
      | some n => .ok (n, cs)
      | none => .error .malformed
  | cs => .error (if Text.utf8Length cs < 4 then .unfinished else .malformed)

/-- Read what follows the mark of a numeric escape, a surrogate pair taking two of them. -/
def unicodeEscape : Reader Char := fun cs => do
  let (high, cs) ← hexUnit cs
  if Text.isLowSurrogate high then .error .malformed
  else if Text.isHighSurrogate high then
    match cs with
    | '\\' :: 'u' :: cs => do
        let (low, cs) ← hexUnit cs
        if Text.isLowSurrogate low then .ok (Text.surrogatePair high low, cs)
        else .error .malformed
    | ['\\'] => .error .unfinished
    | cs => .error (faultAt cs)
  else .ok (Char.ofNat high, cs)

def escape : Reader Char
  | [] => .error .unfinished
  | c :: cs =>
      match c with
      | '"' | '\\' | '/' => .ok (c, cs)
      | 'b' => .ok ('\x08', cs)
      | 'f' => .ok ('\x0c', cs)
      | 'n' => .ok ('\n', cs)
      | 'r' => .ok ('\r', cs)
      | 't' => .ok ('\t', cs)
      | 'u' => unicodeEscape cs
      | _ => .error .malformed

/-- Read the characters of a string up to its closing quote, at most `fuel` of them. -/
def stringBody : Nat → Reader (List Char)
  | 0, _ => .error .unfinished
  | fuel + 1, cs =>
      match cs with
      | [] => .error .unfinished
      | '"' :: cs => .ok ([], cs)
      | '\\' :: cs => do
          let (c, cs) ← escape cs
          let (text, cs) ← stringBody fuel cs
          .ok (c :: text, cs)
      | c :: cs =>
          if c.toNat < 32 then .error .malformed
          else do
            let (text, cs) ← stringBody fuel cs
            .ok (c :: text, cs)

def stringRest : Reader String := fun cs => do
  let (text, cs) ← stringBody (cs.length + 1) cs
  .ok (String.ofList text, cs)

/--
The fault of a text that goes on behind the numeral `n` in a way in which no
number does: with a second digit after a leading zero, or with a point or an
exponent mark that no digit follows.
-/
def numeralFault? (n : Numeral) : List Char → Option Fault
  | [] => none
  | c :: cs =>
      if isDigit c then some .malformed
      else if c = '.' ∧ n.isWhole then some (faultAt cs)
      else if (c = 'e' ∨ c = 'E') ∧ n.exponent.isNone then
        match cs with
        | '+' :: rest | '-' :: rest => some (faultAt rest)
        | _ => some (faultAt cs)
      else none

def number : Reader Json := fun cs =>
  match Numeral.split? cs with
  | none => .error (faultAt cs.tail)
  | some (n, rest) =>
      match numeralFault? n rest with
      | some fault => .error fault
      | none =>
          match ofNumeral? n with
          | some value => .ok (value, rest)
          | none => .error .malformed

def arrayRest (item : Reader Json) : Nat → Bool → Reader (List Json)
  | 0, _, _ => .error .unfinished
  | fuel + 1, first, cs =>
      match skipBlank cs with
      | [] => .error .unfinished
      | ']' :: cs => .ok ([], cs)
      | c :: rest => do
          let start ←
            if first then .ok (c :: rest)
            else if c = ',' then
              match skipBlank rest with
              | [] => .error .unfinished
              | ']' :: _ => .error .malformed
              | next => .ok next
            else .error .malformed
          let (value, cs) ← item start
          let (values, cs) ← arrayRest item fuel false cs
          .ok (value :: values, cs)

def entry (item : Reader Json) : Reader (String × Json) := fun cs =>
  match cs with
  | '"' :: cs => do
      let (key, cs) ← stringRest cs
      match skipBlank cs with
      | ':' :: cs => do
          let (value, cs) ← item cs
          .ok ((key, value), cs)
      | cs => .error (faultAt cs)
  | cs => .error (faultAt cs)

def objectRest (item : Reader Json) : Nat → Bool → Reader (List (String × Json))
  | 0, _, _ => .error .unfinished
  | fuel + 1, first, cs =>
      match skipBlank cs with
      | [] => .error .unfinished
      | '\x7d' :: cs => .ok ([], cs)
      | c :: rest => do
          let start ←
            if first then .ok (c :: rest)
            else if c = ',' then .ok (skipBlank rest)
            else .error .malformed
          let (pair, cs) ← entry item start
          let (pairs, cs) ← objectRest item fuel false cs
          .ok (pair :: pairs, cs)

/-- Read one value whose containers are nested at most `depth` deep. -/
def value : Nat → Reader Json
  | depth, cs =>
      match skipBlank cs with
      | [] => .error .unfinished
      | 'n' :: cs => literal .null "ull".toList cs
      | 't' :: cs => literal (.boolean true) "rue".toList cs
      | 'f' :: cs => literal (.boolean false) "alse".toList cs
      | '"' :: cs => do
          let (text, cs) ← stringRest cs
          .ok (.string text, cs)
      | '[' :: cs =>
          match depth with
          | 0 => .error .malformed
          | depth + 1 => do
              let (items, cs) ← arrayRest (value depth) (cs.length + 1) true cs
              .ok (.array items, cs)
      | '\x7b' :: cs =>
          match depth with
          | 0 => .error .malformed
          | depth + 1 => do
              let (entries, cs) ← objectRest (value depth) (cs.length + 1) true cs
              .ok (ofEntries entries, cs)
      | c :: cs => if c = '-' ∨ isDigit c then number (c :: cs) else .error .malformed

/-- Whether a text that starts with `c` shows by itself where its value ends. -/
def isDelimited (c : Char) : Bool :=
  c == '[' || c == '"' || c == '\x7b'

def endsWord : List Char → Bool
  | [] => true
  | c :: _ => isBlank c || ['"', '[', ']', '\x7b', '\x7d', ',', ':'].contains c

/-- Read a stream of values separated by blanks, at most `fuel` of them. -/
def stream : Nat → List Char → Except Fault (List Json)
  | 0, _ => .ok []
  | fuel + 1, cs =>
      match skipBlank cs with
      | [] => .ok []
      | c :: rest => do
          let (document, cs) ← value nestingLimit (c :: rest)
          if isDelimited c || endsWord cs then do
            let documents ← stream fuel cs
            .ok (document :: documents)
          else .error .malformed

def documents (text : String) : Except Fault (List Json) :=
  let cs := text.toList
  stream (cs.length + 1) cs

end Json

end RecordQuery
