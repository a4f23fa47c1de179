import RecordQuery.Regex.CharSet

/-!
# Regular expressions

The expressions, the assertions about a place in a text, and the search for a
match.  Matching works on sets of places: an expression takes the places where
it may start to the places where it may end.
-/

namespace RecordQuery

inductive Assertion where
  | textStart
  | textEnd
  | lineStart
  | lineEnd
  /-- As `lineStart`, a line ending with a carriage return, a line feed or both. -/
  | anyLineStart
  /-- As `lineEnd`, a line ending with a carriage return, a line feed or both. -/
  | anyLineEnd
  | wordBoundary (ascii : Bool)
  | noWordBoundary (ascii : Bool)
  | wordStart (ascii : Bool)
  | wordEnd (ascii : Bool)
  /-- No word character stands in front. -/
  | wordStartHalf (ascii : Bool)
  /-- No word character follows. -/
  | wordEndHalf (ascii : Bool)
  deriving DecidableEq

namespace Assertion

def isWord (ascii : Bool) : Option Char → Bool
  | none => false
  | some c => if ascii then c.isAlphanum || c == '_' else Text.isWordChar c

def holds (before after : Option Char) : Assertion → Bool
  | .textStart => before.isNone
  | .textEnd => after.isNone
  | .lineStart => before.isNone || before == some '\n'
  | .lineEnd => after.isNone || after == some '\n'
  | .anyLineStart =>
      before.isNone || before == some '\n' || (before == some '\r' && after != some '\n')
  | .anyLineEnd =>
      after.isNone || after == some '\r' || (after == some '\n' && before != some '\r')
  | .wordBoundary ascii => isWord ascii before != isWord ascii after
  | .noWordBoundary ascii => isWord ascii before == isWord ascii after
  | .wordStart ascii => !isWord ascii before && isWord ascii after
  | .wordEnd ascii => isWord ascii before && !isWord ascii after
  | .wordStartHalf ascii => !isWord ascii before
  | .wordEndHalf ascii => !isWord ascii after

end Assertion

inductive Regex where
  | empty
  | chars (s : CharSet)
  | look (assertion : Assertion)
  | seq (first second : Regex)
  | alt (first second : Regex)
  /-- At least `min` and at most `max` matches one behind the other. -/
  | repeated (inner : Regex) (min : Nat) (max : Option Nat)

namespace Regex

/-- A set of places in a text: a mark for each, the first in front of the first character. -/
abbrev Marks := List Bool

def join (a b : Marks) : Marks :=
  List.zipWith (· || ·) a b

/-- The places behind those of a set whose next character is in `s`. -/
def shiftOver (s : CharSet) (text : List Char) (marks : Marks) : Marks :=
  false :: List.zipWith (fun mark c => mark && s.mem c) marks text

/-- Whether an assertion holds, at each place from the one behind `before`. -/
def assertionMarks (assertion : Assertion) (before : Option Char) : List Char → Marks
  | [] => [assertion.holds before none]
  | c :: cs => assertion.holds before (some c) :: assertionMarks assertion (some c) cs

/-- Apply a step exactly `n` times, or until nothing changes. -/
def exactly (step : Marks → Marks) : Nat → Marks → Marks
  | 0, marks => marks
  | n + 1, marks =>
      let next := step marks
      if next = marks then marks else exactly step n next

def atMost (step : Marks → Marks) : Nat → Marks → Marks
  | 0, marks => marks
  | n + 1, marks =>
      let next := join marks (step marks)
      if next = marks then marks else atMost step n next

/-- The places where a match may end that starts at one of the given places. -/
def ends (text : List Char) : Regex → Marks → Marks
  | .empty, marks => marks
  | .chars s, marks => shiftOver s text marks
  | .look assertion, marks =>
      List.zipWith (· && ·) marks (assertionMarks assertion none text)
  | .seq first second, marks => ends text second (ends text first marks)
  | .alt first second, marks => join (ends text first marks) (ends text second marks)
  | .repeated inner min max, marks =>
      let behind := exactly (ends text inner) min marks
      match max with
      | none => atMost (ends text inner) (text.length + 1) behind
      | some max => atMost (ends text inner) (max - min) behind

def isMatch (r : Regex) (text : String) : Bool :=
  let cs := text.toList
  (ends cs r (List.replicate (cs.length + 1) true)).any id

end Regex

end RecordQuery
