import RecordQuery.Text.LetterCase
import RecordQuery.Text.Property

/-!
# Sets of characters

The sets of characters that regular expressions speak of, built from ranges,
classes and properties by the operations on sets and by closure under letter
case.
-/

namespace RecordQuery

inductive CharSet where
  | empty
  | full
  | range (first last : Char)
  | digit
  | space
  | word
  /-- A general category or a group of them, by its short name. -/
  | category (name : String)
  /-- The characters of a script, by its short name. -/
  | script (name : String)
  /-- The characters that are used in a script, by its short name. -/
  | usedIn (name : String)
  | property (table : Text.RunTable Bool)
  | complement (s : CharSet)
  | union (s t : CharSet)
  | inter (s t : CharSet)
  | diff (s t : CharSet)
  /-- The characters of exactly one of two sets. -/
  | exclusive (s t : CharSet)
  /-- The characters that differ from one in the set in letter case at most. -/
  | anyCase (s : CharSet)
  /-- As `anyCase`, with letter case for the English letters only. -/
  | anyAsciiCase (s : CharSet)

namespace CharSet

/-- The characters that differ from `c` in the case of an English letter at most. -/
def asciiOrbit (c : Char) : List Char :=
  [c, c.toLower, c.toUpper]

def mem : CharSet → Char → Bool
  | .empty, _ => false
  | .full, _ => true
  | .range first last, c => decide (first ≤ c) && decide (c ≤ last)
  | .digit, c => Text.isDecimalDigit c
  | .space, c => Text.isWhiteSpace c
  | .word, c => Text.isWordChar c
  | .category name, c => Text.hasCategory name c
  | .script name, c => Text.script c == name
  | .usedIn name, c => (Text.scripts c).contains name
  | .property table, c => table.holds c
  | .complement s, c => !s.mem c
  | .union s t, c => s.mem c || t.mem c
  | .inter s t, c => s.mem c && t.mem c
  | .diff s t, c => s.mem c && !t.mem c
  | .exclusive s t, c => s.mem c != t.mem c
  | .anyCase s, c => (Text.foldOrbit c).any s.mem
  | .anyAsciiCase s, c => (asciiOrbit c).any s.mem

def single (c : Char) : CharSet :=
  .range c c

def ranges : List (Char × Char) → CharSet
  | [] => .empty
  | (first, last) :: rest => .union (.range first last) (ranges rest)

end CharSet

end RecordQuery
