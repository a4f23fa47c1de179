/-!
# Wildcard patterns

Patterns with stars, question marks and bracketed sets, and the regular
expressions that match the same texts.
-/

namespace RecordQuery

namespace Wildcard

inductive Member where
  | single (c : Char)
  /-- The characters from `first` to `last`; none if they are in the wrong order. -/
  | range (first last : Char)
  deriving DecidableEq

inductive Item where
  | anyText
  | anyChar
  /-- One character that is in a set, or that is not. -/
  | set (negated : Bool) (members : List Member)
  | literal (c : Char)
  deriving DecidableEq

def members : List Char → List Member
  | [] => []
  | first :: '-' :: last :: cs => .range first last :: members cs
  | c :: cs => .single c :: members cs

def splitAtBracket? : List Char → Option (List Char × List Char)
  | [] => none
  | c :: cs =>
      if c = ']' then some ([], cs)
      else (splitAtBracket? cs).map fun parts => (c :: parts.1, parts.2)

/-- The inside of a set and what follows it; a closing bracket in front is a member. -/
def splitMembers? : List Char → Option (List Char × List Char)
  | ']' :: cs => (splitAtBracket? cs).map fun parts => (']' :: parts.1, parts.2)
  | cs => splitAtBracket? cs

/-- The set that starts behind an opening bracket, if it is closed, and what follows it. -/
def splitSet? : List Char → Option ((Bool × List Char) × List Char)
  | '!' :: cs => (splitMembers? cs).map fun parts => ((true, parts.1), parts.2)
  | cs => (splitMembers? cs).map fun parts => ((false, parts.1), parts.2)

def itemsWithin : Nat → List Char → List Item
  | 0, _ => []
  | _ + 1, [] => []
  | fuel + 1, c :: cs =>
      match c with
      | '*' => .anyText :: itemsWithin fuel cs
      | '?' => .anyChar :: itemsWithin fuel cs
      | '[' =>
          match splitSet? cs with
          | some ((negated, inside), rest) =>
              .set negated (members inside) :: itemsWithin fuel rest
          | none => .literal '[' :: itemsWithin fuel cs
      | c => .literal c :: itemsWithin fuel cs

/-- The items of a pattern.  An opening bracket that is never closed stands for itself. -/
def items (pattern : List Char) : List Item :=
  itemsWithin pattern.length pattern

def specialChars : List Char :=
  ['\\', '.', '+', '*', '?', '(', ')', '|', '[', ']', '\x7b', '\x7d', '^', '$', '#', '&', '-', '~']

/-- A character as it is written in a regular expression to stand for itself. -/
def escapeChar (c : Char) : List Char :=
  if specialChars.contains c then ['\\', c] else [c]

/-- A member of a set inside a bracketed class; a range in the wrong order is left out. -/
def Member.source : Member → List Char
  | .single c => escapeChar c
  | .range first last =>
      if first ≤ last then escapeChar first ++ '-' :: escapeChar last else []

/-- The expression for one character of a set.  The class of no character excludes them all. -/
def setSource (negated : Bool) (members : List Member) : List Char :=
  match negated, members.flatMap Member.source with
  | false, [] => "[^\\x00-\\x\x7b10FFFF\x7d]".toList
  | true, [] => ['.']
  | false, inside => '[' :: inside ++ [']']
  | true, inside => '[' :: '^' :: inside ++ [']']

def Item.source : Item → List Char
  | .anyText => ['.', '*']
  | .anyChar => ['.']
  | .set negated members => setSource negated members
  | .literal c => escapeChar c

/-- The regular expression for a pattern, which has to match a whole text, line feeds included. -/
def regexSource (pattern : String) : String :=
  String.ofList ("^(?s:".toList ++ (items pattern.toList).flatMap Item.source ++ ")$".toList)

end Wildcard

end RecordQuery
