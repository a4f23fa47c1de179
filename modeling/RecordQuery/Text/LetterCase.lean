import RecordQuery.Text.LetterCase.Tables

/-!
# Lower case and case folding

Full lower-casing of a text, and the simple case folding under which two
characters count as the same letter.
-/

namespace RecordQuery

namespace Text

/-- Whether the first character of `cs` that is not case-ignorable has letter case. -/
def meetsCased (cs : List Char) : Bool :=
  match cs.dropWhile (inRuns caseIgnorableRuns) with
  | c :: _ => inRuns casedRuns c
  | [] => false

/--
Lower case of one character with the reversed text before it and the text after
it.  A capital sigma that ends a word becomes the final small sigma, and the
dotted capital I keeps its dot as a combining mark.
-/
def lowerChar (before : List Char) (c : Char) (after : List Char) : List Char :=
  if c = 'Σ' then
    if meetsCased before && !meetsCased after then ['ς'] else ['σ']
  else if c = 'İ' then ['i', '\u0307']
  else [shift lowerRows c]

/-- Lower case of `cs`, where `before` is the reversed text in front of it. -/
def lowerFrom (before : List Char) : List Char → List Char
  | [] => []
  | c :: cs => lowerChar before c cs ++ lowerFrom (c :: before) cs

def toLower (text : String) : String :=
  String.ofList (lowerFrom [] text.toList)

/-- The representative of the letters that differ from `c` in case only. -/
def fold (c : Char) : Char :=
  shift foldRows c

def foldOrbit (c : Char) : List Char :=
  let representative := fold c
  representative :: foldRows.filterMap fun row => row.source? representative

end Text

end RecordQuery
