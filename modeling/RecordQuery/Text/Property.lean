import RecordQuery.Text.Category.Table
import RecordQuery.Text.Property.Tables
import RecordQuery.Text.RunTable
import RecordQuery.Text.Script.Table

/-!
# Properties of characters

General categories, scripts and binary properties, by name, and the classes of
letters, digits and word characters that are made of them.
-/

namespace RecordQuery

namespace Text

def categoryTable : RunTable String :=
  .ofNames categoryRuns

def scriptTable : RunTable String :=
  .ofNames scriptRuns

def generalCategory (c : Char) : String :=
  (categoryTable.label? c).getD "Cn"

def script (c : Char) : String :=
  (scriptTable.label? c).getD "Zzzz"

/-- The short names of the scripts that use `c`. -/
def scripts (c : Char) : List String :=
  match sharedScripts.find? fun run => run.1 ≤ c.toNat ∧ c.toNat ≤ run.2.1 with
  | some run => (wordsFrom [] run.2.2.toList).map String.ofList
  | none => [script c]

def binaryProperty? (name : String) : Option (RunTable Bool) :=
  (propertyTables.find? fun table => table.names.contains name).map fun table => .ofGaps table.runs

def alphabeticTable : RunTable Bool :=
  (binaryProperty? "alphabetic").getD ⟨#[]⟩

def isAlphabetic (c : Char) : Bool :=
  alphabeticTable.holds c

/-- Whether `c` belongs to a general category or to a group of them. -/
def hasCategory (name : String) (c : Char) : Bool :=
  let category := generalCategory c
  if name = "LC" then ["Lu", "Ll", "Lt"].contains category
  else name.toList.isPrefixOf category.toList

def isDecimalDigit (c : Char) : Bool :=
  generalCategory c == "Nd"

def isAlphanumeric (c : Char) : Bool :=
  isAlphabetic c || hasCategory "N" c

/-- Whether `c` is part of a word: a letter, a mark, a digit, a connector or a joiner. -/
def isWordChar (c : Char) : Bool :=
  isAlphabetic c || hasCategory "M" c || isDecimalDigit c || generalCategory c == "Pc" ||
    c == '\u200C' || c == '\u200D'

end Text

end RecordQuery
