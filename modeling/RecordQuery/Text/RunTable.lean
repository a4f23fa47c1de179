import RecordQuery.Text.Characters

/-!
# Run tables

Tables that cover the code points from zero upwards by consecutive runs, each
with a label, read from a compact text and searched by bisection.
-/

namespace RecordQuery

namespace Text

/-- Consecutive runs of code points, each by its end (excluded) and its label. -/
structure RunTable (α : Type) where
  runs : Array (Nat × α)

/-- The words of a text that white space separates, `word` being the reversed start of the first. -/
def wordsFrom (word : List Char) : List Char → List (List Char)
  | [] => if word.isEmpty then [] else [word.reverse]
  | c :: cs =>
      if isWhiteSpace c then
        if word.isEmpty then wordsFrom [] cs else word.reverse :: wordsFrom [] cs
      else wordsFrom (c :: word) cs

/-- The number that a run of digits denotes, or one without digits. -/
def runLength (digits : List Char) : Nat :=
  if digits.isEmpty then 1 else digitsValue digits

namespace RunTable

variable {α : Type}

def finish (table : RunTable α) : Nat :=
  match table.runs.back? with
  | some run => run.1
  | none => 0

def push (table : RunTable α) (length : Nat) (label : α) : RunTable α :=
  ⟨table.runs.push (table.finish + length, label)⟩

/-- A table of runs written as a name and, where it is not one, a length. -/
def ofNames (text : String) : RunTable String :=
  (wordsFrom [] text.toList).foldl
    (fun table word =>
      table.push (runLength (word.dropWhile Char.isAlpha))
        (String.ofList (word.takeWhile Char.isAlpha)))
    ⟨#[]⟩

/--
A table of the runs that belong to a set, each written as the gap in front of it
and, behind a point, its length where that is not one.
-/
def ofGaps (text : String) : RunTable Bool :=
  (wordsFrom [] text.toList).foldl
    (fun table word =>
      (table.push (runLength (word.takeWhile isDigit)) false).push
        (runLength ((word.dropWhile isDigit).drop 1)) true)
    ⟨#[]⟩

/-- The index of the first run from `low` to `high` that ends behind `n`, in `fuel` bisections. -/
def search (table : RunTable α) (n : Nat) : Nat → Nat → Nat → Nat
  | 0, low, _ => low
  | fuel + 1, low, high =>
      if low < high then
        let middle := (low + high) / 2
        match table.runs[middle]? with
        | some run =>
            if n < run.1 then search table n fuel low middle
            else search table n fuel (middle + 1) high
        | none => low
      else low

def label? (table : RunTable α) (c : Char) : Option α :=
  (table.runs[table.search c.toNat 32 0 table.runs.size]?).map (·.2)

def holds (table : RunTable Bool) (c : Char) : Bool :=
  (table.label? c).getD false

end RunTable

end Text

end RecordQuery
