/-!
# Sets and shifts of code points

Runs of code points with membership, and tables that move the code points of a
run by a fixed distance.  Character classes and case mappings are stored in
this form.
-/

namespace RecordQuery

namespace Text

/-- A run of code points, both ends included. -/
structure CodeRun where
  first : Nat
  last : Nat
  deriving DecidableEq

def CodeRun.holds (run : CodeRun) (c : Char) : Bool :=
  decide (run.first ≤ c.toNat) && decide (c.toNat ≤ run.last)

def inRuns (runs : List CodeRun) (c : Char) : Bool :=
  runs.any fun run => run.holds c

/--
One row of a case mapping: every `stride`-th code point from `first` to `last`
is moved by `offset`.
-/
structure ShiftRow where
  first : Nat
  last : Nat
  stride : Nat
  offset : Int
  deriving DecidableEq

def ShiftRow.covers (row : ShiftRow) (n : Nat) : Bool :=
  decide (row.first ≤ n) && decide (n ≤ row.last) && (n - row.first) % row.stride == 0

def ShiftRow.move (row : ShiftRow) (n : Nat) : Char :=
  Char.ofNat (Int.toNat (n + row.offset))

/-- The code point that the row moves onto `c`, if there is one. -/
def ShiftRow.source? (row : ShiftRow) (c : Char) : Option Char :=
  let n := Int.toNat (c.toNat - row.offset)
  if row.covers n then some (Char.ofNat n) else none

/-- Move `c` by the first row that covers it; an uncovered character stays. -/
def shift (rows : List ShiftRow) (c : Char) : Char :=
  match rows.find? fun row => row.covers c.toNat with
  | some row => row.move c.toNat
  | none => c

def utf8Length (cs : List Char) : Nat :=
  cs.foldr (fun c n => c.utf8Size + n) 0

@[simp] theorem utf8Length_nil : utf8Length [] = 0 := rfl

@[simp] theorem utf8Length_cons (c : Char) (cs : List Char) :
    utf8Length (c :: cs) = c.utf8Size + utf8Length cs := rfl

@[simp] theorem utf8Length_append (xs ys : List Char) :
    utf8Length (xs ++ ys) = utf8Length xs + utf8Length ys := by
  induction xs with
  | nil => simp
  | cons c xs ih =>
      rw [List.cons_append, utf8Length_cons, utf8Length_cons, ih, Nat.add_assoc]

theorem utf8Length_eq (cs : List Char) : utf8Length cs = (String.ofList cs).utf8ByteSize := by
  induction cs with
  | nil => rfl
  | cons c cs ih =>
      rw [String.ofList_cons, String.utf8ByteSize_append, String.utf8ByteSize_singleton,
        utf8Length_cons, ih]

end Text

end RecordQuery
