import RecordQuery.Number.Decimal

/-!
# JSON documents

JSON values with integers kept apart from binary numbers, and objects as lists
of entries in ascending order of their keys.
-/

namespace RecordQuery

inductive Json where
  | null
  | boolean (b : Bool)
  | integer (n : Int)
  | float (x : Binary64)
  | string (text : String)
  | array (items : List Json)
  | object (entries : List (String × Json))

/-- Put an entry into a list of entries sorted by key, replacing an entry of the same key. -/
def insertEntry {α : Type} (key : String) (value : α) : List (String × α) → List (String × α)
  | [] => [(key, value)]
  | (k, v) :: entries =>
      match compare key k with
      | .lt => (key, value) :: (k, v) :: entries
      | .eq => (key, value) :: entries
      | .gt => (k, v) :: insertEntry key value entries

/-- The entries sorted by key; of several entries with one key the last is kept. -/
def sortEntries {α : Type} (entries : List (String × α)) : List (String × α) :=
  entries.foldl (fun sorted entry => insertEntry entry.1 entry.2 sorted) []

/-- The value of the first entry with the given key. -/
def lookupEntry {α : Type} (key : String) : List (String × α) → Option α
  | [] => none
  | (k, v) :: entries => if k = key then some v else lookupEntry key entries

namespace Json

def ofEntries (entries : List (String × Json)) : Json :=
  .object (sortEntries entries)

mutual

/-- Equality of documents, numbers being compared by value. -/
def beq : Json → Json → Bool
  | .null, .null => true
  | .boolean a, .boolean b => a == b
  | .integer a, .integer b => a == b
  | .float a, .float b => a == b
  | .string a, .string b => a == b
  | .array a, .array b => beqItems a b
  | .object a, .object b => beqEntries a b
  | _, _ => false

def beqItems : List Json → List Json → Bool
  | [], [] => true
  | a :: as, b :: bs => beq a b && beqItems as bs
  | _, _ => false

def beqEntries : List (String × Json) → List (String × Json) → Bool
  | [], [] => true
  | (k, a) :: as, (l, b) :: bs => k == l && beq a b && beqEntries as bs
  | _, _ => false

end

instance : BEq Json := ⟨beq⟩

end Json

end RecordQuery
