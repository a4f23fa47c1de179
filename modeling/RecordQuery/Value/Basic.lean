import RecordQuery.Json.Basic
import RecordQuery.Text.LetterCase
import RecordQuery.Time.Timestamp

/-!
# Record values

The values that records are made of.  Entities are objects with an identity of
their own, known by their attributes.
-/

namespace RecordQuery

inductive Value where
  | null
  | boolean (b : Bool)
  | float (x : Binary64)
  | integer (n : Int64)
  | string (text : String)
  | timestamp (t : Timestamp)
  | array (items : List Value)
  /-- Entries in ascending order of their keys. -/
  | object (entries : List (String × Value))
  /-- An object with an identity; `listed` tells whether it names its attributes. -/
  | entity (identity : Nat) (listed : Bool) (attributes : List (String × Value))

/-- What a value is for field look-up. -/
inductive Shape where
  | map
  | sequence
  | scalar
  deriving DecidableEq

namespace Value

def ofEntries (entries : List (String × Value)) : Value :=
  .object (sortEntries entries)

def shape : Value → Shape
  | .object _ | .entity .. => .map
  | .array _ => .sequence
  | _ => .scalar

def field? (v : Value) (key : String) : Option Value :=
  match v with
  | .object entries => lookupEntry key entries
  | .entity _ _ attributes => lookupEntry key attributes
  | _ => none

/-- Whether a value holds as a condition: it is neither null, false, zero nor empty. -/
def isTruthy : Value → Bool
  | .null => false
  | .boolean b => b
  | .float x => !x.isZero
  | .integer n => n != 0
  | .string text => text != ""
  | .array items => !items.isEmpty
  | .object entries => !entries.isEmpty
  | .timestamp _ | .entity .. => true

mutual

/-- The value with every string in lower case, also inside arrays, but not inside maps. -/
def toLower : Value → Value
  | .string text => .string (Text.toLower text)
  | .array items => .array (toLowerItems items)
  | v => v

def toLowerItems : List Value → List Value
  | [] => []
  | v :: vs => toLower v :: toLowerItems vs

end

mutual

/-- The number of values in a value, itself included. -/
def size : Value → Nat
  | .array items => sizeItems items + 1
  | .object entries => sizeEntries entries + 1
  | .entity _ _ attributes => sizeEntries attributes + 1
  | _ => 1

def sizeItems : List Value → Nat
  | [] => 0
  | v :: vs => size v + sizeItems vs

def sizeEntries : List (String × Value) → Nat
  | [] => 0
  | (_, v) :: entries => size v + sizeEntries entries

end

end Value

end RecordQuery
