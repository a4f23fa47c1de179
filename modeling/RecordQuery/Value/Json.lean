import RecordQuery.Value.Basic

/-!
# Values and JSON

Values read from JSON documents and shown as them.
-/

namespace RecordQuery

namespace Value

/-- The value of an integer; beyond sixty-four bits with sign it is a float. -/
def ofInt (n : Int) : Value :=
  if -0x8000000000000000 ≤ n ∧ n < 0x8000000000000000 then .integer (Int64.ofInt n)
  else .float (Binary64.ofInt n)

mutual

def ofJson : Json → Value
  | .null => .null
  | .boolean b => .boolean b
  | .integer n => ofInt n
  | .float x => .float x
  | .string text => .string text
  | .array items => .array (ofJsonItems items)
  | .object entries => .object (ofJsonEntries entries)

def ofJsonItems : List Json → List Value
  | [] => []
  | j :: js => ofJson j :: ofJsonItems js

def ofJsonEntries : List (String × Json) → List (String × Value)
  | [] => []
  | (key, j) :: entries => (key, ofJson j) :: ofJsonEntries entries

end

/-- A number as JSON; what is not finite is null. -/
def floatJson (x : Binary64) : Json :=
  if x.isFinite then .float x else .null

/-- The RFC 3339 text of a timestamp as JSON; without such a text it is null. -/
def timestampJson (t : Timestamp) : Json :=
  match t.text? with
  | some text => .string text
  | none => .null

mutual

/-- The JSON form of a value.  Entities are shown by the attributes they list. -/
def toJson : Value → Json
  | .null => .null
  | .boolean b => .boolean b
  | .integer n => .integer n.toInt
  | .float x => floatJson x
  | .string text => .string text
  | .timestamp t => timestampJson t
  | .array items => .array (toJsonItems items)
  | .object entries => .object (toJsonEntries entries)
  | .entity _ listed attributes => .object (if listed then toJsonEntries attributes else [])

def toJsonItems : List Value → List Json
  | [] => []
  | v :: vs => toJson v :: toJsonItems vs

def toJsonEntries : List (String × Value) → List (String × Json)
  | [] => []
  | (key, v) :: entries => (key, toJson v) :: toJsonEntries entries

end

end Value

end RecordQuery
