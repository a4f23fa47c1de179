import RecordQuery.Number.Mixed
import RecordQuery.Value.Basic

/-!
# Comparison of values

The order of comparable values, and three notions of sameness and membership:
loose equality, which compares numbers of both kinds, identity of structure,
and containment.
-/

namespace RecordQuery

namespace Value

mutual

/--
The order of two values of comparable kinds: numbers by size, strings by code
point, points in time by instant, also against their RFC 3339 texts, arrays
item by item.
-/
def compare? : Value → Value → Option Ordering
  | .integer a, .integer b => some (compare a.toInt b.toInt)
  | .float a, .float b => a.compare? b
  | .integer a, .float b => Binary64.compareInt? a.toInt b
  | .float a, .integer b => (Binary64.compareInt? b.toInt a).map Ordering.swap
  | .string a, .string b => some (compare a b)
  | .boolean a, .boolean b => some (compare a b)
  | .timestamp a, .timestamp b => some (a.order b)
  | .timestamp a, .string b => (Timestamp.ofText? b).map a.order
  | .string a, .timestamp b => (Timestamp.ofText? a).map (·.order b)
  | .array a, .array b => compareItems? a b
  | _, _ => none

/-- The order of two arrays: of their first unequal items, or of their lengths. -/
def compareItems? : List Value → List Value → Option Ordering
  | [], [] => some .eq
  | [], _ :: _ => some .lt
  | _ :: _, [] => some .gt
  | a :: as, b :: bs =>
      match compare? a b with
      | some .eq => compareItems? as bs
      | unequal => unequal

end

mutual

/--
Equality by value, numbers of both kinds being compared with each other.  An
entity equals only itself.
-/
def looseEq : Value → Value → Bool
  | .null, .null => true
  | .boolean a, .boolean b => a == b
  | .string a, .string b => a == b
  | .array a, .array b => looseEqItems a b
  | .object a, .object b => looseEqEntries a b
  | .entity a _ _, .entity b _ _ => a == b
  | a, b => compare? a b == some .eq

def looseEqItems : List Value → List Value → Bool
  | [], [] => true
  | a :: as, b :: bs => looseEq a b && looseEqItems as bs
  | _, _ => false

def looseEqEntries : List (String × Value) → List (String × Value) → Bool
  | [], [] => true
  | (k, a) :: as, (l, b) :: bs => k == l && looseEq a b && looseEqEntries as bs
  | _, _ => false

end

mutual

/-- Equality of kind and value. -/
def beq : Value → Value → Bool
  | .null, .null => true
  | .boolean a, .boolean b => a == b
  | .float a, .float b => a == b
  | .integer a, .integer b => a == b
  | .string a, .string b => a == b
  | .timestamp a, .timestamp b => a.order b == .eq
  | .array a, .array b => beqItems a b
  | .object a, .object b => beqEntries a b
  | .entity a _ _, .entity b _ _ => a == b
  | _, _ => false

def beqItems : List Value → List Value → Bool
  | [], [] => true
  | a :: as, b :: bs => beq a b && beqItems as bs
  | _, _ => false

def beqEntries : List (String × Value) → List (String × Value) → Bool
  | [], [] => true
  | (k, a) :: as, (l, b) :: bs => k == l && beq a b && beqEntries as bs
  | _, _ => false

end

instance : BEq Value := ⟨beq⟩

def isPartOf (part : List Char) : List Char → Bool
  | [] => part.isEmpty
  | c :: cs => part.isPrefixOf (c :: cs) || isPartOf part cs

/-- Membership: an item of an array, a part of a string, or a key of a map. -/
def contains (v item : Value) : Bool :=
  match v, item with
  | .array items, item => items.any (looseEq · item)
  | .string text, .string part => isPartOf part.toList text.toList
  | v, .string key => (v.field? key).isSome
  | _, _ => false

end Value

end RecordQuery
