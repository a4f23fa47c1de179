import RecordQuery.Value.Basic

/-!
# Field paths

A path is split into segments, which are followed one by one.  A segment that
meets an array goes on in each of its maps, so that one path can lead to many
values.
-/

namespace RecordQuery

structure PathOptions where
  /-- Whether a path is split at separators. -/
  nested : Bool
  separator : String
  /-- Whether a path that leads nowhere is a failure. -/
  strict : Bool
  deriving DecidableEq

/-- Paths are split at points, and may lead nowhere. -/
def PathOptions.default : PathOptions :=
  ⟨true, ".", false⟩

namespace Path

/--
Split a text at every occurrence of `separator`, from left to right, its first
`skip` characters being part of an occurrence already.
-/
def splitFrom (separator : List Char) (skip : Nat) : List Char → List Char × List (List Char)
  | [] => ([], [])
  | c :: cs =>
      match skip with
      | skip + 1 => splitFrom separator skip cs
      | 0 =>
          if separator.isPrefixOf (c :: cs) then
            let (segment, segments) := splitFrom separator (separator.length - 1) cs
            ([], segment :: segments)
          else
            let (segment, segments) := splitFrom separator 0 cs
            (c :: segment, segments)

/-- The segments of a path: the first, and those behind it. -/
def segments (options : PathOptions) (path : String) : String × List String :=
  if options.nested ∧ options.separator ≠ "" then
    let (first, rest) := splitFrom options.separator.toList 0 path.toList
    (String.ofList first, rest.map String.ofList)
  else (path, [])

def valueAt? (key : String) (v : Value) : Option Value :=
  if v.shape = .map then v.field? key else none

/-- One segment: the entry of a map, or the entries of the maps in an array. -/
def step (v : Value) (segment : String) : List Value :=
  match v with
  | .array items => items.filterMap (valueAt? segment)
  | v => (valueAt? segment v).toList

def goesOn (v : Value) : Bool :=
  v.shape != .scalar

/-- A value from which one segment and then the rest are still to be followed. -/
structure Pending where
  value : Value
  segment : String
  rest : List String

/--
Follow the pending paths, the first one first, in at most `fuel` steps.  The
values that one step leads to take its place, so results come in the order of
the document.
-/
def follow : Nat → List Pending → List Value
  | 0, _ => []
  | _ + 1, [] => []
  | fuel + 1, p :: pending =>
      let reached := step p.value p.segment
      match p.rest with
      | [] => reached ++ follow fuel pending
      | segment :: rest =>
          follow fuel ((reached.filter goesOn).map (⟨·, segment, rest⟩) ++ pending)

/-- The values that a path leads to from a record, in the order of the document. -/
def lookup (options : PathOptions) (record : Value) (path : String) : List Value :=
  let (first, rest) := segments options path
  follow (record.size + 1) [⟨record, first, rest⟩]

/-- The values that a path leads to; with strict paths there has to be one. -/
def resolve? (options : PathOptions) (record : Value) (path : String) : Option (List Value) :=
  let found := lookup options record path
  if options.strict ∧ found.isEmpty then none else some found

end Path

end RecordQuery
