import RecordQuery.Query

/-!
# Options documents

Options read from JSON documents and shown as them.  A document is an object, in
which every member may be missing, or an array of the members in order, of which
the last ones may be missing.
-/

namespace RecordQuery

namespace OptionsDocument

def members? (names : List String) : Json → Option (List (Option Json))
  | .object entries => some (names.map fun name => lookupEntry name entries)
  | .array items =>
      if items.length ≤ names.length then
        some (items.map some ++ List.replicate (names.length - items.length) none)
      else none
  | _ => none

def flag? (missing : Bool) : Option Json → Option Bool
  | none => some missing
  | some (.boolean b) => some b
  | some _ => none

def text? (missing : String) : Option Json → Option String
  | none => some missing
  | some (.string text) => some text
  | some _ => none

def dialectOfName? : String → Option Dialect
  | "extended" => some .extended
  | "strict" => some .strict
  | _ => none

/-- A dialect, unless it is missing: its name, or an object with the name as its only key. -/
def dialect? (missing : Dialect) : Option Json → Option Dialect
  | none => some missing
  | some (.string name) => dialectOfName? name
  | some (.object [(name, .null)]) => dialectOfName? name
  | some _ => none

def dialectName : Dialect → String
  | .extended => "extended"
  | .strict => "strict"

end OptionsDocument

namespace PathOptions

open OptionsDocument

def ofJson? (document : Json) : Option PathOptions := do
  match ← members? ["use_nested_keys", "key_separator", "strict"] document with
  | [nested, separator, strict] =>
      return ⟨← flag? true nested, ← text? "." separator, ← flag? false strict⟩
  | _ => none

def toJson (options : PathOptions) : Json :=
  .object
    [("key_separator", .string options.separator),
      ("strict", .boolean options.strict),
      ("use_nested_keys", .boolean options.nested)]

end PathOptions

namespace QueryOptions

open OptionsDocument

def memberNames : List String :=
  ["use_nested_keys", "key_separator", "case_sensitive", "raise_on_missing_key", "validate",
    "dialect"]

def ofJson? (document : Json) : Option QueryOptions := do
  match ← members? memberNames document with
  | [nested, separator, caseSensitive, strict, validate, dialect] =>
      let paths : PathOptions := ⟨← flag? true nested, ← text? "." separator, ← flag? false strict⟩
      return ⟨paths, ← flag? true caseSensitive, ← flag? true validate,
        ← dialect? .extended dialect⟩
  | _ => none

def toJson (options : QueryOptions) : Json :=
  .object
    [("case_sensitive", .boolean options.caseSensitive),
      ("dialect", .string (dialectName options.dialect)),
      ("key_separator", .string options.paths.separator),
      ("raise_on_missing_key", .boolean options.paths.strict),
      ("use_nested_keys", .boolean options.paths.nested),
      ("validate", .boolean options.validate)]

end QueryOptions

end RecordQuery
