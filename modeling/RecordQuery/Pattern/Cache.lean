import RecordQuery.Pattern.Wildcard
import RecordQuery.Regex.Size
import RecordQuery.Syntax.Expr
import RecordQuery.Syntax.Literal
import RecordQuery.Text.LetterCase

/-!
# Compiled patterns

The patterns that a query searches with, and a cache of their regular
expressions, which is filled from the tree of a query in advance.
-/

namespace RecordQuery

inductive Pattern where
  /-- A regular expression that is searched for. -/
  | regexp (source : String)
  /-- A wildcard pattern for whole texts. -/
  | wildcard (pattern : String)
  deriving DecidableEq

namespace Pattern

def source : Pattern → String
  | .regexp source => source
  | .wildcard pattern => Wildcard.regexSource pattern

structure Invalid where
  source : String
  deriving DecidableEq

def compile (caseSensitive : Bool) (pattern : Pattern) : Except Invalid Regex :=
  match Regex.compile? (!caseSensitive) pattern.source with
  | some regex => .ok regex
  | none => .error ⟨pattern.source⟩

end Pattern

structure PatternCache where
  caseSensitive : Bool
  compiled : List (Pattern × Regex)

namespace PatternCache

def empty (caseSensitive : Bool) : PatternCache :=
  ⟨caseSensitive, []⟩

def find? (cache : PatternCache) (pattern : Pattern) : Option Regex :=
  (cache.compiled.find? fun entry => entry.1 = pattern).map (·.2)

/-- The regular expression of a pattern; one that is not in the cache is compiled. -/
def get (cache : PatternCache) (pattern : Pattern) : Except Pattern.Invalid Regex :=
  match cache.find? pattern with
  | some regex => .ok regex
  | none => pattern.compile cache.caseSensitive

def size (cache : PatternCache) : Nat :=
  cache.compiled.length

def insert (cache : PatternCache) (pattern : Pattern) : Except Pattern.Invalid PatternCache :=
  match cache.find? pattern with
  | some _ => .ok cache
  | none => do
      let regex ← pattern.compile cache.caseSensitive
      return { cache with compiled := (pattern, regex) :: cache.compiled }

/-- The wildcard pattern of a string literal, in lower case where case does not count. -/
def wildcardOf (caseSensitive : Bool) (raw : String) : Pattern :=
  let text := Literal.unquote raw
  .wildcard (if caseSensitive then text else Text.toLower text)

/-- Put in the wildcard pattern of a LIKE, if its right operand is a string. -/
def insertWildcard (cache : PatternCache) (op : Comparison) (right : Expr) :
    Except Pattern.Invalid PatternCache :=
  match op, right with
  | .like, .string raw => cache.insert (wildcardOf cache.caseSensitive raw)
  | _, _ => .ok cache

mutual

def addTree (cache : PatternCache) : Expr → Except Pattern.Invalid PatternCache
  | .regexp raw => cache.insert (.regexp (Literal.regexpSource raw))
  | .array items => addItems cache items
  | .not operand => addTree cache operand
  | .comparison op left right => do
      let cache ← cache.insertWildcard op right
      let cache ← addTree cache left
      addTree cache right
  | .logical _ left right => do
      let cache ← addTree cache left
      addTree cache right
  | _ => .ok cache

def addItems (cache : PatternCache) : List Expr → Except Pattern.Invalid PatternCache
  | [] => .ok cache
  | item :: items => do
      let cache ← addTree cache item
      addItems cache items

end

def collect (caseSensitive : Bool) (tree : Expr) : Except Pattern.Invalid PatternCache :=
  (empty caseSensitive).addTree tree

end PatternCache

end RecordQuery
