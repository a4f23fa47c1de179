import RecordQuery.Evaluation
import RecordQuery.FilterDocument
import RecordQuery.Syntax.Parser
import RecordQuery.Syntax.Validity

/-!
# Queries

Queries that are compiled once and then tested against records, and the lazy
selection of the records that match.
-/

namespace RecordQuery

structure QueryOptions where
  paths : PathOptions
  caseSensitive : Bool
  /-- Whether the shape of the tree is checked. -/
  validate : Bool
  dialect : Dialect
  deriving DecidableEq

/-- Nested paths, exact case, validation, and bare identifiers. -/
def QueryOptions.default : QueryOptions :=
  ⟨.default, true, true, .extended⟩

inductive QueryError where
  | syntactic (error : SyntaxError)
  | invalid (error : ValidationError)
  | evaluation (error : EvaluationError)
  | document (error : FilterDocument.DocumentError)
  deriving DecidableEq

def QueryError.message : QueryError → String
  | .syntactic error => s!"syntax error: {error.message}"
  | .invalid error => s!"validation error: {error.message}"
  | .evaluation (.keyNotFound path) => (EvaluationError.keyNotFound path).message
  | .evaluation (.invalidPattern source) => (EvaluationError.invalidPattern source).message
  | .evaluation error => s!"evaluation error: {error.message}"
  | .document error => s!"evaluation error: {error.message}"

structure Query where
  source : String
  /-- The tree; a text without tokens has none. -/
  tree : Option Expr
  options : QueryOptions
  patterns : PatternCache

namespace Query

def parseTree (dialect : Dialect) (text : String) : Except QueryError (Option Expr) :=
  (parse dialect text).mapError .syntactic

def check (options : QueryOptions) (tree : Option Expr) : Except QueryError Unit :=
  match options.validate, tree with
  | true, some tree => tree.validate.mapError .invalid
  | _, _ => .ok ()

def collectPatterns (caseSensitive : Bool) (tree : Option Expr) : Except QueryError PatternCache :=
  match tree with
  | some tree =>
      (PatternCache.collect caseSensitive tree).mapError fun invalid =>
        .evaluation (.invalidPattern invalid.source)
  | none => .ok (.empty caseSensitive)

/-- Compile a query text: parse it, check its tree, and compile its patterns. -/
def compile (options : QueryOptions) (text : String) : Except QueryError Query := do
  let tree ← parseTree options.dialect text
  check options tree
  let patterns ← collectPatterns options.caseSensitive tree
  return ⟨text, tree, options, patterns⟩

def context (query : Query) (now : Timestamp) (record : Value) : Context :=
  ⟨record, query.options.paths, query.options.caseSensitive, query.patterns, now⟩

/-- Whether a record matches; a query without tokens matches none. -/
def matchesRecord (query : Query) (now : Timestamp) (record : Value) : Except QueryError Bool :=
  match query.tree with
  | some tree => ((query.context now record).evaluate tree).mapError .evaluation
  | none => .ok false

/--
The next record that matches or fails, and the records behind it.  Nothing is
left once the records are used up.
-/
def next (query : Query) (now : Timestamp) :
    List Value → Option (Except QueryError Value) × List Value
  | [] => (none, [])
  | record :: records =>
      match query.matchesRecord now record with
      | .ok true => (some (.ok record), records)
      | .ok false => next query now records
      | .error error => (some (.error error), records)

/-- The records that match, in order, or the failure of the first one that fails. -/
def select (query : Query) (now : Timestamp) : List Value → Except QueryError (List Value)
  | [] => .ok []
  | record :: records => do
      let holds ← query.matchesRecord now record
      let selected ← query.select now records
      return if holds then record :: selected else selected

def toFilterDocument (query : Query) (now : Timestamp) : Except QueryError Json :=
  (FilterDocument.ofQuery ⟨query.options.caseSensitive, now⟩ query.tree).mapError .document

end Query

/-- Whether a record matches a query text with default options. -/
def matchesText (now : Timestamp) (record : Value) (text : String) : Except QueryError Bool := do
  let query ← Query.compile .default text
  query.matchesRecord now record

/-- The filter document of a query text; its tree is not checked. -/
def filterDocumentOfText (now : Timestamp) (caseSensitive : Bool) (text : String) :
    Except QueryError Json := do
  let tree ← Query.parseTree .extended text
  (FilterDocument.ofQuery ⟨caseSensitive, now⟩ tree).mapError .document

def isValidText (text : String) : Bool :=
  match parse .extended text with
  | .ok (some tree) => tree.validate.isOk
  | .ok none => true
  | .error _ => false

end RecordQuery
