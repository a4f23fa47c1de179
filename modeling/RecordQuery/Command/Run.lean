import RecordQuery.Command.Arguments
import RecordQuery.Json.Writer
import RecordQuery.Records
import RecordQuery.Syntax.Canonical

/-!
# Running commands

What the commands of the program do, as functions from their input to what is
printed.
-/

namespace RecordQuery

namespace Command

inductive Failure where
  | query (error : QueryError)
  | input (error : Records.InputError)
  deriving DecidableEq

def Failure.message : Failure → String
  | .query error => error.message
  | .input error => error.message

/-- The canonical text of a query that compiles; a text without tokens has none. -/
def checkQuery (syntaxOnly : Bool) (text : String) : Except Failure (Option String) := do
  let query ← (Query.compile { QueryOptions.default with validate := !syntaxOnly } text).mapError
    .query
  return query.tree.map Expr.canonical

def filterText (now : Timestamp) (options : QueryOptions) (text : String)
    (input : Option String) : Except Failure (List Value) := do
  let query ← (Query.compile options text).mapError .query
  match input with
  | none => throw (.input .missing)
  | some input => do
      let records ← (Records.ofText input).mapError .input
      (query.select now records).mapError .query

def documentText (now : Timestamp) (caseInsensitive : Bool) (text : String) :
    Except Failure Json :=
  (filterDocumentOfText now (!caseInsensitive) text).mapError .query

/-- What the program leaves behind: its exit code, its output, and its diagnostics. -/
structure Outcome where
  exitCode : Nat
  output : String
  diagnostics : String
  deriving DecidableEq

namespace Outcome

def line (text : String) : Outcome :=
  ⟨0, text ++ "\n", ""⟩

/-- A line of output, or the wording of a failure. -/
def ofExcept : Except Failure String → Outcome
  | .ok text => line text
  | .error failure => ⟨1, "", failure.message ++ "\n"⟩

def usage : Outcome :=
  ⟨2, "", "usage: sift (check | parse | filter | translate) QUERY [OPTIONS]\n"⟩

end Outcome

def checkReport (syntaxOnly : Bool) : Option String → String
  | none => "Query is empty"
  | some _ => if syntaxOnly then "Syntax is valid" else "Query is valid"

def readsInput : Command → Bool
  | .filter _ none _ _ => true
  | _ => false

/-- Run a command at a time, with the standard input if it is read and there is one. -/
def run (now : Timestamp) (standardInput : Option String) : Command → Outcome
  | .version => .line "sift 0.1.0"
  | .check query syntaxOnly =>
      .ofExcept ((checkQuery syntaxOnly query).map (checkReport syntaxOnly))
  | .canonical query => .ofExcept ((checkQuery true query).map (·.getD "Query is empty"))
  | .filter query input pretty options =>
      .ofExcept <| (filterText now options query (input.orElse fun _ => standardInput)).map
        fun records => (Records.toJson records).render pretty
  | .document query caseInsensitive pretty =>
      .ofExcept ((documentText now caseInsensitive query).map (Json.render pretty))

end Command

end RecordQuery
