import RecordQuery.Json.Reader
import RecordQuery.Text.Characters
import RecordQuery.Value.Json

/-!
# Records

Records read from a stream of JSON documents, and shown as one array.
-/

namespace RecordQuery

namespace Records

inductive InputError where
  /-- There is no text, or only white space. -/
  | missing
  | malformed (fault : Json.Fault)
  deriving DecidableEq

def InputError.message : InputError → String
  | .missing => "no input provided. Use --input or pipe JSON to stdin."
  | .malformed .unfinished => "invalid JSON: the text ends inside a value"
  | .malformed .malformed => "invalid JSON: unexpected text"

/-- The records of a document: the items of an array, or the document itself. -/
def ofDocument : Json → List Value
  | .array items => Value.ofJsonItems items
  | document => [Value.ofJson document]

def ofText (text : String) : Except InputError (List Value) :=
  match Json.documents text with
  | .error fault => .error (.malformed fault)
  | .ok documents =>
      let records := documents.flatMap ofDocument
      if records.isEmpty ∧ text.toList.all Text.isWhiteSpace then .error .missing
      else .ok records

def toJson (records : List Value) : Json :=
  .array (Value.toJsonItems records)

end Records

end RecordQuery
