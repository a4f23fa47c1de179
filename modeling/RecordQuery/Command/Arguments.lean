import RecordQuery.Query

/-!
# Command line arguments

The commands of the program and how they are written: subcommands with one
query, flags, and options with a value.
-/

namespace RecordQuery

namespace Command

inductive Switch where
  | syntaxOnly
  | input
  | pretty
  | caseInsensitive
  | separator
  | flatKeys
  | strictKeys
  | noValidate
  deriving DecidableEq

namespace Switch

def long : Switch → String
  | .syntaxOnly => "syntax-only"
  | .input => "input"
  | .pretty => "pretty"
  | .caseInsensitive => "case-insensitive"
  | .separator => "separator"
  | .flatKeys => "flat-keys"
  | .strictKeys => "strict-keys"
  | .noValidate => "no-validate"

def short? : Switch → Option Char
  | .input => some 'i'
  | .pretty => some 'p'
  | .caseInsensitive => some 'c'
  | _ => none

def takesValue : Switch → Bool
  | .input | .separator => true
  | _ => false

end Switch

/-- What has been read of the arguments of a subcommand. -/
structure Arguments where
  query : Option String
  /-- The switches given, each with its value. -/
  given : List (Switch × String)

namespace Arguments

def empty : Arguments :=
  ⟨none, []⟩

def value? (arguments : Arguments) (switch : Switch) : Option String :=
  (arguments.given.find? fun entry => entry.1 = switch).map (·.2)

def has (arguments : Arguments) (switch : Switch) : Bool :=
  (arguments.value? switch).isSome

/-- Give a switch a value; no switch may be given twice. -/
def give? (arguments : Arguments) (switch : Switch) (value : String) : Option Arguments :=
  if arguments.has switch then none
  else some { arguments with given := (switch, value) :: arguments.given }

/-- Take an argument as the query, of which there is one. -/
def takeQuery? (arguments : Arguments) (text : String) : Option Arguments :=
  if arguments.query.isSome then none else some { arguments with query := some text }

/-- Read an argument behind its two hyphens; the first result is the switch that awaits a value. -/
def long? (allowed : List Switch) (arguments : Arguments) (text : List Char) :
    Option (Option Switch × Arguments) := do
  let name := String.ofList (text.takeWhile (· != '='))
  let switch ← allowed.find? fun switch => switch.long = name
  match switch.takesValue, text.dropWhile (· != '=') with
  | true, [] => some (some switch, arguments)
  | true, _ :: value => (arguments.give? switch (String.ofList value)).map (none, ·)
  | false, [] => (arguments.give? switch "").map (none, ·)
  | false, _ :: _ => none

/-- Read the switches behind one hyphen; the first result is the switch that awaits a value. -/
def short? (allowed : List Switch) (arguments : Arguments) :
    List Char → Option (Option Switch × Arguments)
  | [] => some (none, arguments)
  | c :: cs => do
      let switch ← allowed.find? fun switch => switch.short? = some c
      if switch.takesValue then
        match cs with
        | [] => some (some switch, arguments)
        | '=' :: value => (arguments.give? switch (String.ofList value)).map (none, ·)
        | value => (arguments.give? switch (String.ofList value)).map (none, ·)
      else short? allowed (← arguments.give? switch "") cs

/--
Read the arguments of a subcommand.  `awaiting` is the switch whose value comes
next, and behind two hyphens alone (`plain`) no argument is a switch.
-/
def read? (allowed : List Switch) (awaiting : Option Switch) (plain : Bool)
    (arguments : Arguments) : List String → Option Arguments
  | [] => if awaiting.isSome then none else some arguments
  | text :: texts =>
      match plain, text.toList, awaiting with
      | false, ['-', '-'], none => read? allowed none true arguments texts
      | false, '-' :: '-' :: name, none => do
          let (awaiting, arguments) ← long? allowed arguments name
          read? allowed awaiting false arguments texts
      | false, '-' :: c :: cs, none => do
          let (awaiting, arguments) ← short? allowed arguments (c :: cs)
          read? allowed awaiting false arguments texts
      | false, '-' :: _ :: _, some _ => none
      | _, _, some switch => do
          let arguments ← arguments.give? switch text
          read? allowed none plain arguments texts
      | _, _, none => do
          let arguments ← arguments.takeQuery? text
          read? allowed none plain arguments texts

end Arguments

end Command

inductive Command where
  | version
  | check (query : String) (syntaxOnly : Bool)
  | canonical (query : String)
  | filter (query : String) (input : Option String) (pretty : Bool) (options : QueryOptions)
  | document (query : String) (caseInsensitive : Bool) (pretty : Bool)

namespace Command

def filterOptions (arguments : Arguments) : QueryOptions where
  paths := ⟨!arguments.has .flatKeys, (arguments.value? .separator).getD ".",
    arguments.has .strictKeys⟩
  caseSensitive := !arguments.has .caseInsensitive
  validate := !arguments.has .noValidate
  dialect := .extended

def ofArguments? : List String → Option Command
  | [] => none
  | "check" :: rest => do
      let arguments ← Arguments.read? [.syntaxOnly] none false .empty rest
      return .check (← arguments.query) (arguments.has .syntaxOnly)
  | "parse" :: rest => do
      let arguments ← Arguments.read? [] none false .empty rest
      return .canonical (← arguments.query)
  | "filter" :: rest => do
      let allowed := [.input, .pretty, .caseInsensitive, .separator, .flatKeys, .strictKeys,
        .noValidate]
      let arguments ← Arguments.read? allowed none false .empty rest
      return .filter (← arguments.query) (arguments.value? .input) (arguments.has .pretty)
        (filterOptions arguments)
  | "translate" :: rest => do
      let arguments ← Arguments.read? [.caseInsensitive, .pretty] none false .empty rest
      return .document (← arguments.query) (arguments.has .caseInsensitive) (arguments.has .pretty)
  | first :: _ =>
      if first = "--version" ∨ ['-', 'V'].isPrefixOf first.toList then some .version else none

end Command

end RecordQuery
