import RecordQuery.Text.Characters

/-!
# Literals

The content of string, key and regular expression literals: delimiters are
stripped and escapes decoded.
-/

namespace RecordQuery

namespace Literal

/-- The text between the first and the last character; too short a text has nothing between. -/
def stripDelimiters (raw : List Char) : List Char :=
  raw.tail.dropLast

/--
Read `count` hexadecimal digits onto `value`.  The second result is how many
characters are used, the one that is no digit included.
-/
def hexDigits : Nat → Nat → List Char → Option Nat × Nat
  | 0, value, _ => (some value, 0)
  | _ + 1, _, [] => (none, 0)
  | count + 1, value, c :: cs =>
      match Text.hexValue? c with
      | none => (none, 1)
      | some digit =>
          let (result, used) := hexDigits count (value * 16 + digit) cs
          (result, used + 1)

/-- The second half of a surrogate pair, written as an escape at the front of `cs`. -/
def lowSurrogate? : List Char → Option Nat
  | '\\' :: 'u' :: cs => (hexDigits 4 0 cs).1.filter Text.isLowSurrogate
  | _ => none

def replacement : Char := '\uFFFD'

/--
What a numeric escape stands for, read behind its mark, and how many characters
it uses.  Half of a surrogate pair becomes the replacement character.
-/
def numericEscape (cs : List Char) : List Char × Nat :=
  match hexDigits 4 0 cs with
  | (none, used) => (['\\', 'u'], used)
  | (some unit, used) =>
      if Text.isHighSurrogate unit then
        match lowSurrogate? (cs.drop used) with
        | some low => ([Text.surrogatePair unit low], used + 6)
        | none => ([replacement], used)
      else if Text.isLowSurrogate unit then ([replacement], used)
      else ([Char.ofNat unit], used)

def shortEscape? : Char → Option Char
  | 'n' => some '\n'
  | 't' => some '\t'
  | 'r' => some '\r'
  | 'b' => some '\x08'
  | 'f' => some '\x0c'
  | '"' => some '"'
  | '\'' => some '\''
  | '\x60' => some '\x60'
  | '\\' => some '\\'
  | '/' => some '/'
  | _ => none

/--
What an escape stands for, read behind its backslash, and how many characters
it uses.  An unknown escape stands for itself.
-/
def escape : List Char → List Char × Nat
  | [] => (['\\'], 0)
  | 'u' :: cs =>
      let (text, used) := numericEscape cs
      (text, used + 1)
  | c :: _ =>
      match shortEscape? c with
      | some decoded => ([decoded], 1)
      | none => (['\\', c], 1)

/-- Decode the escapes of a text, its first `skip` characters being used already. -/
def decodeFrom (skip : Nat) : List Char → List Char
  | [] => []
  | c :: cs =>
      match skip with
      | skip + 1 => decodeFrom skip cs
      | 0 =>
          if c = '\\' then
            let (text, used) := escape cs
            text ++ decodeFrom used cs
          else c :: decodeFrom 0 cs

def unquote (raw : String) : String :=
  String.ofList (decodeFrom 0 (stripDelimiters raw.toList))

/-- Replace escaped slashes by slashes and keep every other escape. -/
def unescapeSlashes : List Char → List Char
  | [] => []
  | '\\' :: '/' :: cs => '/' :: unescapeSlashes cs
  | '\\' :: c :: cs => '\\' :: c :: unescapeSlashes cs
  | c :: cs => c :: unescapeSlashes cs

def regexpSource (raw : String) : String :=
  String.ofList (unescapeSlashes (stripDelimiters raw.toList))

end Literal

end RecordQuery
