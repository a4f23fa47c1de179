import RecordQuery.Regex.Basic
import RecordQuery.Text.Characters

/-!
# Reading regular expressions

A reader for the source text of regular expressions.  It goes over the text from
left to right, with a stack of the groups and of the bracketed classes that are
open, and gives the expression or nothing.
-/

namespace RecordQuery

namespace Regex

structure Flags where
  ignoreCase : Bool
  multiLine : Bool
  /-- A point stands for a line feed, too. -/
  dotAll : Bool
  /-- A line may end with a carriage return. -/
  anyLineEnd : Bool
  /-- Classes and letter case go beyond the English ones. -/
  unicode : Bool
  /-- Blanks and comments in the source are skipped. -/
  verbose : Bool
  deriving DecidableEq

def Flags.initial (ignoreCase : Bool) : Flags :=
  ⟨ignoreCase, false, false, false, true, false⟩

def Flags.switch (flags : Flags) (letter : Char) (on : Bool) : Flags :=
  match letter with
  | 'i' => { flags with ignoreCase := on }
  | 'm' => { flags with multiLine := on }
  | 's' => { flags with dotAll := on }
  | 'R' => { flags with anyLineEnd := on }
  | 'u' => { flags with unicode := on }
  | 'x' => { flags with verbose := on }
  | _ => flags

/-- The letters of flags.  The flag `U` swaps greed, which finds the same matches. -/
def flagLetters : List Char :=
  ['i', 'm', 's', 'R', 'u', 'x', 'U']

/-- A reader takes something off the front of a text, or fails. -/
abbrev Reader (α : Type) := List Char → Option (α × List Char)

def skipComments (inComment : Bool) : List Char → List Char
  | [] => []
  | c :: cs =>
      if inComment then skipComments (c != '\n') cs
      else if Text.isWhiteSpace c then skipComments false cs
      else if c = '#' then skipComments true cs
      else c :: cs

/-- In verbose mode, skip blanks and comments. -/
def skip (flags : Flags) (cs : List Char) : List Char :=
  if flags.verbose then skipComments false cs else cs

/-! ## Escapes -/

inductive Primitive where
  | literal (c : Char)
  /-- A character given by two hexadecimal digits. -/
  | byte (c : Char)
  | class (s : CharSet)
  | look (assertion : Assertion)

def metaChars : List Char :=
  ['\\', '.', '+', '*', '?', '(', ')', '|', '[', ']', '\x7b', '\x7d', '^', '$', '#', '&', '-', '~']

def isEscapable (c : Char) : Bool :=
  metaChars.contains c || (decide (c.toNat < 128) && !c.isAlphanum && c != '<' && c != '>')

def charOf? (n : Nat) : Option Char :=
  if n.isValidChar then some (Char.ofNat n) else none

def hexFixed (flags : Flags) : Nat → Nat → Reader Nat
  | 0, value, cs => some (value, cs)
  | _ + 1, _, [] => none
  | count + 1, value, c :: cs => do
      let digit ← Text.hexValue? c
      hexFixed flags count (value * 16 + digit) (skip flags cs)

def hexBraced (flags : Flags) : Nat → Option Nat → Reader Nat
  | 0, _, _ => none
  | _ + 1, _, [] => none
  | fuel + 1, value, c :: cs =>
      if c = '\x7d' then value.map (·, skip flags cs)
      else do
        let digit ← Text.hexValue? c
        hexBraced flags fuel (some (value.getD 0 * 16 + digit)) (skip flags cs)

/-- Read a character given by its code point, behind the letter that tells its length. -/
def hexEscape (flags : Flags) (letter : Char) : Reader Primitive := fun cs =>
  match skip flags cs with
  | [] => none
  | '\x7b' :: cs => do
      let (n, rest) ← hexBraced flags (cs.length + 1) none (skip flags cs)
      return (.literal (← charOf? n), rest)
  | cs => do
      let count := if letter = 'x' then 2 else if letter = 'u' then 4 else 8
      let (n, rest) ← hexFixed flags count 0 cs
      let c ← charOf? n
      return (if letter = 'x' then .byte c else .literal c, rest)

/-- A property name in lower case, without separators and without a leading `is`. -/
def normalizeName (name : List Char) : String :=
  let lower := name.map Char.toLower
  let hasIs := ['i', 's'].isPrefixOf lower
  let kept := (if hasIs then lower.drop 2 else lower).filter fun c =>
    c != ' ' && c != '_' && c != '-' && decide (c.toNat < 128)
  if hasIs && kept == ['c'] then "isc" else String.ofList kept

def shortName? (name : String) (names : List (String × String)) : Option String :=
  (names.find? fun entry => entry.1 == name).map (·.2)

def categorySet? (name : String) : Option CharSet :=
  if name = "any" then some .full
  else if name = "assigned" then some (.complement (.category "Cn"))
  else if name = "ascii" then some (.range '\x00' '\x7f')
  else (shortName? name Text.categoryNames).map .category

/-- The set of a property without value: a binary property, a general category or a script. -/
def propertySet? (name : List Char) : Option CharSet :=
  let name := normalizeName name
  let binary :=
    if ["cf", "sc", "lc"].contains name then none
    else (Text.binaryProperty? name).map .property
  (binary.orElse fun _ => categorySet? name).orElse fun _ =>
    (shortName? name Text.scriptNames).map .script

def valueSet? (name value : List Char) : Option CharSet :=
  let name := normalizeName name
  let value := normalizeName value
  if name = "gc" ∨ name = "generalcategory" then categorySet? value
  else
    let short := shortName? value Text.scriptNames
    if name = "sc" ∨ name = "script" then short.map .script
    else if name = "scx" ∨ name = "scriptextensions" then short.map .usedIn
    else none

def splitAtFirst? (p : Char → Bool) (cs : List Char) : Option (List Char × List Char) :=
  match cs.dropWhile (fun c => !p c) with
  | [] => none
  | _ :: rest => some (cs.takeWhile (fun c => !p c), rest)

def splitUnequal? : List Char → Option (List Char × List Char)
  | [] => none
  | '!' :: '=' :: cs => some ([], cs)
  | c :: cs => (splitUnequal? cs).map fun parts => (c :: parts.1, parts.2)

/--
The set that a property in braces names.  Its value may stand behind an equals
sign, a colon or `!=`, which all read the same.
-/
def bracedSet? (name : List Char) : Option CharSet :=
  let parts :=
    (splitUnequal? name).orElse fun _ =>
      (splitAtFirst? (· == ':') name).orElse fun _ => splitAtFirst? (· == '=') name
  match parts with
  | some (property, value) => valueSet? property value
  | none => propertySet? name

def bracedName (flags : Flags) : Nat → Reader (List Char)
  | 0, _ => none
  | _ + 1, [] => none
  | fuel + 1, c :: cs =>
      if c = '\x7d' then some ([], cs)
      else do
        let (name, rest) ← bracedName flags fuel (skip flags cs)
        return (c :: name, rest)

/-- The set as it stands in an expression: closed under letter case and negated on demand. -/
def closeSet (flags : Flags) (negated : Bool) (s : CharSet) : Option CharSet :=
  let s :=
    if flags.ignoreCase then (if flags.unicode then .anyCase s else .anyAsciiCase s) else s
  if negated then (if flags.unicode then some (.complement s) else none) else some s

/-- Read the name of a property, which is in braces or a single letter. -/
def propertyName (flags : Flags) : Reader CharSet := fun cs =>
  match skip flags cs with
  | [] => none
  | '\x7b' :: cs => do
      let (name, rest) ← bracedName flags (cs.length + 1) (skip flags cs)
      return (← bracedSet? name, rest)
  | c :: cs =>
      if c = '\\' then none else (propertySet? [c]).map (·, skip flags cs)

def propertyEscape (flags : Flags) (negated : Bool) : Reader Primitive := fun cs => do
  let (s, rest) ← propertyName flags cs
  if flags.unicode then return (.class (← closeSet flags negated s), rest) else none

/-- The set of a class letter, which keeps to English letters and digits outside Unicode mode. -/
def classEscape? (flags : Flags) (letter : Char) : Option CharSet :=
  let s : CharSet :=
    match letter.toLower with
    | 'd' => if flags.unicode then .digit else .range '0' '9'
    | 's' =>
        if flags.unicode then .space else .ranges [('\t', '\r'), (' ', ' ')]
    | _ =>
        if flags.unicode then .word else .ranges [('0', '9'), ('A', 'Z'), ('_', '_'), ('a', 'z')]
  if letter.isUpper then (if flags.unicode then some (.complement s) else none) else some s

def wordAssertion? (ascii : Bool) (name : List Char) : Option Assertion :=
  match String.ofList name with
  | "start" => some (.wordStart ascii)
  | "end" => some (.wordEnd ascii)
  | "start-half" => some (.wordStartHalf ascii)
  | "end-half" => some (.wordEndHalf ascii)
  | _ => none

def isAssertionNameChar (c : Char) : Bool :=
  c.isAlpha || c == '-'

def assertionName (flags : Flags) : Nat → Reader (List Char)
  | 0, _ => none
  | _ + 1, [] => none
  | fuel + 1, c :: cs =>
      if c = '\x7d' then some ([], cs)
      else if isAssertionNameChar c then do
        let (name, rest) ← assertionName flags fuel (skip flags cs)
        return (c :: name, rest)
      else none

/--
Read what may follow the letter of a word boundary.  A brace is taken for a
repetition, unless the name of an assertion begins in it.
-/
def wordEscape (flags : Flags) : Reader Primitive := fun cs =>
  let plain : Option (Primitive × List Char) := some (.look (.wordBoundary !flags.unicode), cs)
  match cs with
  | '\x7b' :: inside =>
      match skip flags inside with
      | [] => none
      | c :: rest =>
          if isAssertionNameChar c then do
            let (name, rest) ← assertionName flags (rest.length + 2) (c :: rest)
            return (.look (← wordAssertion? (!flags.unicode) name), rest)
          else plain
  | _ => plain

def letterEscape? : Char → Option Char
  | 'a' => some '\x07'
  | 'f' => some '\x0c'
  | 't' => some '\t'
  | 'n' => some '\n'
  | 'r' => some '\r'
  | 'v' => some '\x0b'
  | _ => none

def escape (flags : Flags) : Reader Primitive
  | [] => none
  | c :: cs =>
      if c = 'x' ∨ c = 'u' ∨ c = 'U' then hexEscape flags c cs
      else if c = 'p' ∨ c = 'P' then propertyEscape flags (c == 'P') cs
      else if ['d', 's', 'w', 'D', 'S', 'W'].contains c then
        (classEscape? flags c).map (.class ·, cs)
      else if isEscapable c then some (.literal c, cs)
      else
        match c with
        | 'A' => some (.look .textStart, cs)
        | 'z' => some (.look .textEnd, cs)
        | 'b' => wordEscape flags cs
        | 'B' => some (.look (.noWordBoundary !flags.unicode), cs)
        | '<' => some (.look (.wordStart !flags.unicode), cs)
        | '>' => some (.look (.wordEnd !flags.unicode), cs)
        | _ => (letterEscape? c).map (.literal ·, cs)

/-! ## Bracketed classes -/

inductive ClassOp where
  | inter
  | diff
  | exclusive

/-- A part of a bracketed class: its set, and how deep classes and operations are nested in it. -/
structure ClassPart where
  set : CharSet
  depth : Nat

def ClassPart.union : List ClassPart → ClassPart
  | [] => ⟨.empty, 0⟩
  | [part] => part
  | first :: rest =>
      rest.foldl (fun whole part => ⟨.union whole.set part.set, max whole.depth (part.depth + 1)⟩)
        ⟨first.set, first.depth + 1⟩

structure OpenClass where
  negated : Bool
  /-- What stands in front of the last operation. -/
  left : Option (ClassPart × ClassOp)
  /-- The items since then, in reverse. -/
  items : List ClassPart

/-- The union of the items since the last operation, joined to what stands in front of it. -/
def OpenClass.combined (flags : Flags) (current : OpenClass) : Option ClassPart := do
  let right := ClassPart.union current.items
  match current.left with
  | none => return right
  | some (left, op) =>
      let s ← closeSet flags false left.set
      let t ← closeSet flags false right.set
      let joined : CharSet :=
        match op with
        | .inter => .inter s t
        | .diff => .diff s t
        | .exclusive => .exclusive s t
      return ⟨joined, max left.depth right.depth + 1⟩

def OpenClass.add (current : OpenClass) (s : CharSet) (depth : Nat) : OpenClass :=
  { current with items := ⟨s, depth⟩ :: current.items }

/-- A character that may stand in a class: outside Unicode mode only an ASCII one. -/
def classLiteral? (flags : Flags) : Primitive → Option Char
  | .literal c | .byte c => if flags.unicode ∨ c.toNat < 128 then some c else none
  | _ => none

def classItem? (flags : Flags) : Primitive → Option CharSet
  | .class s => some s
  | .look _ => none
  | p => (classLiteral? flags p).map .single

def classPrimitive (flags : Flags) : Reader Primitive
  | [] => none
  | '\\' :: cs => escape flags cs
  | c :: cs => some (.literal c, cs)

def classRange (flags : Flags) : Reader CharSet := fun cs => do
  let (first, rest) ← classPrimitive flags cs
  match skip flags rest with
  | [] => none
  | '-' :: behind =>
      match skip flags behind with
      | [] => none
      | c :: cs =>
          if c = ']' ∨ c = '-' then return (← classItem? flags first, '-' :: behind)
          else do
            let (last, rest) ← classPrimitive flags (c :: cs)
            let first ← classLiteral? flags first
            let last ← classLiteral? flags last
            if first ≤ last then return (.range first last, rest) else none
  | rest => return (← classItem? flags first, rest)

def asciiClass? (name : List Char) : Option CharSet :=
  match String.ofList name with
  | "alnum" => some (.ranges [('0', '9'), ('A', 'Z'), ('a', 'z')])
  | "alpha" => some (.ranges [('A', 'Z'), ('a', 'z')])
  | "ascii" => some (.range '\x00' '\x7f')
  | "blank" => some (.ranges [('\t', '\t'), (' ', ' ')])
  | "cntrl" => some (.ranges [('\x00', '\x1f'), ('\x7f', '\x7f')])
  | "digit" => some (.range '0' '9')
  | "graph" => some (.range '!' '~')
  | "lower" => some (.range 'a' 'z')
  | "print" => some (.range ' ' '~')
  | "punct" => some (.ranges [('!', '/'), (':', '@'), ('[', '\x60'), ('\x7b', '~')])
  | "space" => some (.ranges [('\t', '\r'), (' ', ' ')])
  | "upper" => some (.range 'A' 'Z')
  | "word" => some (.ranges [('0', '9'), ('A', 'Z'), ('_', '_'), ('a', 'z')])
  | "xdigit" => some (.ranges [('0', '9'), ('A', 'F'), ('a', 'f')])
  | _ => none

/-- Read a named class behind its opening bracket; what is no such class is left to be read anew. -/
def namedClass? (cs : List Char) : Option ((CharSet × Bool) × List Char) :=
  match cs with
  | ':' :: cs =>
      let (negated, cs) :=
        match cs with
        | '^' :: rest => (true, rest)
        | _ => (false, cs)
      match cs.dropWhile (· != ':') with
      | ':' :: ']' :: rest =>
          (asciiClass? (cs.takeWhile (· != ':'))).map fun s => ((s, negated), rest)
      | _ => none
  | _ => none

def leadingHyphens (flags : Flags) : Nat → OpenClass → Reader OpenClass
  | 0, _, _ => none
  | _ + 1, _, [] => none
  | fuel + 1, current, c :: cs =>
      if c = '-' then leadingHyphens flags fuel (current.add (.single '-') 0) (skip flags cs)
      else some (current, c :: cs)

def classStart (flags : Flags) : Reader OpenClass := fun cs => do
  let cs := skip flags cs
  let (negated, cs) :=
    match cs with
    | '^' :: rest => (true, skip flags rest)
    | _ => (false, cs)
  let (current, rest) ← leadingHyphens flags (cs.length + 1) ⟨negated, none, []⟩ cs
  match current.items, rest with
  | [], ']' :: rest =>
      match skip flags rest with
      | [] => none
      | rest => return (current.add (.single ']') 0, rest)
  | _, rest => return (current, rest)

def classOp? : List Char → Option (ClassOp × List Char)
  | '&' :: '&' :: cs => some (.inter, cs)
  | '-' :: '-' :: cs => some (.diff, cs)
  | '~' :: '~' :: cs => some (.exclusive, cs)
  | _ => none

/--
Read the rest of a bracketed class with the classes around it, innermost first,
in at most `fuel` items.
-/
def classBody (flags : Flags) : Nat → OpenClass → List OpenClass → Reader ClassPart
  | 0, _, _, _ => none
  | fuel + 1, current, outer, cs =>
      match skip flags cs with
      | [] => none
      | '[' :: cs =>
          match namedClass? cs with
          | some ((s, negated), rest) => do
              let s ← closeSet flags negated s
              classBody flags fuel (current.add s 0) outer rest
          | none => do
              let (inner, rest) ← classStart flags cs
              classBody flags fuel inner (current :: outer) rest
      | ']' :: cs => do
          let whole ← current.combined flags
          let s ← closeSet flags current.negated whole.set
          match outer with
          | [] => return (⟨s, whole.depth + 1⟩, cs)
          | next :: outer => classBody flags fuel (next.add s (whole.depth + 1)) outer cs
      | cs =>
          match classOp? cs with
          | some (op, rest) => do
              let left ← current.combined flags
              classBody flags fuel ⟨current.negated, some (left, op), []⟩ outer rest
          | none => do
              let (s, rest) ← classRange flags cs
              classBody flags fuel (current.add s 0) outer rest

def bracketed (flags : Flags) : Reader ClassPart := fun cs => do
  let (start, rest) ← classStart flags cs
  classBody flags (cs.length + 1) start [] rest

/-! ## Groups and expressions -/

structure Nested where
  regex : Regex
  depth : Nat

/-- An item of a sequence: an expression, or a place where flags are set. -/
inductive Item where
  | node (inner : Nested)
  | flags

/-- The expression of an item; setting flags matches the empty text. -/
def Item.nested : Item → Nested
  | .node inner => inner
  | .flags => ⟨.empty, 0⟩

/-- The sequence of the given items, which are in reverse. -/
def sequence (items : List Item) : Nested :=
  match items with
  | [] => ⟨.empty, 0⟩
  | [item] => item.nested
  | item :: items =>
      items.foldl
        (fun behind item =>
          ⟨.seq item.nested.regex behind.regex, max (item.nested.depth + 1) behind.depth⟩)
        ⟨item.nested.regex, item.nested.depth + 1⟩

def choice (last : Nested) (others : List Nested) : Nested :=
  match others with
  | [] => last
  | others =>
      others.foldl
        (fun behind node => ⟨.alt node.regex behind.regex, max (node.depth + 1) behind.depth⟩)
        ⟨last.regex, last.depth + 1⟩

/-- A level that is being read: the items of its last alternative, and the others, in reverse. -/
structure Level where
  flags : Flags
  items : List Item
  alternatives : List Nested

def Level.start (flags : Flags) : Level :=
  ⟨flags, [], []⟩

def Level.finish (level : Level) : Nested :=
  choice (sequence level.items) level.alternatives

def Level.add (level : Level) (regex : Regex) (depth : Nat) : Level :=
  { level with items := .node ⟨regex, depth⟩ :: level.items }

/-- A source text being read: the level inside, the levels around it, and the group names. -/
structure State where
  level : Level
  outer : List Level
  names : List (List Char)

def literalRegex? (flags : Flags) : Primitive → Option Regex
  | .literal c => some (.chars (cased c))
  | .byte c => if flags.unicode ∨ c.toNat < 128 then some (.chars (cased c)) else none
  | .class s => some (.chars s)
  | .look assertion => some (.look assertion)
where
  /-- The character in any case if case is ignored. -/
  cased (c : Char) : CharSet :=
    if flags.ignoreCase then
      if flags.unicode then .anyCase (.single c) else .anyAsciiCase (.single c)
    else .single c

def dot? (flags : Flags) : Option Regex :=
  if flags.unicode then
    some <| .chars <|
      if flags.dotAll then .full
      else if flags.anyLineEnd then .complement (.ranges [('\r', '\r'), ('\n', '\n')])
      else .complement (.single '\n')
  else none

def startAssertion (flags : Flags) : Assertion :=
  if flags.multiLine then (if flags.anyLineEnd then .anyLineStart else .lineStart) else .textStart

def endAssertion (flags : Flags) : Assertion :=
  if flags.multiLine then (if flags.anyLineEnd then .anyLineEnd else .lineEnd) else .textEnd

def Level.repeatLast? (level : Level) (min : Nat) (max : Option Nat) : Option Level :=
  match level.items with
  | .node inner :: items =>
      let outer : Nested := ⟨.repeated inner.regex min max, inner.depth + 1⟩
      some { level with items := .node outer :: items }
  | _ => none

def skipLazy : List Char → List Char
  | '?' :: cs => cs
  | cs => cs

/-- Read a number that fits thirty-two bits, with blanks around it. -/
def countNumber (flags : Flags) : Reader Nat := fun cs =>
  let (digits, rest) := digitRun (cs.length + 1) (cs.dropWhile Text.isWhiteSpace)
  let value := digitsValue digits
  if digits.isEmpty ∨ 0xFFFFFFFF < value then none
  else some (value, rest.dropWhile Text.isWhiteSpace |> skip flags)
where
  /-- Digits with what is skipped between them. -/
  digitRun : Nat → List Char → List Char × List Char
    | 0, cs => ([], cs)
    | _ + 1, [] => ([], [])
    | fuel + 1, c :: cs =>
        if isDigit c then
          let (digits, rest) := digitRun fuel (skip flags cs)
          (c :: digits, rest)
        else ([], c :: cs)

def bounds (flags : Flags) : Reader (Nat × Option Nat) := fun cs => do
  let (min, rest) ← countNumber flags (skip flags cs)
  match rest with
  | '\x7d' :: rest => return ((min, some min), rest)
  | ',' :: rest =>
      match skip flags rest with
      | '\x7d' :: rest => return ((min, none), rest)
      | rest => do
          let (max, rest) ← countNumber flags rest
          match rest with
          | '\x7d' :: rest => if min ≤ max then return ((min, some max), rest) else none
          | _ => none
  | _ => none

/--
Read flags up to a colon or a closing parenthesis, in at most `fuel` characters,
with the letters seen before and whether they are being switched off.  The
result is the modes, whether any flag is written, and the closing character.
-/
def flagItems (flags : Flags) (seen : List Char) (off dangling : Bool) :
    Nat → Reader (Flags × Bool × Char)
  | 0, _ => none
  | _ + 1, [] => none
  | fuel + 1, c :: cs =>
      if c = ':' ∨ c = ')' then
        if dangling then none else some ((flags, !seen.isEmpty, c), cs)
      else if seen.contains c then none
      else if c = '-' then flagItems flags (c :: seen) true true fuel cs
      else if flagLetters.contains c then
        flagItems (flags.switch c !off) (c :: seen) off false fuel cs
      else none

def isNameChar (first : Bool) (c : Char) : Bool :=
  if first then c == '_' || Text.isAlphabetic c
  else c == '_' || c == '.' || c == '[' || c == ']' || Text.isAlphanumeric c

def groupName (first : Bool) : Reader (List Char)
  | [] => none
  | c :: cs =>
      if c = '>' then some ([], cs)
      else if isNameChar first c then do
        let (name, rest) ← groupName false cs
        return (c :: name, rest)
      else none

def State.open (state : State) (flags : Flags) : State :=
  { state with level := .start flags, outer := state.level :: state.outer }

/-- Open a group with a name that is neither empty nor taken. -/
def State.openNamed? (state : State) : Reader State := fun cs => do
  let (name, rest) ← groupName true cs
  if name.isEmpty ∨ state.names.contains name then none
  else return ({ state.open state.level.flags with names := name :: state.names }, rest)

def State.openGroup? (state : State) : Reader State := fun cs =>
  match skip state.level.flags cs with
  | '?' :: '=' :: _ | '?' :: '!' :: _ | '?' :: '<' :: '=' :: _ | '?' :: '<' :: '!' :: _ => none
  | '?' :: 'P' :: '<' :: cs | '?' :: '<' :: cs => state.openNamed? cs
  | '?' :: cs => do
      let ((flags, written, close), rest) ←
        flagItems state.level.flags [] false false (cs.length + 1) cs
      if close = ':' then return (state.open flags, rest)
      else if written then
        let level := { state.level with flags := flags, items := .flags :: state.level.items }
        return ({ state with level := level }, rest)
      else none
  | cs => some (state.open state.level.flags, cs)

def State.close? (state : State) : Option State :=
  match state.outer with
  | [] => none
  | level :: outer =>
      let inner := state.level.finish
      some { state with level := level.add inner.regex (inner.depth + 1), outer := outer }

def State.add (state : State) (regex : Regex) : State :=
  { state with level := state.level.add regex 0 }

def State.repeatLast? (state : State) (min : Nat) (max : Option Nat) : Option State :=
  (state.level.repeatLast? min max).map fun level => { state with level := level }

/-- Read one item of the source text, which starts with `c`. -/
def State.step? (state : State) (c : Char) : Reader State := fun cs =>
  let flags := state.level.flags
  match c with
  | '(' => state.openGroup? cs
  | ')' => state.close?.map (·, cs)
  | '|' =>
      let level := { state.level with
        items := []
        alternatives := sequence state.level.items :: state.level.alternatives }
      some ({ state with level := level }, cs)
  | '[' => do
      let (part, rest) ← bracketed flags cs
      return ({ state with level := state.level.add (.chars part.set) part.depth }, rest)
  | '?' => (state.repeatLast? 0 (some 1)).map (·, skipLazy cs)
  | '*' => (state.repeatLast? 0 none).map (·, skipLazy cs)
  | '+' => (state.repeatLast? 1 none).map (·, skipLazy cs)
  | '\x7b' => do
      let ((min, max), rest) ← bounds flags cs
      return (← state.repeatLast? min max, skipLazy (skip flags rest))
  | '.' => (dot? flags).map fun r => (state.add r, cs)
  | '^' => some (state.add (.look (startAssertion flags)), cs)
  | '$' => some (state.add (.look (endAssertion flags)), cs)
  | '\\' => do
      let (p, rest) ← escape flags cs
      return (state.add (← literalRegex? flags p), rest)
  | c => (literalRegex? flags (.literal c)).map fun r => (state.add r, cs)

def State.run? : Nat → State → List Char → Option Nested
  | 0, _, _ => none
  | fuel + 1, state, cs =>
      match skip state.level.flags cs with
      | [] => if state.outer.isEmpty then some state.level.finish else none
      | c :: cs => do
          let (state, rest) ← state.step? c cs
          State.run? fuel state rest

def depthLimit : Nat := 250

def parse? (ignoreCase : Bool) (source : List Char) : Option Regex := do
  let nested ← State.run? (source.length + 1) ⟨.start (.initial ignoreCase), [], []⟩ source
  if nested.depth ≤ depthLimit then some nested.regex else none

end Regex

end RecordQuery
