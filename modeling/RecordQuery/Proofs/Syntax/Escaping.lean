import RecordQuery.Proofs.Syntax.CanonicalTokens
import RecordQuery.Proofs.Syntax.ParserComplete

/-! # Texts between delimiters

Each character of a text can be written between delimiters in several ways: as it
is, by a short escape, or by the numbers of its UTF-16 units.  However the ways are
mixed, the lexer finds one token, and decoding gives the text back.
-/

namespace RecordQuery

namespace Literal

/-! ## Ways to write a text -/

/-- The short escapes of strings: what follows the backslash, and what it stands for. -/
def stringMarks : List (Char × Char) :=
  [('"', '"'), ('\'', '\''), ('\\', '\\'), ('/', '/'), ('b', '\x08'), ('f', '\x0c'),
    ('n', '\n'), ('r', '\r'), ('t', '\t')]

def keyMarks : List (Char × Char) :=
  [('\x60', '\x60'), ('\\', '\\'), ('/', '/'), ('b', '\x08'), ('f', '\x0c'), ('n', '\n'),
    ('r', '\r'), ('t', '\t')]

/-- The character is the hexadecimal digit of a number, small or capital. -/
def IsHexDigit (c : Char) (n : Nat) : Prop :=
  c = Nat.digitChar n ∨ c = (Nat.digitChar n).toUpper

instance (c : Char) (n : Nat) : Decidable (IsHexDigit c n) :=
  inferInstanceAs (Decidable (_ ∨ _))

/-- The characters are the four hexadecimal digits of a UTF-16 unit. -/
def IsHexUnit (digits : List Char) (unit : Nat) : Prop :=
  unit < 0x10000 ∧ List.Forall₂ IsHexDigit digits
    [unit / 0x1000, unit / 0x100 % 0x10, unit / 0x10 % 0x10, unit % 0x10]

instance (digits : List Char) (unit : Nat) : Decidable (IsHexUnit digits unit) :=
  inferInstanceAs (Decidable (_ ∧ _))

section

variable (delimiter : Char) (marks : List (Char × Char))

/-- The ways to write one character. -/
inductive Spelling (c : Char) : List Char → Prop
  /-- As it is, unless it would close or escape something. -/
  | raw (hdelimiter : c ≠ delimiter) (hbackslash : c ≠ '\\') : Spelling c [c]
  | short {mark : Char} (hmark : (mark, c) ∈ marks) : Spelling c ['\\', mark]
  | unit {digits : List Char} (hdigits : IsHexUnit digits c.toNat) :
      Spelling c ('\\' :: 'u' :: digits)
  /-- By two units, beyond those that one unit encodes. -/
  | pair {high low : List Char} (hlarge : 0x10000 ≤ c.toNat)
      (hhigh : IsHexUnit high (0xD800 + (c.toNat - 0x10000) / 0x400))
      (hlow : IsHexUnit low (0xDC00 + (c.toNat - 0x10000) % 0x400)) :
      Spelling c ('\\' :: 'u' :: (high ++ '\\' :: 'u' :: low))

/-- Every character of a text is written in one of the ways, each in its own. -/
inductive Spelled : List Char → List Char → Prop
  | nil : Spelled [] []
  | cons {c : Char} {cs piece rest : List Char} (hpiece : Spelling delimiter marks c piece)
      (hrest : Spelled cs rest) : Spelled (c :: cs) (piece ++ rest)

end

def enclosed (delimiter : Char) (body : List Char) : String :=
  String.ofList (delimiter :: (body ++ [delimiter]))

/-! ## Hexadecimal digits -/

theorem hexValue?_digitChar : ∀ n < 16, Text.hexValue? (Nat.digitChar n) = some n ∧
    Text.hexValue? (Nat.digitChar n).toUpper = some n := by
  decide

theorem IsHexDigit.hexValue? {c : Char} {n : Nat} (h : IsHexDigit c n) (hn : n < 16) :
    Text.hexValue? c = some n := by
  obtain ⟨hsmall, hcapital⟩ := hexValue?_digitChar n hn
  rcases h with rfl | rfl
  · exact hsmall
  · exact hcapital

theorem IsHexUnit.exists_digits {digits : List Char} {unit : Nat} (h : IsHexUnit digits unit) :
    ∃ a b c d, digits = [a, b, c, d] ∧ Text.hexValue? a = some (unit / 0x1000) ∧
      Text.hexValue? b = some (unit / 0x100 % 0x10) ∧
      Text.hexValue? c = some (unit / 0x10 % 0x10) ∧ Text.hexValue? d = some (unit % 0x10) := by
  obtain ⟨hunit, hdigits⟩ := h
  obtain _ | ⟨ha, hdigits⟩ := hdigits
  obtain _ | ⟨hb, hdigits⟩ := hdigits
  obtain _ | ⟨hc, hdigits⟩ := hdigits
  obtain _ | ⟨hd, hdigits⟩ := hdigits
  cases hdigits
  exact ⟨_, _, _, _, rfl, ha.hexValue? (by omega), hb.hexValue? (by omega),
    hc.hexValue? (by omega), hd.hexValue? (by omega)⟩

section

variable {digits rest : List Char} {unit : Nat}

/-- The lexer goes over the digits of a unit. -/
theorem IsHexUnit.quotedRest (h : IsHexUnit digits unit) {delimiter : Char}
    {escapable : List Char} (hdelimiter : '\\' ≠ delimiter) :
    Recognise.quotedRest delimiter escapable ('\\' :: 'u' :: (digits ++ rest)) =
      (Recognise.quotedRest delimiter escapable rest).map (· + 6) := by
  obtain ⟨a, b, c, d, rfl, ha, hb, hc, hd⟩ := h.exists_digits
  refine Recognise.quotedRest_unit hdelimiter ?_
  simp [Text.hexUnit?, ha, hb, hc, hd]

/-- The decoder reads the digits of a unit as its number. -/
theorem IsHexUnit.hexDigits (h : IsHexUnit digits unit) :
    Literal.hexDigits 4 0 (digits ++ rest) = (some unit, 4) := by
  obtain ⟨a, b, c, d, rfl, ha, hb, hc, hd⟩ := h.exists_digits
  simp only [Literal.hexDigits, List.cons_append, List.nil_append, ha, hb, hc, hd,
    Prod.mk.injEq, Option.some.injEq, and_true]
  omega

theorem IsHexUnit.length_eq (h : IsHexUnit digits unit) : digits.length = 4 := by
  obtain ⟨a, b, c, d, rfl, -⟩ := h.exists_digits
  rfl

end

/-! ## One character -/

/-- The lexer lets the marks follow a backslash, and the decoder knows what they stand for. -/
def Known (escapable : List Char) (marks : List (Char × Char)) : Prop :=
  ∀ entry ∈ marks, entry.1 ∈ escapable ∧ entry.1 ≠ 'u' ∧ shortEscape? entry.1 = some entry.2

theorem known_stringMarks : Known Recognise.stringEscapes stringMarks := by
  rw [Known]
  decide

theorem known_keyMarks : Known Recognise.keyEscapes keyMarks := by
  rw [Known]
  decide

theorem decodeFrom_append (used rest : List Char) :
    decodeFrom used.length (used ++ rest) = decodeFrom 0 rest := by
  induction used with
  | nil => rfl
  | cons c used ih =>
      rw [List.cons_append, List.length_cons, decodeFrom]
      exact ih

theorem decodeFrom_escape {cs text : List Char} {used : Nat} (h : escape cs = (text, used)) :
    decodeFrom 0 ('\\' :: cs) = text ++ decodeFrom used cs := by
  rw [decodeFrom]
  simp only [if_true, h]

theorem escape_short {mark c : Char} (hu : mark ≠ 'u') (h : shortEscape? mark = some c)
    (rest : List Char) : escape (mark :: rest) = ([c], 1) := by
  unfold escape
  split
  · rename_i heq
    cases heq
  · rename_i heq
    cases heq
    exact absurd rfl hu
  · rename_i heq
    cases heq
    rw [h]

theorem toNat_bounds (c : Char) : c.toNat < 0xD800 ∨ 0xDFFF < c.toNat ∧ c.toNat < 0x110000 :=
  c.valid

/-- No character is half of a surrogate pair. -/
theorem isSurrogate_toNat (c : Char) :
    Text.isHighSurrogate c.toNat = false ∧ Text.isLowSurrogate c.toNat = false := by
  have hbounds := toNat_bounds c
  simp only [Text.isHighSurrogate, Text.isLowSurrogate, Bool.and_eq_false_iff,
    decide_eq_false_iff_not]
  omega

theorem numericEscape_unit {digits : List Char} {c : Char} (h : IsHexUnit digits c.toNat)
    (rest : List Char) : numericEscape (digits ++ rest) = ([c], 4) := by
  obtain ⟨hhigh, hlow⟩ := isSurrogate_toNat c
  rw [numericEscape, h.hexDigits]
  simp only [hhigh, hlow, Bool.false_eq_true, if_false, Char.ofNat_toNat]

theorem surrogatePair_of_toNat {c : Char} (h : 0x10000 ≤ c.toNat) :
    Text.surrogatePair (0xD800 + (c.toNat - 0x10000) / 0x400)
      (0xDC00 + (c.toNat - 0x10000) % 0x400) = c := by
  have hnumber : 0x10000 + (0xD800 + (c.toNat - 0x10000) / 0x400 - 0xD800) * 0x400 +
      (0xDC00 + (c.toNat - 0x10000) % 0x400 - 0xDC00) = c.toNat := by omega
  rw [Text.surrogatePair, hnumber, Char.ofNat_toNat]

theorem numericEscape_pair {high low : List Char} {c : Char} (hlarge : 0x10000 ≤ c.toNat)
    (hhigh : IsHexUnit high (0xD800 + (c.toNat - 0x10000) / 0x400))
    (hlow : IsHexUnit low (0xDC00 + (c.toNat - 0x10000) % 0x400)) (rest : List Char) :
    numericEscape (high ++ ('\\' :: 'u' :: (low ++ rest))) = ([c], 10) := by
  have hbounds := toNat_bounds c
  have hfirst : Text.isHighSurrogate (0xD800 + (c.toNat - 0x10000) / 0x400) = true := by
    simp only [Text.isHighSurrogate, Bool.and_eq_true, decide_eq_true_eq]
    omega
  have hsecond : Text.isLowSurrogate (0xDC00 + (c.toNat - 0x10000) % 0x400) = true := by
    simp only [Text.isLowSurrogate, Bool.and_eq_true, decide_eq_true_eq]
    omega
  have hdrop : (high ++ ('\\' :: 'u' :: (low ++ rest))).drop 4 = '\\' :: 'u' :: (low ++ rest) :=
    List.drop_left' hhigh.length_eq
  rw [numericEscape, hhigh.hexDigits]
  simp only [hfirst, if_true, hdrop, lowSurrogate?, hlow.hexDigits, Option.filter_some, hsecond,
    surrogatePair_of_toNat hlarge]

theorem escape_unit {digits : List Char} {c : Char} (h : IsHexUnit digits c.toNat)
    (rest : List Char) : escape ('u' :: (digits ++ rest)) = ([c], 5) := by
  rw [escape, numericEscape_unit h]

theorem escape_pair {high low : List Char} {c : Char} (hlarge : 0x10000 ≤ c.toNat)
    (hhigh : IsHexUnit high (0xD800 + (c.toNat - 0x10000) / 0x400))
    (hlow : IsHexUnit low (0xDC00 + (c.toNat - 0x10000) % 0x400)) (rest : List Char) :
    escape ('u' :: (high ++ ('\\' :: 'u' :: (low ++ rest)))) = ([c], 11) := by
  rw [escape, numericEscape_pair hlarge hhigh hlow]

section

variable {delimiter : Char} {escapable : List Char} {marks : List (Char × Char)} {c : Char}
  {piece : List Char}

/-- The lexer goes over a written character as a whole. -/
theorem Spelling.quotedRest (h : Spelling delimiter marks c piece) (hknown : Known escapable marks)
    (hdelimiter : '\\' ≠ delimiter) (rest : List Char) :
    Recognise.quotedRest delimiter escapable (piece ++ rest) =
      (Recognise.quotedRest delimiter escapable rest).map (· + piece.length) := by
  cases h with
  | raw hraw hbackslash => exact Recognise.quotedRest_plain hraw hbackslash
  | short hmark =>
      obtain ⟨hescapable, hu, -⟩ := hknown _ hmark
      exact Recognise.quotedRest_escape hdelimiter hu hescapable
  | unit hdigits =>
      rw [List.cons_append, List.cons_append, hdigits.quotedRest hdelimiter, List.length_cons,
        List.length_cons, hdigits.length_eq]
  | pair _ hhigh hlow =>
      simp only [List.cons_append, List.append_assoc, List.length_cons, List.length_append,
        hhigh.length_eq, hlow.length_eq]
      rw [hhigh.quotedRest hdelimiter, hlow.quotedRest hdelimiter, Option.map_map]
      rfl

/-- A written character is decoded as that character. -/
theorem Spelling.decodeFrom (h : Spelling delimiter marks c piece)
    (hknown : Known escapable marks) (rest : List Char) :
    Literal.decodeFrom 0 (piece ++ rest) = c :: Literal.decodeFrom 0 rest := by
  cases h with
  | raw _ hbackslash =>
      rw [List.singleton_append, Literal.decodeFrom]
      exact if_neg hbackslash
  | @short mark hmark =>
      obtain ⟨-, hu, hshort⟩ := hknown _ hmark
      have hescape : escape ([mark] ++ rest) = ([c], 1) := escape_short hu hshort rest
      rw [List.cons_append, decodeFrom_escape hescape]
      exact congrArg (c :: ·) (decodeFrom_append [mark] rest)
  | @unit digits hdigits =>
      have hescape := escape_unit hdigits rest
      have hlength : ('u' :: digits).length = 5 := by rw [List.length_cons, hdigits.length_eq]
      rw [List.cons_append, List.cons_append, decodeFrom_escape hescape, ← hlength]
      exact congrArg (c :: ·) (decodeFrom_append ('u' :: digits) rest)
  | @pair high low hlarge hhigh hlow =>
      have hescape := escape_pair hlarge hhigh hlow rest
      have hlength : ('u' :: (high ++ '\\' :: 'u' :: low)).length = 11 := by
        simp [hhigh.length_eq, hlow.length_eq]
      have hused := decodeFrom_append ('u' :: (high ++ '\\' :: 'u' :: low)) rest
      simp only [List.cons_append, List.append_assoc] at hused ⊢
      rw [decodeFrom_escape hescape, ← hlength, hused]
      rfl

end

/-! ## Whole texts -/

section

variable {delimiter : Char} {escapable : List Char} {marks : List (Char × Char)}
  {cs body : List Char}

theorem Spelled.quotedRest (h : Spelled delimiter marks cs body) (hknown : Known escapable marks)
    (hdelimiter : '\\' ≠ delimiter) :
    Recognise.quotedRest delimiter escapable (body ++ [delimiter]) = some (body.length + 1) := by
  induction h with
  | nil => exact Recognise.quotedRest_delimiter
  | cons hpiece _ ih =>
      rw [List.append_assoc, hpiece.quotedRest hknown hdelimiter, ih, Option.map_some,
        List.length_append]
      exact congrArg some (by omega)

theorem Spelled.decodeFrom (h : Spelled delimiter marks cs body)
    (hknown : Known escapable marks) : Literal.decodeFrom 0 body = cs := by
  induction h with
  | nil => rfl
  | cons hpiece _ ih => rw [hpiece.decodeFrom hknown, ih]

theorem Spelled.quoted (h : Spelled delimiter marks cs body) (hknown : Known escapable marks)
    (hdelimiter : '\\' ≠ delimiter) :
    Recognise.quoted delimiter escapable (enclosed delimiter body).toList =
      some (enclosed delimiter body).toList.length := by
  rw [enclosed, String.toList_ofList, Recognise.quoted, if_pos rfl,
    h.quotedRest hknown hdelimiter]
  simp

theorem Spelled.unquote {text : String} (h : Spelled delimiter marks text.toList body)
    (hknown : Known escapable marks) : Literal.unquote (enclosed delimiter body) = text := by
  rw [Literal.unquote, enclosed, String.toList_ofList, stripDelimiters, List.tail_cons,
    List.dropLast_concat, h.decodeFrom hknown, String.ofList_toList]

/-- Between either quote it is a string, in which the other quote may stand as it is. -/
theorem Spelled.string (h : Spelled delimiter stringMarks cs body)
    (hquote : delimiter ∈ ['"', '\'']) :
    Recognise.string (enclosed delimiter body).toList =
      some (enclosed delimiter body).toList.length := by
  have hdelimiter : '\\' ≠ delimiter := by
    rintro rfl
    exact absurd hquote (by decide)
  have hquoted := h.quoted known_stringMarks hdelimiter
  rw [List.mem_cons, List.mem_singleton] at hquote
  rcases hquote with rfl | rfl
  · rw [Recognise.string, hquoted]
    rfl
  · have hother : Recognise.quoted '"' Recognise.stringEscapes (enclosed '\'' body).toList =
        none := by
      rw [enclosed, String.toList_ofList]
      rfl
    rw [Recognise.string, hother]
    exact hquoted

theorem Spelled.keyPath {text : String} (h : Spelled '\x60' keyMarks text.toList body) :
    Parse.keyPath (enclosed '\x60' body) = text := by
  have hhead : (enclosed '\x60' body).toList.head? = some '\x60' := by
    rw [enclosed, String.toList_ofList]
    rfl
  rw [Parse.keyPath, if_pos hhead, h.unquote known_keyMarks]

end

end Literal

/-- A text that is recognised as one token as a whole has no other tokens. -/
theorem tokenize_of_tokenAt? {dialect : Dialect} {text : String} {kind : TokenKind}
    (h : tokenAt? dialect text.toList = some (kind, text.toList.length)) :
    tokenize dialect text = ⟨[⟨kind, text, 0⟩], .complete text.utf8ByteSize⟩ := by
  rw [tokenize_eq_streamAt, ← List.append_nil text.toList, streamAt_lexeme (by simpa using h),
    streamAt_nil, Nat.zero_add, Text.utf8Length_eq, String.ofList_toList]
  rfl

/--
However the characters of a text are written between delimiters, the result is lexed
as one token.  Between quotes it is a string, which is decoded to the text; between
backticks it is a key, and as a query it refers to the field whose path the text is.
-/
theorem tokenize_enclosed (dialect : Dialect) (text : String) :
    (∀ quote ∈ ['"', '\''], ∀ body,
      Literal.Spelled quote Literal.stringMarks text.toList body →
        tokenize dialect (Literal.enclosed quote body) =
            ⟨[⟨.string, Literal.enclosed quote body, 0⟩],
              .complete (Literal.enclosed quote body).utf8ByteSize⟩ ∧
          Literal.unquote (Literal.enclosed quote body) = text) ∧
      ∀ body, Literal.Spelled '\x60' Literal.keyMarks text.toList body →
        tokenize dialect (Literal.enclosed '\x60' body) =
            ⟨[⟨.key, Literal.enclosed '\x60' body, 0⟩],
              .complete (Literal.enclosed '\x60' body).utf8ByteSize⟩ ∧
          Parse.keyPath (Literal.enclosed '\x60' body) = text ∧
          parse dialect (Literal.enclosed '\x60' body) = .ok (some (.field text)) := by
  refine ⟨fun quote hquote body hbody => ?_, fun body hbody => ?_⟩
  · exact ⟨tokenize_of_tokenAt? (tokenAt?_string (hbody.string hquote)),
      hbody.unquote Literal.known_stringMarks⟩
  · have hkey := hbody.quoted Literal.known_keyMarks (by decide)
    have htokens := tokenize_of_tokenAt? (@tokenAt?_key dialect _ _ hkey)
    have hpath := hbody.keyPath
    refine ⟨htokens, hpath, parse_eq_some_iff_derives.mpr ?_⟩
    have hleaf : Token.operand? ⟨.key, Literal.enclosed '\x60' body, 0⟩ =
        some (.field text) := by
      rw [Token.operand?, hpath]
    rw [htokens]
    exact ⟨⟨_, rfl⟩, .disjunct (.conjunct (.positive (.single (.bare (.leaf hleaf)))))⟩

/-- Escapes of all kinds stand side by side, with a line break and quotes of the other kind. -/
theorem tokenize_enclosed_of_mixed :
    (∃ body, Literal.Spelled '"' Literal.stringMarks "\"😀é\n'".toList body ∧
      Literal.enclosed '"' body = "\"\\\"\\uD83d\\uDE00\\u00e9\n\\'\"" ∧
      tokenize .strict (Literal.enclosed '"' body) =
        ⟨[⟨.string, Literal.enclosed '"' body, 0⟩],
          .complete (Literal.enclosed '"' body).utf8ByteSize⟩ ∧
      Literal.unquote (Literal.enclosed '"' body) = "\"😀é\n'") ∧
      ∃ body, Literal.Spelled '\x60' Literal.keyMarks "\x60/\"".toList body ∧
        Literal.enclosed '\x60' body = "\x60\\\x60\\u002F\"\x60" ∧
        parse .strict (Literal.enclosed '\x60' body) = .ok (some (.field "\x60/\"")) := by
  have hquote : ('"', '"') ∈ Literal.stringMarks := by decide
  have happostrophe : ('\'', '\'') ∈ Literal.stringMarks := by decide
  have hbacktick : ('\x60', '\x60') ∈ Literal.keyMarks := by decide
  have hpair : Literal.Spelling '"' Literal.stringMarks '😀'
      ('\\' :: 'u' :: ("D83d".toList ++ '\\' :: 'u' :: "DE00".toList)) :=
    .pair (by decide) (by decide) (by decide)
  have haccent : Literal.IsHexUnit "00e9".toList 'é'.toNat := by decide
  have hbreak : Literal.Spelling '"' Literal.stringMarks '\n' ['\n'] :=
    .raw (by decide) (by decide)
  have hslash : Literal.IsHexUnit "002F".toList '/'.toNat := by decide
  have hplain : Literal.Spelling '\x60' Literal.keyMarks '"' ['"'] :=
    .raw (by decide) (by decide)
  have hstring : Literal.Spelled '"' Literal.stringMarks "\"😀é\n'".toList _ :=
    .cons (.short hquote) (.cons hpair (.cons (.unit haccent)
      (.cons hbreak (.cons (.short happostrophe) .nil))))
  have hkey : Literal.Spelled '\x60' Literal.keyMarks "\x60/\"".toList _ :=
    .cons (.short hbacktick) (.cons (.unit hslash) (.cons hplain .nil))
  obtain ⟨htokens, htext⟩ := (tokenize_enclosed .strict _).1 '"' (by decide) _ hstring
  obtain ⟨-, -, hparse⟩ := (tokenize_enclosed .strict _).2 _ hkey
  exact ⟨⟨_, hstring, rfl, htokens, htext⟩, _, hkey, rfl, hparse⟩

end RecordQuery
