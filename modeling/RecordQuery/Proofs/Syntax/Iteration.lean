import RecordQuery.Proofs.Syntax.Tokenization

/-! # Iteration over tokens

Iteration yields the tokens of a text and then how they end, and nothing more.
The tokens stand in the text at their offsets, one behind the other with white
space between them, up to the end or to a character where no token starts.
-/

namespace RecordQuery

/-! ## Runs of the iterator -/

def Ending.result : Ending → Except LexError Token
  | .complete offset => .ok ⟨.endOfInput, "", offset⟩
  | .failed error => .error error

def Ending.offset : Ending → Nat
  | .complete offset => offset
  | .failed error => error.offset

namespace TokenStream

/-- What iteration yields for a stream: its tokens, and how they end. -/
def results (s : TokenStream) : List (Except LexError Token) :=
  s.tokens.map .ok ++ [s.ending.result]

def offsets (s : TokenStream) : List Nat :=
  s.tokens.map (·.offset) ++ [s.ending.offset]

theorem results_prepend (token : Token) (s : TokenStream) :
    (s.prepend [token]).results = .ok token :: s.results := rfl

theorem offsets_prepend (token : Token) (s : TokenStream) :
    (s.prepend [token]).offsets = token.offset :: s.offsets := rfl

theorem exists_cons_of_results (s : TokenStream) : ∃ result results,
    s.results = result :: results := by
  obtain ⟨tokens, ending⟩ := s
  cases tokens with
  | nil => exact ⟨_, _, rfl⟩
  | cons token tokens => exact ⟨_, _, rfl⟩

end TokenStream

namespace Lexer

/-- Iteration yields the results one after another, and leaves the last lexer. -/
inductive Yields : Lexer → List (Except LexError Token) → Lexer → Prop
  | nil (lexer : Lexer) : Yields lexer [] lexer
  | cons {lexer middle last : Lexer} {result : Except LexError Token}
      {results : List (Except LexError Token)} (h : lexer.next? = (some result, middle))
      (hrest : Yields middle results last) : Yields lexer (result :: results) last

/-- Iteration that has ended yields nothing. -/
theorem next?_of_finished {lexer : Lexer} (h : lexer.finished = true) :
    lexer.next? = (none, lexer) :=
  if_pos h

section

variable {dialect : Dialect} {cs : List Char} {offset : Nat}

theorem next?_nil : next? ⟨dialect, [], offset, false⟩ =
    (some (.ok ⟨.endOfInput, "", offset⟩), ⟨dialect, [], offset, true⟩) := rfl

theorem next?_space {c : Char} (hc : Text.isWhiteSpace c = true) :
    next? ⟨dialect, c :: cs, offset, false⟩ =
      next? ⟨dialect, cs, offset + c.utf8Size, false⟩ := by
  rw [next?, next?, nextToken_space hc]
  rfl

theorem next?_token {kind : TokenKind} {n : Nat} (h : tokenAt? dialect cs = some (kind, n)) :
    next? ⟨dialect, cs, offset, false⟩ = (some (.ok ⟨kind, String.ofList (cs.take n), offset⟩),
      ⟨dialect, cs.drop n, offset + Text.utf8Length (cs.take n), false⟩) := by
  have hlast : isLast (.ok ⟨kind, String.ofList (cs.take n), offset⟩) = false :=
    decide_eq_false (tokenAt?_kind_ne_end h)
  rw [next?, if_neg Bool.false_ne_true, nextToken_token h]
  simp only [hlast]

theorem next?_failed {c : Char} (hc : Text.isWhiteSpace c = false)
    (h : tokenAt? dialect (c :: cs) = none) : next? ⟨dialect, c :: cs, offset, false⟩ =
      (some (.error ⟨offset, c⟩), ⟨dialect, c :: cs, offset, true⟩) := by
  rw [next?, if_neg Bool.false_ne_true, nextToken_failed hc h]
  rfl

/-- A step that two lexers have in common is the first of all that they yield. -/
theorem Yields.of_next?_eq {lexer lexer' last : Lexer} {result : Except LexError Token}
    {results : List (Except LexError Token)} (hnext : lexer'.next? = lexer.next?)
    (h : lexer.Yields (result :: results) last) : lexer'.Yields (result :: results) last := by
  cases h with
  | cons hfirst hrest => exact .cons (hnext.trans hfirst) hrest

end

/-- Iteration yields the stream of a text and has ended then. -/
theorem exists_yields_streamAt (dialect : Dialect) (offset : Nat) (cs : List Char) :
    ∃ last, Yields ⟨dialect, cs, offset, false⟩ (streamAt dialect offset cs).results last ∧
      last.finished = true := by
  induction cs using lexing_induction dialect generalizing offset with
  | nil => exact ⟨_, .cons next?_nil (.nil _), rfl⟩
  | space c cs hc ih =>
      obtain ⟨last, hyields, hfinished⟩ := ih (offset + c.utf8Size)
      obtain ⟨result, results, hresults⟩ :=
        (streamAt dialect (offset + c.utf8Size) cs).exists_cons_of_results
      rw [hresults] at hyields
      rw [streamAt_space hc, hresults]
      exact ⟨last, hyields.of_next?_eq (next?_space hc), hfinished⟩
  | token cs kind n hat ih =>
      obtain ⟨last, hyields, hfinished⟩ := ih (offset + Text.utf8Length (cs.take n))
      rw [streamAt_token hat, TokenStream.results_prepend]
      exact ⟨last, .cons (next?_token hat) hyields, hfinished⟩
  | failed c cs hc hat =>
      rw [streamAt_failed hc hat]
      exact ⟨_, .cons (next?_failed hc hat) (.nil _), rfl⟩

end Lexer

/-! ## Places in a text -/

/-- The piece is the slice of the text at a byte offset, with both ends between characters. -/
def StandsAt (text : String) (offset : Nat) (piece : String) : Prop :=
  ∃ before after, text = before ++ piece ++ after ∧ before.utf8ByteSize = offset

theorem standsAt_ofList {text : String} {before piece after : List Char}
    (h : text.toList = before ++ piece ++ after) :
    StandsAt text (Text.utf8Length before) (String.ofList piece) := by
  refine ⟨String.ofList before, String.ofList after, ?_, (Text.utf8Length_eq before).symm⟩
  rw [← String.ofList_append, ← String.ofList_append, ← h, String.ofList_toList]

/-- Between two byte offsets the text has nothing but white space. -/
def BlankBetween (text : String) (start stop : Nat) : Prop :=
  ∃ gap, StandsAt text start gap ∧ start + gap.utf8ByteSize = stop ∧
    ∀ c ∈ gap.toList, Text.isWhiteSpace c = true

theorem blankBetween_of_gap {text : String} {before gap after : List Char}
    (h : text.toList = before ++ gap ++ after) (hgap : ∀ c ∈ gap, Text.isWhiteSpace c = true) :
    BlankBetween text (Text.utf8Length before) (Text.utf8Length (before ++ gap)) := by
  refine ⟨String.ofList gap, standsAt_ofList h, ?_, ?_⟩
  · rw [Text.utf8Length_append, Text.utf8Length_eq gap]
  · rwa [String.toList_ofList]

/-! ## Nothing is lost -/

/-- The byte offset behind tokens that were looked for from `start` on. -/
def endOf (start : Nat) : List Token → Nat
  | [] => start
  | token :: tokens => endOf (token.offset + token.lexeme.utf8ByteSize) tokens

/-- The byte offset of the next token, or at which the tokens end. -/
def TokenStream.start : TokenStream → Nat
  | ⟨[], ending⟩ => ending.offset
  | ⟨token :: _, _⟩ => token.offset

/-- From `start` on the stream accounts for each character of the text. -/
structure TokenStream.Covers (text : String) (start : Nat) (s : TokenStream) : Prop where
  offsets_lt : s.offsets.Pairwise (· < ·)
  lexemes : ∀ token ∈ s.tokens, token.kind ≠ .endOfInput ∧ token.lexeme ≠ "" ∧
    StandsAt text token.offset token.lexeme
  gaps : ∀ read unread, s.tokens = read ++ unread →
    BlankBetween text (endOf start read) (TokenStream.start ⟨unread, s.ending⟩)
  complete : ∀ offset, s.ending = .complete offset → offset = text.utf8ByteSize
  failed : ∀ error, s.ending = .failed error → Text.isWhiteSpace error.found = false ∧
    StandsAt text error.offset (String.singleton error.found)

namespace TokenStream

variable {text : String} {start : Nat}

theorem gaps_nil {ending : Ending} (h : BlankBetween text start ending.offset) :
    ∀ read unread, [] = read ++ unread →
      BlankBetween text (endOf start read) (TokenStream.start ⟨unread, ending⟩) := by
  intro read unread hsplit
  obtain ⟨rfl, rfl⟩ := List.append_eq_nil_iff.mp hsplit.symm
  exact h

theorem covers_complete (h : BlankBetween text start text.utf8ByteSize) :
    Covers text start ⟨[], .complete text.utf8ByteSize⟩ where
  offsets_lt := List.pairwise_singleton _ _
  lexemes := List.forall_mem_nil _
  gaps := gaps_nil h
  complete offset hoffset := by cases hoffset; rfl
  failed := nofun

theorem covers_failed {error : LexError} (h : BlankBetween text start error.offset)
    (hspace : Text.isWhiteSpace error.found = false)
    (hfound : StandsAt text error.offset (String.singleton error.found)) :
    Covers text start ⟨[], .failed error⟩ where
  offsets_lt := List.pairwise_singleton _ _
  lexemes := List.forall_mem_nil _
  gaps := gaps_nil h
  complete := nofun
  failed other hother := by cases hother; exact ⟨hspace, hfound⟩

namespace Covers

variable {s : TokenStream}

theorem start_le (h : s.Covers text start) : start ≤ s.start := by
  obtain ⟨gap, -, hstop, -⟩ := h.gaps [] s.tokens rfl
  exact hstop ▸ Nat.le_add_right _ _

theorem start_le_of_mem (h : s.Covers text start) {offset : Nat} (hmem : offset ∈ s.offsets) :
    start ≤ offset := by
  have hstart := h.start_le
  have hlt := h.offsets_lt
  obtain ⟨tokens, ending⟩ := s
  cases tokens with
  | nil =>
      cases List.mem_singleton.mp hmem
      exact hstart
  | cons token tokens =>
      obtain ⟨hfirst, -⟩ := List.pairwise_cons.mp hlt
      rcases List.mem_cons.mp hmem with rfl | hmem
      · exact hstart
      · exact hstart.trans (hfirst offset hmem).le

/-- A token in front of what follows its lexeme. -/
theorem prepend {token : Token} (hgap : BlankBetween text start token.offset)
    (hkind : token.kind ≠ .endOfInput) (hlexeme : token.lexeme ≠ "")
    (hstands : StandsAt text token.offset token.lexeme)
    (h : s.Covers text (token.offset + token.lexeme.utf8ByteSize)) :
    (s.prepend [token]).Covers text start where
  offsets_lt := by
    rw [offsets_prepend, List.pairwise_cons]
    refine ⟨fun offset hmem => ?_, h.offsets_lt⟩
    have hle := h.start_le_of_mem hmem
    have hsize : token.lexeme.utf8ByteSize ≠ 0 := fun hzero =>
      hlexeme (String.utf8ByteSize_eq_zero_iff.mp hzero)
    omega
  lexemes := List.forall_mem_cons.mpr ⟨⟨hkind, hlexeme, hstands⟩, h.lexemes⟩
  gaps read unread hsplit := by
    cases read with
    | nil =>
        cases hsplit
        exact hgap
    | cons first read =>
        obtain ⟨rfl, hrest⟩ := List.cons.inj hsplit
        exact h.gaps read unread hrest
  complete := h.complete
  failed := h.failed

end Covers

end TokenStream

/-- The stream behind some of a text and behind a gap accounts for the rest of the text. -/
theorem covers_streamAt (dialect : Dialect) {text : String} {before gap cs : List Char}
    (htext : text.toList = before ++ gap ++ cs)
    (hgap : ∀ c ∈ gap, Text.isWhiteSpace c = true) :
    (streamAt dialect (Text.utf8Length (before ++ gap)) cs).Covers text
      (Text.utf8Length before) := by
  -- the gap grows by white space, and is empty again behind a token
  induction cs using lexing_induction dialect generalizing before gap with
  | nil =>
      have hend : Text.utf8Length (before ++ gap) = text.utf8ByteSize := by
        rw [Text.utf8Length_eq, ← List.append_nil (before ++ gap), ← htext, String.ofList_toList]
      have hblank := blankBetween_of_gap htext hgap
      rw [hend] at hblank
      rw [streamAt_nil, hend]
      exact TokenStream.covers_complete hblank
  | space c cs hc ih =>
      have hlonger : text.toList = before ++ (gap ++ [c]) ++ cs := by simp [htext]
      have hspaces : ∀ d ∈ gap ++ [c], Text.isWhiteSpace d = true := by
        rw [List.forall_mem_append, List.forall_mem_singleton]
        exact ⟨hgap, hc⟩
      have hcovers := ih hlonger hspaces
      rw [← List.append_assoc, Text.utf8Length_append, Text.utf8Length_cons, Text.utf8Length_nil,
        Nat.add_zero] at hcovers
      rw [streamAt_space hc]
      exact hcovers
  | token cs kind n hat ih =>
      obtain ⟨hpos, hle⟩ := tokenAt?_bounds hat
      have hsplit : text.toList = before ++ gap ++ cs.take n ++ cs.drop n := by
        rw [List.append_assoc, List.take_append_drop, htext]
      have hrest : text.toList = before ++ gap ++ cs.take n ++ [] ++ cs.drop n := by
        rw [List.append_nil, hsplit]
      have hcovers := ih hrest (List.forall_mem_nil _)
      rw [List.append_nil, Text.utf8Length_append, Text.utf8Length_eq (cs.take n)] at hcovers
      have hlexeme : String.ofList (cs.take n) ≠ "" := by
        intro hempty
        have hlength := congrArg (·.toList.length) hempty
        simp only [String.toList_ofList, List.length_take, String.toList_empty,
          List.length_nil] at hlength
        omega
      rw [streamAt_token hat, Text.utf8Length_eq (cs.take n)]
      exact hcovers.prepend (blankBetween_of_gap htext hgap) (tokenAt?_kind_ne_end hat) hlexeme
        (standsAt_ofList hsplit)
  | failed c cs hc hat =>
      have hfound : text.toList = before ++ gap ++ [c] ++ cs := by simp [htext]
      have hstands := standsAt_ofList hfound
      rw [← String.singleton_eq_ofList] at hstands
      rw [streamAt_failed hc hat]
      exact TokenStream.covers_failed (blankBetween_of_gap htext hgap) hc hstands

/--
Iteration over a text yields its tokens and then either the end of input or an
error, and nothing more.  The tokens stand in the text at their offsets, with only
white space in front of each and in front of the end or the error.
-/
theorem iteration_covers (dialect : Dialect) (text : String) :
    (∃ last, (Lexer.ofText dialect text).Yields (tokenize dialect text).results last ∧
      last.next? = (none, last)) ∧
      (tokenize dialect text).Covers text 0 := by
  constructor
  · obtain ⟨last, hyields, hfinished⟩ := Lexer.exists_yields_streamAt dialect 0 text.toList
    exact ⟨last, hyields, Lexer.next?_of_finished hfinished⟩
  · have hfront : text.toList = [] ++ [] ++ text.toList := rfl
    exact covers_streamAt dialect hfront (List.forall_mem_nil _)

end RecordQuery
