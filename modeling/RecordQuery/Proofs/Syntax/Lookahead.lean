import RecordQuery.Proofs.Syntax.ParserComplete
import RecordQuery.Proofs.Syntax.ParserFailures

/-! # Lookahead

The parser looks at one token only.  Where two streams have the same tokens up to
some place, their runs are alike until the token at that place is taken.  So where
a query is not read past a token, no other tokens behind that one make it a query.
-/

namespace RecordQuery

/-- Two streams that part behind a token. -/
structure Fork where
  token : Token
  left : TokenStream
  right : TokenStream

def Fork.leftFrom (fork : Fork) (pre : List Token) : TokenStream :=
  ⟨pre ++ fork.token :: fork.left.tokens, fork.left.ending⟩

def Fork.rightFrom (fork : Fork) (pre : List Token) : TokenStream :=
  ⟨pre ++ fork.token :: fork.right.tokens, fork.right.ending⟩

namespace Parse

open TokenStream

def remainder {α : Type} : EStateM.Result SyntaxError TokenStream α → List Token
  | .ok _ s | .error _ s => s.tokens

end Parse

namespace Fork

open Parse TokenStream

variable {α β : Type} {fork : Fork} {n k : Nat}

/--
The results of two runs before the fork: they leave the same tokens, at most `n`,
in front of it.  If the left run has taken the token at the fork, or no token
starts behind that one, nothing is said of the right run.
-/
inductive Alike (fork : Fork) (n : Nat) :
    EStateM.Result SyntaxError TokenStream α → EStateM.Result SyntaxError TokenStream α → Prop
  | past {result other} (h : (remainder result).length ≤ fork.left.tokens.length) :
      Alike fork n result other
  | lexical {error s other} : Alike fork n (.error (.lexical error) s) other
  | ok {pre a} (h : pre.length ≤ n) :
      Alike fork n (.ok a (fork.leftFrom pre)) (.ok a (fork.rightFrom pre))
  | error {pre error error'} (h : pre.length ≤ n) :
      Alike fork n (.error error (fork.leftFrom pre)) (.error error' (fork.rightFrom pre))

/-- The parsers never put tokens back, and do alike with less than `n` tokens before the fork. -/
structure Agrees (fork : Fork) (n : Nat) (p p' : Parse α) : Prop where
  length_le : ∀ s, (remainder (p s)).length ≤ s.tokens.length
  alike : ∀ pre, pre.length < n →
    fork.Alike pre.length (p (fork.leftFrom pre)) (p' (fork.rightFrom pre))

theorem Alike.mono {result other : EStateM.Result SyntaxError TokenStream α}
    (h : fork.Alike k result other) (hkn : k ≤ n) : fork.Alike n result other := by
  cases h with
  | past h => exact .past h
  | lexical => exact .lexical
  | ok h => exact .ok (h.trans hkn)
  | error h => exact .error (h.trans hkn)

/-- Where only the left run fails, it fails past the fork or because no token starts there. -/
theorem Alike.of_error_ok {result other : EStateM.Result SyntaxError TokenStream α}
    {error : SyntaxError} {a : α} {s s' : TokenStream} (h : fork.Alike n result other)
    (hresult : result = .error error s) (hother : other = .ok a s') :
    s.tokens.length ≤ fork.left.tokens.length ∨ ∃ lexical, error = .lexical lexical := by
  cases h with
  | past h =>
      subst hresult
      exact .inl h
  | lexical =>
      cases hresult
      exact .inr ⟨_, rfl⟩
  | ok => cases hresult
  | error => cases hother

namespace Agrees

theorem mono {p p' : Parse α} (h : fork.Agrees n p p') (hkn : k ≤ n) : fork.Agrees k p p' where
  length_le := h.length_le
  alike pre hpre := h.alike pre (hpre.trans_le hkn)

/-- Past the fork nothing matters but that no tokens are put back. -/
theorem zero {p p' other : Parse α} (h : fork.Agrees n p p') : fork.Agrees 0 p other where
  length_le := h.length_le
  alike _ hpre := absurd hpre (Nat.not_lt_zero _)

/-! ## Steps -/

theorem pure (a : α) : fork.Agrees n (pure a : Parse α) (pure a) where
  length_le _ := Nat.le_refl _
  alike _ _ := .ok (Nat.le_refl _)

theorem bind {p p' : Parse α} {f f' : α → Parse β} (h : fork.Agrees n p p')
    (hf : ∀ a, fork.Agrees n (f a) (f' a)) : fork.Agrees n (p >>= f) (p' >>= f') where
  length_le s := by
    rw [bind_eq]
    have hle := h.length_le s
    cases hp : p s with
    | ok a middle =>
        rw [hp] at hle
        exact ((hf a).length_le middle).trans hle
    | error error middle =>
        rw [hp] at hle
        exact hle
  alike pre hpre := by
    rw [bind_eq, bind_eq]
    have halike := h.alike pre hpre
    generalize p (fork.leftFrom pre) = result, p' (fork.rightFrom pre) = other at halike ⊢
    cases halike with
    | past hpast =>
        cases result with
        | ok a middle => exact .past (((hf a).length_le middle).trans hpast)
        | error error middle => exact .past hpast
    | lexical => exact .lexical
    | ok hle => exact ((hf _).alike _ (hle.trans_lt hpre)).mono hle
    | error hle => exact .error hle

theorem current_bind {f f' : Token → Parse β} (h : ∀ token, fork.Agrees n (f token) (f' token)) :
    fork.Agrees n (current >>= f) (current >>= f') where
  length_le s := (h s.current).length_le s
  alike pre hpre := by
    have hcurrent : (fork.rightFrom pre).current = (fork.leftFrom pre).current := by
      cases pre <;> rfl
    rw [bind_current, bind_current, hcurrent]
    exact (h _).alike pre hpre

theorem unexpected (expected : Expected) :
    fork.Agrees n (unexpected expected : Parse α) (Parse.unexpected expected) where
  length_le s := by
    rw [unexpected_eq]
    exact Nat.le_refl _
  alike pre _ := by
    rw [unexpected_eq, unexpected_eq]
    exact .error (Nat.le_refl _)

/-- The tokens left in front of the fork are fuel enough in both runs. -/
theorem remaining_bind {f f' : Nat → Parse β}
    (h : ∀ {k m m'}, k ≤ n → k ≤ m → k ≤ m' → fork.Agrees k (f m) (f' m')) :
    fork.Agrees n (remaining >>= f) (remaining >>= f') where
  length_le s := (h n.zero_le (Nat.zero_le _) (Nat.zero_le 0)).length_le s
  alike pre hpre := by
    have hm (ts : List Token) : pre.length + 1 ≤ (pre ++ fork.token :: ts).length := by simp
    exact (h hpre (hm _) (hm _)).alike pre (Nat.lt_succ_self _)

/-- Taking a token leaves fewer in front of the fork. -/
theorem advance_bind {f f' : Token → Parse β}
    (h : ∀ token, fork.Agrees (n - 1) (f token) (f' token)) :
    fork.Agrees n (advance >>= f) (advance >>= f') where
  length_le s := by
    obtain ⟨tokens, ending⟩ := s
    rcases tokens with - | ⟨token, - | ⟨next, rest⟩⟩
    · exact (h _).length_le _
    · cases ending with
      | complete offset => exact ((h token).length_le _).trans (Nat.zero_le _)
      | failed error => exact Nat.le_refl _
    · exact ((h token).length_le _).trans (Nat.le_succ _)
  alike pre hpre := by
    cases pre with
    | nil =>
        -- the token at the fork is taken, if the left stream goes on behind it
        obtain ⟨token, ⟨tokens, ending⟩, right⟩ := fork
        rcases tokens with - | ⟨next, rest⟩
        · cases ending with
          | complete offset => exact .past ((h token).length_le _)
          | failed error => exact .lexical
        · exact .past ((h token).length_le _)
    | cons token pre =>
        have hreadable (ts : List Token) (ending : Ending) :
            Readable ⟨pre ++ fork.token :: ts, ending⟩ := fun hnil => by simp at hnil
        simp only [leftFrom, rightFrom, List.cons_append]
        rw [bind_advance (hreadable _ _), bind_advance (hreadable _ _)]
        simp only [List.length_cons] at hpre
        exact ((h token).alike pre (by omega)).mono (Nat.le_succ _)

theorem advance : fork.Agrees n advance Parse.advance := by
  have h : fork.Agrees n (Parse.advance >>= Pure.pure) (Parse.advance >>= Pure.pure) :=
    advance_bind pure
  rwa [bind_pure] at h

theorem expect (kind : TokenKind) (expected : Expected) :
    fork.Agrees n (expect kind expected) (Parse.expect kind expected) :=
  current_bind fun token => by
    split
    · exact advance
    · exact unexpected expected

/--
Two families of loops agree where their fuel covers the tokens in front of the
fork, if a round of both takes one of these.
-/
theorem of_fuel {ι : Type} (p p' : ι → Nat → Parse α)
    (hzero : ∀ i, fork.Agrees 0 (p i 0) (p i 0))
    (hsucc : ∀ {k m m'}, k ≤ n → (∀ i, fork.Agrees (k - 1) (p i m) (p' i m')) →
      ∀ i, fork.Agrees k (p i (m + 1)) (p' i (m' + 1)))
    {m m' : Nat} (hm : n ≤ m) (hm' : n ≤ m') (i : ι) : fork.Agrees n (p i m) (p' i m') := by
  suffices h : ∀ k m', k ≤ n → k ≤ m → k ≤ m' → ∀ i, fork.Agrees k (p i m) (p' i m') from
    h n m' (Nat.le_refl _) hm hm' i
  clear hm hm' i m'
  induction m with
  | zero =>
      intro k m' _ hk _ i
      obtain rfl := Nat.le_zero.mp hk
      exact (hzero i).zero
  | succ m ih =>
      intro k m' hkn hk hk' i
      cases m' with
      | zero =>
          -- the fork is passed, so any fuel does on the right
          obtain rfl := Nat.le_zero.mp hk'
          exact (hsucc hkn (ih 0 0 hkn (Nat.zero_le _) (Nat.zero_le _)) i).zero
      | succ m' => exact hsucc hkn (ih (k - 1) m' (by omega) (by omega) (by omega)) i

/-! ## Operands -/

theorem leaf (tree : Expr) : fork.Agrees n (leaf tree) (Parse.leaf tree) :=
  advance.bind fun _ => pure tree

theorem operandWith {array array' : Parse Expr} (harray : fork.Agrees n array array') :
    fork.Agrees n (operandWith array) (Parse.operandWith array') := by
  refine current_bind fun token => ?_
  cases token.kind with
  | leftBracket => exact harray
  | key | string | regexp | boolean | null | now => exact leaf _
  | number =>
      dsimp only
      split
      · exact leaf _
      · exact unexpected _
  | _ => exact unexpected _

theorem items {item item' : Parse Expr} (hitem : fork.Agrees n item item') {m m' : Nat}
    (hm : n ≤ m) (hm' : n ≤ m') : fork.Agrees n (items item m) (Parse.items item' m') := by
  refine of_fuel (fun _ : Unit => Parse.items item) (fun _ => Parse.items item') (fun _ => ?_)
    (fun hk ih _ => ?_) hm hm' ()
  · exact hitem.zero.bind fun tree => pure _
  · refine (hitem.mono hk).bind fun tree => current_bind fun token => ?_
    split
    · exact advance_bind fun _ => (ih ()).bind fun _ => pure _
    · exact (expect _ _).bind fun _ => pure _

theorem arrayRest {item item' : Parse Expr} (hitem : fork.Agrees n item item') :
    fork.Agrees n (arrayRest item) (Parse.arrayRest item') := by
  refine current_bind fun token => ?_
  split
  · exact advance.bind fun _ => pure _
  · exact remaining_bind fun hk hm hm' => (items (hitem.mono hk) hm hm').bind fun _ => pure _

theorem operandWithin {depth depth' : Nat} (h : n ≤ depth) (h' : n ≤ depth') :
    fork.Agrees n (operandWithin depth) (Parse.operandWithin depth') := by
  refine of_fuel (fun _ : Unit => Parse.operandWithin) (fun _ => Parse.operandWithin)
    (fun _ => ?_) (fun _ ih _ => ?_) h h' ()
  · exact operandWith (unexpected _)
  · exact operandWith (advance_bind fun _ => arrayRest (ih ()))

theorem operand : fork.Agrees n operand Parse.operand :=
  remaining_bind fun _ => operandWithin

/-! ## Conditions -/

theorem rightOperand (op : Comparison) :
    fork.Agrees n (rightOperand op) (Parse.rightOperand op) := by
  cases op with
  | «matches» | like => exact (expect _ _).bind fun _ => pure _
  | within =>
      refine current_bind fun token => ?_
      cases token.kind with
      | leftBracket | string | key => exact operand
      | _ => exact unexpected _
  | equal | notEqual | less | lessEqual | greater | greaterEqual | contains => exact operand

theorem condition : fork.Agrees n condition Parse.condition := by
  refine operand.bind fun left => current_bind fun token => ?_
  dsimp only
  cases comparison? token.kind with
  | some op => exact advance.bind fun _ => (rightOperand op).bind fun _ => pure _
  | none =>
      dsimp only
      split
      · exact pure left
      · exact unexpected _

/-! ## Connectives -/

section

variable {nested nested' : Parse Expr}

theorem primary (hnested : fork.Agrees (n - 1) nested nested') :
    fork.Agrees n (primary nested) (Parse.primary nested') := by
  refine current_bind fun token => ?_
  split
  · exact advance_bind fun _ => hnested.bind fun inner => (expect _ _).bind fun _ => pure inner
  · exact condition

theorem unary (hnested : fork.Agrees (n - 1) nested nested') :
    fork.Agrees n (unary nested) (Parse.unary nested') := by
  refine current_bind fun token => ?_
  split
  · exact advance.bind fun _ => (primary hnested).bind fun _ => pure _
  · exact primary hnested

theorem chain {kind : TokenKind} {op : Connective} {item item' : Parse Expr}
    (hitem : fork.Agrees n item item') {m m' : Nat} (hm : n ≤ m) (hm' : n ≤ m') (left : Expr) :
    fork.Agrees n (chain kind op item m left) (Parse.chain kind op item' m' left) := by
  refine of_fuel (fun left m => Parse.chain kind op item m left)
    (fun left m => Parse.chain kind op item' m left) pure (fun hk ih left => ?_) hm hm' left
  refine current_bind fun token => ?_
  split
  · have hitem' := hitem.mono ((Nat.sub_le _ 1).trans hk)
    exact advance_bind fun _ => hitem'.bind fun right => ih _
  · exact pure left

theorem conjunction (hnested : fork.Agrees (n - 1) nested nested') :
    fork.Agrees n (conjunction nested) (Parse.conjunction nested') :=
  (unary hnested).bind fun first => remaining_bind fun hk hm hm' =>
    chain ((unary hnested).mono hk) hm hm' first

theorem disjunction (hnested : fork.Agrees (n - 1) nested nested') :
    fork.Agrees n (disjunction nested) (Parse.disjunction nested') :=
  (conjunction hnested).bind fun first => remaining_bind fun hk hm hm' =>
    chain ((conjunction hnested).mono hk) hm hm' first

end

theorem queryWithin {depth depth' : Nat} (h : n ≤ depth) (h' : n ≤ depth') :
    fork.Agrees n (queryWithin depth) (Parse.queryWithin depth') :=
  of_fuel (fun _ : Unit => Parse.queryWithin) (fun _ => Parse.queryWithin)
    (fun _ => unexpected _) (fun _ ih _ => disjunction (ih ())) h h' ()

theorem query : fork.Agrees n query Parse.query := by
  refine current_bind fun token => ?_
  split
  · exact pure none
  · exact remaining_bind fun _ hm hm' =>
      (queryWithin (Nat.le_succ_of_le hm) (Nat.le_succ_of_le hm')).bind fun tree =>
        (expect _ _).bind fun _ => pure _

end Agrees

end Fork

/-! ## The first fault -/

/-- The token at which reading a query fails stands there in no query. -/
theorem not_begins_of_query_error {used rest : List Token} {token : Token} {ending : Ending}
    {error : SyntaxError}
    (h : Parse.query ⟨used ++ token :: rest, ending⟩ = .error error ⟨token :: rest, ending⟩)
    (herror : ∀ lexical, error ≠ .lexical lexical) :
    ¬ Begins Symbol.query.Phrase (used ++ [token]) := by
  rintro ⟨more, tree, hderives⟩
  rw [List.append_assoc] at hderives
  let fork : Fork := ⟨token, ⟨rest, ending⟩, ⟨more, .complete 0⟩⟩
  have hagrees : fork.Agrees (used.length + 1) Parse.query Parse.query := .query
  have halike := hagrees.alike used (Nat.lt_succ_self _)
  rcases halike.of_error_ok h (Parse.query_complete hderives) with hle | ⟨lexical, hlexical⟩
  · exact absurd hle (Nat.not_succ_le_self _)
  · exact herror lexical hlexical

/--
The error is the first fault of a stream: the tokens in front of it begin a
query, and none begins with them and the token that is at fault.
-/
inductive TokenStream.FirstFault (s : TokenStream) : SyntaxError → Prop
  | token {read rest : List Token} {token : Token} {expected : Expected}
      (htokens : s.tokens = read ++ token :: rest) (hread : Begins Symbol.query.Phrase read)
      (htoken : ¬ Begins Symbol.query.Phrase (read ++ [token])) :
      FirstFault s (.unexpectedToken expected token)
  | lexical {error : LexError} (hending : s.ending = .failed error)
      (htokens : Begins Symbol.query.Phrase s.tokens) : FirstFault s (.lexical error)
  | ending {offset : Nat} {expected : Expected} (hending : s.ending = .complete offset)
      (htokens : Begins Symbol.query.Phrase s.tokens) : FirstFault s (.unexpectedEnd expected)

theorem Parse.query_error {s s' : TokenStream} {error : SyntaxError}
    (hkinds : ∀ token ∈ s.tokens, token.kind ≠ .endOfInput) (hs : s.Readable)
    (h : query s = .error error s') : s.FirstFault error := by
  obtain ⟨tokens, ending⟩ := s
  cases query_fails hkinds error s' h with
  | unexpected expected hreads hused =>
      rename_i used
      obtain ⟨rest, ending'⟩ := s'
      obtain rfl : ending' = ending := hreads.ending
      obtain rfl : tokens = used ++ rest := hreads.tokens
      cases rest with
      | nil =>
          obtain ⟨offset, hoffset⟩ := hreads.readable hs rfl
          exact .ending hoffset (by rwa [List.append_nil])
      | cons token rest =>
          have hkind : token.kind ≠ .endOfInput := hkinds token (by simp)
          have herror : unexpectedAt expected token = .unexpectedToken expected token :=
            if_neg hkind
          rw [TokenStream.current_cons, herror] at h ⊢
          exact .token rfl hused (not_begins_of_query_error h nofun)
  | lexical hreads hlast hending hused =>
      have htokens := hreads.tokens
      rw [hlast] at htokens
      exact .lexical (hreads.ending ▸ hending) (htokens ▸ hused)

/-- A syntax error reports the first fault of the text. -/
theorem parse_error_firstFault {dialect : Dialect} {text : String} {error : SyntaxError}
    (h : parse dialect text = .error error) : (tokenize dialect text).FirstFault error := by
  have hkinds : ∀ token ∈ (tokenize dialect text).tokens, token.kind ≠ .endOfInput :=
    fun token htoken => (Lexer.lexed_of_mem_stream htoken).kind_ne_end
  unfold parse at h
  generalize tokenize dialect text = stream at h hkinds
  obtain ⟨tokens, ending⟩ := stream
  cases tokens with
  | nil =>
      cases ending with
      | complete offset => cases h
      | failed fault =>
          cases h
          exact .lexical rfl (Symbol.begins_nil .query)
  | cons token rest =>
      have hreadable := TokenStream.readable_cons token rest ending
      rw [TokenStream.opened_of_readable hreadable] at h
      simp only [bind, Except.bind] at h
      cases hrun : Parse.query.run ⟨token :: rest, ending⟩ with
      | ok tree s =>
          rw [hrun] at h
          cases h
      | error fault s =>
          rw [hrun] at h
          cases h
          exact Parse.query_error hkinds hreadable hrun

/-- Parentheses may stand around a condition, but not around an operand. -/
theorem parse_error_firstFault_of_nested :
    parse .extended "a == (b)" = .error (.unexpectedToken .operand ⟨.leftParen, "(", 5⟩) ∧
      (tokenize .extended "a == (b)").FirstFault
        (.unexpectedToken .operand ⟨.leftParen, "(", 5⟩) := by
  have h : parse .extended "a == (b)" =
      .error (.unexpectedToken .operand ⟨.leftParen, "(", 5⟩) := by cbv
  exact ⟨h, parse_error_firstFault h⟩

end RecordQuery
