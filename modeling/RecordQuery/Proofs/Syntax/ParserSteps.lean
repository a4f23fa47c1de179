import RecordQuery.Proofs.Syntax.Grammar

/-! # Single steps of the parser

What taking a token and looking at one does, for a run that succeeds and for a
stream of known tokens.
-/

namespace RecordQuery

namespace TokenStream

/-- The token in front can be taken: no token failed to start where the tokens end. -/
def Readable (s : TokenStream) : Prop :=
  s.tokens = [] → ∃ offset, s.ending = .complete offset

/-- The tokens `used` were taken off `s`, and `s'` is left. -/
structure Reads (s : TokenStream) (used : List Token) (s' : TokenStream) : Prop where
  tokens : s.tokens = used ++ s'.tokens
  ending : s'.ending = s.ending
  readable : s.Readable → s'.Readable

theorem Reads.trans {s s' s'' : TokenStream} {ts us : List Token} (h : s.Reads ts s')
    (h' : s'.Reads us s'') : s.Reads (ts ++ us) s'' where
  tokens := by rw [h.tokens, h'.tokens, List.append_assoc]
  ending := h'.ending.trans h.ending
  readable hs := h'.readable (h.readable hs)

theorem Reads.length_eq {s s' : TokenStream} {used : List Token} (h : s.Reads used s') :
    s.tokens.length = used.length + s'.tokens.length := by
  rw [h.tokens, List.length_append]

@[simp] theorem current_cons (token : Token) (ts : List Token) (ending : Ending) :
    (⟨token :: ts, ending⟩ : TokenStream).current = token := rfl

theorem current_kind_nil (ending : Ending) :
    (⟨[], ending⟩ : TokenStream).current.kind = .endOfInput := rfl

/-- A token other than the end of input stands in front of others. -/
theorem exists_cons_of_current {s : TokenStream} {kind : TokenKind} (h : s.current.kind = kind)
    (hkind : kind ≠ .endOfInput) : ∃ ts, s.tokens = s.current :: ts := by
  obtain ⟨tokens, ending⟩ := s
  cases tokens with
  | nil => exact absurd h.symm hkind
  | cons token ts => exact ⟨ts, rfl⟩

theorem readable_cons (token : Token) (ts : List Token) (ending : Ending) :
    Readable ⟨token :: ts, ending⟩ := fun h => absurd h (List.cons_ne_nil _ _)

end TokenStream

namespace Parse

open TokenStream

variable {α β : Type} {s s' : TokenStream}

/-! ## Successful runs -/

theorem bind_eq (p : Parse α) (f : α → Parse β) (s : TokenStream) :
    (p >>= f) s = match p s with
      | .ok a middle => f a middle
      | .error error middle => .error error middle := by
  change EStateM.bind p f s = _
  unfold EStateM.bind
  cases p s <;> rfl

theorem exists_of_bind {p : Parse α} {f : α → Parse β} {b : β} (h : (p >>= f) s = .ok b s') :
    ∃ a middle, p s = .ok a middle ∧ f a middle = .ok b s' := by
  rw [bind_eq] at h
  cases hp : p s with
  | ok a middle =>
      rw [hp] at h
      exact ⟨a, middle, rfl, h⟩
  | error error middle =>
      rw [hp] at h
      cases h

theorem bind_of_ok {p : Parse α} {f : α → Parse β} {a : α} (h : p s = .ok a s') :
    (p >>= f) s = f a s' := by
  rw [bind_eq, h]

theorem bind_current (f : Token → Parse β) (s : TokenStream) :
    (current >>= f) s = f s.current s := rfl

theorem bind_remaining (f : Nat → Parse β) (s : TokenStream) :
    (remaining >>= f) s = f s.tokens.length s := rfl

theorem pure_ok {a b : α} (h : (pure a : Parse α) s = .ok b s') : b = a ∧ s' = s := by
  cases h
  exact ⟨rfl, rfl⟩

theorem unexpected_ne_ok {expected : Expected} {a : α} :
    unexpected expected s ≠ .ok a s' := by
  intro h
  simp only [unexpected, bind_current] at h
  split at h <;> cases h

/-- Taking a token that is there takes it off the front. -/
theorem advance_ok {token : Token} {kind : TokenKind} (h : advance s = .ok token s')
    (hcurrent : s.current.kind = kind) (hkind : kind ≠ .endOfInput) :
    token = s.current ∧ s.Reads [token] s' := by
  obtain ⟨ts, hts⟩ := exists_cons_of_current hcurrent hkind
  unfold advance at h
  rw [hts] at h
  dsimp only at h
  split at h
  · cases h
  · rename_i hnot
    cases h
    refine ⟨rfl, hts, rfl, fun _ hnil => ?_⟩
    cases hending : s.ending with
    | complete offset => exact ⟨offset, rfl⟩
    | failed error => exact absurd hending (hnot error hnil)

theorem expect_ok {kind : TokenKind} {expected : Expected} {token : Token}
    (h : expect kind expected s = .ok token s') (hkind : kind ≠ .endOfInput) :
    token.kind = kind ∧ s.current = token ∧ s.Reads [token] s' := by
  rw [expect, bind_current] at h
  split at h
  · rename_i hcurrent
    obtain ⟨rfl, hreads⟩ := advance_ok h hcurrent hkind
    exact ⟨hcurrent, rfl, hreads⟩
  · exact absurd h unexpected_ne_ok

theorem leaf_ok {tree tree' : Expr} {kind : TokenKind} (h : leaf tree s = .ok tree' s')
    (hcurrent : s.current.kind = kind) (hkind : kind ≠ .endOfInput) :
    tree' = tree ∧ s.Reads [s.current] s' := by
  obtain ⟨token, middle, htoken, hpure⟩ := exists_of_bind h
  obtain ⟨rfl, hreads⟩ := advance_ok htoken hcurrent hkind
  obtain ⟨rfl, rfl⟩ := pure_ok hpure
  exact ⟨rfl, hreads⟩

/-! ## Runs on known tokens -/

theorem advance_cons {token : Token} {rest : List Token} {ending : Ending}
    (hrest : Readable ⟨rest, ending⟩) :
    advance ⟨token :: rest, ending⟩ = .ok token ⟨rest, ending⟩ := by
  unfold advance
  dsimp only
  split
  · obtain ⟨offset, hoffset⟩ := hrest rfl
    cases hoffset
  · rfl

theorem bind_advance {token : Token} {rest : List Token} {ending : Ending}
    (hrest : Readable ⟨rest, ending⟩) (f : Token → Parse β) :
    (advance >>= f) ⟨token :: rest, ending⟩ = f token ⟨rest, ending⟩ :=
  bind_of_ok (advance_cons hrest)

theorem expect_cons {kind : TokenKind} {expected : Expected} {token : Token} {rest : List Token}
    {ending : Ending} (hkind : token.kind = kind) (hrest : Readable ⟨rest, ending⟩) :
    expect kind expected ⟨token :: rest, ending⟩ = .ok token ⟨rest, ending⟩ := by
  rw [expect, bind_current, current_cons, if_pos hkind]
  exact advance_cons hrest

theorem leaf_cons {tree : Expr} {token : Token} {rest : List Token} {ending : Ending}
    (hrest : Readable ⟨rest, ending⟩) :
    leaf tree ⟨token :: rest, ending⟩ = .ok tree ⟨rest, ending⟩ :=
  bind_advance hrest _

/-! ## Operands by their first token -/

theorem operandWith_leaf {array : Parse Expr} {tree : Expr} (h : s.current.operand? = some tree) :
    operandWith array s = leaf tree s := by
  rw [operandWith, bind_current]
  cases Token.denotes_of_operand? h with
  | number hkind hx => simp only [hkind, hx]
  | key hkind | string hkind | regexp hkind | boolean hkind | null hkind | now hkind =>
      simp only [hkind]

theorem operandWith_array {array : Parse Expr} (h : s.current.kind = .leftBracket) :
    operandWith array s = array s := by
  rw [operandWith, bind_current, h]

theorem operandWith_other {array : Parse Expr} (hleaf : s.current.operand? = none)
    (hbracket : s.current.kind ≠ .leftBracket) :
    ∃ expected, operandWith array s = unexpected expected s := by
  rw [operandWith, bind_current]
  unfold Token.operand? at hleaf
  cases hkind : s.current.kind <;> simp only [hkind] at hleaf ⊢ <;>
    first
      | exact ⟨_, rfl⟩
      | exact absurd hkind hbracket
      | cases hleaf
      | skip
  rw [Option.map_eq_none_iff] at hleaf
  rw [hleaf]
  exact ⟨_, rfl⟩

theorem operand?_kind_ne_end {token : Token} {tree : Expr} (h : token.operand? = some tree) :
    token.kind ≠ .endOfInput := by
  intro hkind
  simp [Token.operand?, hkind] at h

end Parse

end RecordQuery
