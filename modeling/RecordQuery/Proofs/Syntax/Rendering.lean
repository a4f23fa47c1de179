import RecordQuery.Proofs.Syntax.CanonicalTokens
import RecordQuery.Proofs.Syntax.Grammar

/-! # Reading canonical text

A piece of canonical text is read as tokens of its own, unless a regular
expression in it reaches on to a slash that stands further behind.  Pieces are
joined, and the tokens of a tree derive the tree again.
-/

namespace RecordQuery

namespace Expr

mutual

/-- The regular expressions of a tree from left to right. -/
def regexps : Expr → List String
  | .regexp raw => [raw]
  | .array items => itemRegexps items
  | .not operand => regexps operand
  | .comparison _ left right => regexps left ++ regexps right
  | .logical _ left right => regexps left ++ regexps right
  | _ => []

def itemRegexps : List Expr → List String
  | [] => []
  | item :: items => regexps item ++ itemRegexps items

end

mutual

/-- The regular expressions of a tree, each with the canonical text behind it. -/
def regexpsBefore (after : List Char) : Expr → List (String × List Char)
  | .regexp raw => [(raw, after)]
  | .array items => itemRegexpsBefore (']' :: after) items
  | .not operand => regexpsBefore (')' :: after) operand
  | .comparison op left right =>
      regexpsBefore (' ' :: (op.symbol.toList ++ ' ' :: (right.canonicalChars ++ after))) left ++
        regexpsBefore after right
  | .logical op left right =>
      regexpsBefore (' ' :: (op.symbol.toList ++ ' ' :: (right.canonicalChars ++ ')' :: after)))
          left ++
        regexpsBefore (')' :: after) right
  | _ => []

def itemRegexpsBefore (after : List Char) : List Expr → List (String × List Char)
  | [] => []
  | [item] => regexpsBefore after item
  | item :: items =>
      regexpsBefore (',' :: ' ' :: (canonicalItems items ++ after)) item ++
        itemRegexpsBefore after items

end

mutual

theorem map_fst_regexpsBefore (after : List Char) (tree : Expr) :
    (tree.regexpsBefore after).map Prod.fst = tree.regexps := by
  cases tree with
  | regexp => simp [regexpsBefore, regexps]
  | array items => simp [regexpsBefore, regexps, map_fst_itemRegexpsBefore]
  | not operand => simp [regexpsBefore, regexps, map_fst_regexpsBefore]
  | comparison | logical => simp [regexpsBefore, regexps, map_fst_regexpsBefore]
  | number | boolean | null | now | string | field => simp [regexpsBefore, regexps]

theorem map_fst_itemRegexpsBefore (after : List Char) (items : List Expr) :
    (itemRegexpsBefore after items).map Prod.fst = itemRegexps items := by
  match items with
  | [] => simp [itemRegexpsBefore, itemRegexps]
  | [item] => simp [itemRegexpsBefore, itemRegexps, map_fst_regexpsBefore]
  | item :: next :: items =>
      rw [itemRegexpsBefore, List.map_append, map_fst_regexpsBefore, map_fst_itemRegexpsBefore]
      · exact (itemRegexps.eq_2 item (next :: items)).symm
      · exact List.cons_ne_nil _ _

end

end Expr

def tokenRegexps (ts : List Token) : List String :=
  (ts.filter (·.kind = .regexp)).map (·.lexeme)

@[simp] theorem tokenRegexps_append (ts us : List Token) :
    tokenRegexps (ts ++ us) = tokenRegexps ts ++ tokenRegexps us := by
  simp [tokenRegexps]

theorem tokenRegexps_singleton {token : Token} (h : token.kind ≠ .regexp) :
    tokenRegexps [token] = [] := by
  simp [tokenRegexps, h]

/-- No regular expression can reach beyond its own end. -/
def Closed (contexts : List (String × List Char)) : Prop :=
  ∀ context ∈ contexts, ¬ Recognise.SlashAhead '/' context.2

theorem closed_append {contexts contexts' : List (String × List Char)} :
    Closed (contexts ++ contexts') ↔ Closed contexts ∧ Closed contexts' :=
  List.forall_mem_append

/--
Every regular expression is closed, or at least the tokens of the text start
with the expected ones.
-/
def Clear (offset : Nat) (text : List Char) (contexts : List (String × List Char)) : Prop :=
  Closed contexts ∨
    ∃ more, tokenRegexps (streamAt .extended offset text).tokens = contexts.map Prod.fst ++ more

namespace Clear

variable {offset offset' : Nat} {text rest : List Char}
  {contexts contexts' : List (String × List Char)}

theorem left (h : Clear offset text (contexts ++ contexts')) : Clear offset text contexts := by
  rcases h with hclosed | ⟨more, hmore⟩
  · exact Or.inl (closed_append.mp hclosed).1
  · rw [List.map_append, List.append_assoc] at hmore
    exact Or.inr ⟨_, hmore⟩

theorem right {us : List Token} (h : Clear offset text (contexts ++ contexts'))
    (hstream : streamAt .extended offset text = (streamAt .extended offset' rest).prepend us)
    (hus : tokenRegexps us = contexts.map Prod.fst) : Clear offset' rest contexts' := by
  rcases h with hclosed | ⟨more, hmore⟩
  · exact Or.inl (closed_append.mp hclosed).2
  · refine Or.inr ⟨more, ?_⟩
    rw [hstream, TokenStream.prepend, tokenRegexps_append, hus, List.map_append,
      List.append_assoc] at hmore
    exact List.append_cancel_left hmore

end Clear

/--
In front of `after` the text `cs` is read as tokens with the given property and
with the given regular expressions, if these are closed.  Only then are the
tokens those that were expected.
-/
def Renders (cs : List Char) (contexts : List (String × List Char)) (after : List Char)
    (property : List Token → Prop) : Prop :=
  ∀ offset, Clear offset (cs ++ after) contexts → Closed contexts ∧
    ∃ us, property us ∧ tokenRegexps us = contexts.map Prod.fst ∧
      streamAt .extended offset (cs ++ after) =
        (streamAt .extended (offset + Text.utf8Length cs) after).prepend us

namespace Renders

variable {cs ds after : List Char} {contexts contexts' : List (String × List Char)}
  {property property' : List Token → Prop}

theorem mono (h : Renders cs contexts after property)
    (himp : ∀ us, property us → property' us) : Renders cs contexts after property' := by
  intro offset hclear
  obtain ⟨hclosed, us, hproperty, hregexps, hstream⟩ := h offset hclear
  exact ⟨hclosed, us, himp us hproperty, hregexps, hstream⟩

/-- Two pieces one behind the other. -/
theorem append (h : Renders cs contexts (ds ++ after) property)
    (h' : Renders ds contexts' after property') :
    Renders (cs ++ ds) (contexts ++ contexts') after
      fun us => ∃ us₁ us₂, us = us₁ ++ us₂ ∧ property us₁ ∧ property' us₂ := by
  intro offset hclear
  rw [List.append_assoc] at hclear ⊢
  obtain ⟨hclosed, us, hproperty, hregexps, hstream⟩ := h offset hclear.left
  obtain ⟨hclosed', us', hproperty', hregexps', hstream'⟩ :=
    h' _ (hclear.right hstream hregexps)
  refine ⟨closed_append.mpr ⟨hclosed, hclosed'⟩, us ++ us', ⟨us, us', rfl, hproperty, hproperty'⟩,
    ?_, ?_⟩
  · rw [tokenRegexps_append, hregexps, hregexps', List.map_append]
  · rw [hstream, hstream', Text.utf8Length_append, ← Nat.add_assoc, TokenStream.prepend_append]

/-- White space in front is skipped. -/
theorem whiteSpace {c : Char} (hc : Text.isWhiteSpace c = true)
    (h : Renders cs contexts after property) : Renders (c :: cs) contexts after property := by
  intro offset hclear
  have hspace (text : List Char) : streamAt .extended offset (c :: text) =
      streamAt .extended (offset + c.utf8Size) text := streamAt_space hc
  rw [List.cons_append] at hclear ⊢
  have hclear' : Clear (offset + c.utf8Size) (cs ++ after) contexts := by
    rw [Clear, hspace] at hclear
    exact hclear
  obtain ⟨hclosed, us, hproperty, hregexps, hstream⟩ := h _ hclear'
  refine ⟨hclosed, us, hproperty, hregexps, ?_⟩
  rw [hspace, hstream, Text.utf8Length_cons, Nat.add_assoc]

theorem space (h : Renders cs contexts after property) :
    Renders (' ' :: cs) contexts after property :=
  h.whiteSpace (by decide)

/-- A token other than a regular expression. -/
theorem token {kind : TokenKind} (hkind : kind ≠ .regexp)
    (h : tokenAt? .extended (cs ++ after) = some (kind, cs.length)) :
    Renders cs [] after fun us => ∃ offset, us = [⟨kind, String.ofList cs, offset⟩] := by
  intro offset hclear
  exact ⟨List.forall_mem_nil _, _, ⟨offset, rfl⟩, tokenRegexps_singleton hkind, streamAt_lexeme h⟩

/-- A regular expression is read as it was written only if it is closed. -/
theorem regexp {token : Token} (hlexed : token.Lexed) (hkind : token.kind = .regexp) :
    Renders token.lexeme.toList [(token.lexeme, after)] after
      fun us => ∃ offset, us = [⟨.regexp, token.lexeme, offset⟩] := by
  intro offset hclear
  have hat := hlexed.tokenAt?_regexp hkind after
  cases hslash : Recognise.lastSlash '/' after with
  | none =>
      rw [hslash] at hat
      have hclosed : ¬ Recognise.SlashAhead '/' after := by
        rw [← Recognise.lastSlash_isSome_iff, hslash]
        exact Bool.false_ne_true
      refine ⟨by simpa [Closed] using hclosed, _, ⟨offset, rfl⟩, rfl, ?_⟩
      rw [streamAt_lexeme hat, String.ofList_toList]
  | some m =>
      -- the token reaches further, so it is not the expected one
      rw [hslash] at hat
      exfalso
      rcases hclear with hclosed | ⟨more, hmore⟩
      · have hopen : Recognise.SlashAhead '/' after := by
          rw [← Recognise.lastSlash_isSome_iff, hslash]
          rfl
        exact hclosed _ (List.mem_singleton_self _) hopen
      · rw [streamAt_token hat] at hmore
        obtain ⟨hlexeme, -⟩ := List.cons.inj hmore
        have hlength := congrArg (fun s => s.toList.length) hlexeme
        obtain ⟨hpos, hle⟩ := Recognise.lastSlash_bounds hslash
        simp only [String.toList_ofList, List.length_take, List.length_append, Option.getD_some]
          at hlength
        omega

/-- A token, of which only the kind matters. -/
theorem kind {kind : TokenKind} (hkind : kind ≠ .regexp)
    (h : tokenAt? .extended (cs ++ after) = some (kind, cs.length)) :
    Renders cs [] after fun us => ∃ token : Token, us = [token] ∧ token.kind = kind :=
  (Renders.token hkind h).mono fun _ ⟨_, hus⟩ => ⟨_, hus, rfl⟩

/-- A piece between two brackets. -/
theorem between {opening closing : Char} {first last : TokenKind}
    (hopening : ∀ rest, tokenAt? .extended (opening :: rest) = some (first, 1))
    (hclosing : ∀ rest, tokenAt? .extended (closing :: rest) = some (last, 1))
    (hkinds : first ≠ .regexp ∧ last ≠ .regexp)
    (h : Renders cs contexts (closing :: after) property) :
    Renders (opening :: (cs ++ [closing])) contexts after fun us =>
      ∃ token ts token', us = token :: (ts ++ [token']) ∧ token.kind = first ∧ property ts ∧
        token'.kind = last := by
  have hfirst : Renders [opening] [] (cs ++ [closing] ++ after) _ :=
    Renders.kind hkinds.1 (hopening _)
  have hlast : Renders [closing] [] after _ := Renders.kind hkinds.2 (hclosing _)
  have hall := hfirst.append (h.append hlast)
  rw [List.nil_append, List.append_nil] at hall
  refine hall.mono ?_
  rintro us ⟨_, _, rfl, ⟨token, rfl, hfirst⟩, ts, _, rfl, hts, token', rfl, hlast⟩
  exact ⟨token, ts, token', rfl, hfirst, hts, hlast⟩

/-- Two pieces with a token between them. -/
theorem joined {middle : List Char} {kind : TokenKind}
    (h : Renders cs contexts (middle ++ (ds ++ after)) property)
    (hmiddle : Renders middle [] (ds ++ after) fun us =>
      ∃ token : Token, us = [token] ∧ token.kind = kind)
    (h' : Renders ds contexts' after property') :
    Renders (cs ++ (middle ++ ds)) (contexts ++ contexts') after fun us =>
      ∃ ts token ts', us = ts ++ token :: ts' ∧ property ts ∧ token.kind = kind ∧
        property' ts' := by
  rw [← List.append_assoc] at h
  refine (h.append (hmiddle.append h')).mono ?_
  rintro us ⟨ts, _, rfl, hts, _, ts', rfl, ⟨token, rfl, htoken⟩, hts'⟩
  exact ⟨ts, token, ts', rfl, hts, htoken, hts'⟩

end Renders

end RecordQuery
