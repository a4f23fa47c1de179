import RecordQuery.Proofs.Syntax.Dialects
import RecordQuery.Proofs.Syntax.RoundTrip

/-! # Canonical text in the strict dialect

The printer writes a path bare wherever that is possible, in either dialect.
The tokens of canonical text show which paths are bare, and the strict dialect
reads the text only if none is.
-/

namespace RecordQuery

/-! ## Keys of canonical text -/

def tokenKeys (ts : List Token) : List String :=
  (ts.filter (·.kind = .key)).map (·.lexeme)

@[simp] theorem tokenKeys_nil : tokenKeys [] = [] := rfl

@[simp] theorem tokenKeys_append (ts us : List Token) :
    tokenKeys (ts ++ us) = tokenKeys ts ++ tokenKeys us := by
  simp [tokenKeys]

theorem tokenKeys_cons_of_ne {token : Token} {ts : List Token} (h : token.kind ≠ .key) :
    tokenKeys (token :: ts) = tokenKeys ts := by
  simp [tokenKeys, h]

theorem tokenKeys_joined {token : Token} {ts us : List Token} (h : token.kind ≠ .key) :
    tokenKeys (ts ++ token :: us) = tokenKeys ts ++ tokenKeys us := by
  rw [tokenKeys_append, tokenKeys_cons_of_ne h]

theorem tokenKeys_enclosed {first last : Token} {ts : List Token} (hfirst : first.kind ≠ .key)
    (hlast : last.kind ≠ .key) : tokenKeys (first :: (ts ++ [last])) = tokenKeys ts := by
  rw [tokenKeys_cons_of_ne hfirst, tokenKeys_joined hlast, tokenKeys_nil, List.append_nil]

namespace Expr

/-- The canonical texts of the field references of a tree. -/
def fieldTexts (tree : Expr) : List String :=
  tree.fieldPaths.map fun path => (field path).canonical

def itemFieldTexts (trees : List Expr) : List String :=
  (itemFieldPaths trees).map fun path => (field path).canonical

end Expr

section

variable {after : List Char}

theorem tokenAt?_field (path : String) (hafter : Delimited after) :
    tokenAt? .extended ((Expr.field path).canonicalChars ++ after) =
      some (.key, (Expr.field path).canonicalChars.length) := by
  rw [Expr.canonicalChars]
  split
  · rename_i hbare
    exact tokenAt?_bare hbare hafter
  · exact tokenAt?_backticked path.toList after

/-- An operand of one token is printed as a key exactly if it is a field reference. -/
theorem renders_leafKeys {token : Token} {tree : Expr} (hlexed : token.Lexed)
    (htree : token.operand? = some tree) (hafter : Delimited after) :
    Renders tree.canonicalChars (tree.regexpsBefore after) after
      (tokenKeys · = tree.fieldTexts) := by
  have hother (hkind : token.kind ≠ .key) (htexts : tree.fieldTexts = []) :
      Renders tree.canonicalChars (tree.regexpsBefore after) after
        (tokenKeys · = tree.fieldTexts) := by
    refine (renders_leaf hlexed htree hafter).mono ?_
    rintro us ⟨read, rfl, hread, -⟩
    rw [htexts, tokenKeys_cons_of_ne (hread ▸ hkind), tokenKeys_nil]
  cases Token.denotes_of_operand? htree with
  | key hkind =>
      refine (Renders.token (by decide) (tokenAt?_field _ hafter)).mono ?_
      rintro us ⟨offset, rfl⟩
      rfl
  | string hkind | regexp hkind | number hkind | boolean hkind | null hkind | now hkind =>
      exact hother (by simp [hkind]) rfl

end

/-- In the canonical text the keys are those of the tree. -/
def PrintsKeys : Symbol → Expr → Prop
  | .items, tree => ∀ {after}, Delimited after →
      ∃ trees, tree = .array trees ∧
        Renders (Expr.canonicalItems trees) (Expr.itemRegexpsBefore after trees) after
          (tokenKeys · = Expr.itemFieldTexts trees)
  | _, tree => ∀ {after}, Delimited after →
      Renders tree.canonicalChars (tree.regexpsBefore after) after (tokenKeys · = tree.fieldTexts)

namespace PrintsKeys

variable {tree left right : Expr} {trees : List Expr} {us : List Token} {after : List Char}

theorem brackets (h : Renders (Expr.canonicalItems trees)
      (Expr.itemRegexpsBefore (']' :: after) trees) (']' :: after)
      (tokenKeys · = Expr.itemFieldTexts trees)) :
    Renders (Expr.array trees).canonicalChars ((Expr.array trees).regexpsBefore after) after
      (tokenKeys · = (Expr.array trees).fieldTexts) := by
  refine (renders_array h).mono ?_
  rintro us ⟨first, ts, last, rfl, hfirst, hts, hlast⟩
  rw [tokenKeys_enclosed (by simp [hfirst]) (by simp [hlast]), hts]
  rfl

theorem emptyArray : PrintsKeys .operand (.array []) := by
  intro after hafter
  refine brackets fun offset hclear => ?_
  exact ⟨List.forall_mem_nil _, [], rfl, rfl, rfl⟩

theorem array (h : PrintsKeys .items (.array trees)) : PrintsKeys .operand (.array trees) := by
  intro after hafter
  have hbracket : Delimited (']' :: after) := by simp [delimited_cons]
  obtain ⟨trees', htrees, hrenders⟩ := h hbracket
  cases htrees
  exact brackets hrenders

theorem lastItem (h : PrintsKeys .operand tree) : PrintsKeys .items (.array [tree]) := by
  intro after hafter
  refine ⟨_, rfl, ?_⟩
  rw [Expr.canonicalItems, Expr.itemRegexpsBefore]
  refine (h hafter).mono fun us hus => ?_
  simp [hus, Expr.fieldTexts, Expr.itemFieldTexts, Expr.itemFieldPaths]

theorem nextItem (hitems : Derives .items us (.array trees)) (h : PrintsKeys .operand tree)
    (h' : PrintsKeys .items (.array trees)) : PrintsKeys .items (.array (tree :: trees)) := by
  intro after hafter
  obtain ⟨next, items, rfl⟩ := hitems.exists_cons_of_items
  obtain ⟨trees', htrees, hrenders⟩ := h' hafter
  cases htrees
  refine ⟨_, rfl, (renders_items h hrenders).mono ?_⟩
  rintro vs ⟨ts, token, us, rfl, hts, htoken, hus⟩
  rw [tokenKeys_joined (by simp [htoken]), hts, hus]
  simp [Expr.fieldTexts, Expr.itemFieldTexts, Expr.itemFieldPaths]

theorem comparison {op : Comparison} (h : PrintsKeys .operand left)
    (h' : PrintsKeys .operand right) : PrintsKeys .condition (.comparison op left right) := by
  intro after hafter
  refine (renders_comparison h (h' hafter)).mono ?_
  rintro us ⟨ts, token, ts', rfl, hts, htoken, hts'⟩
  have hkind : token.kind ≠ .key := by
    rw [htoken]
    exact Parse.kind_ne_of_comparison? (comparison?_kind _) rfl
  rw [tokenKeys_joined hkind, hts, hts']
  simp [Expr.fieldTexts, Expr.fieldPaths]

theorem not (h : PrintsKeys .primary tree) : PrintsKeys .unary (.not tree) := by
  intro after hafter
  refine (renders_not (h (by simp [delimited_cons]))).mono ?_
  rintro us ⟨token, first, ts, last, rfl, htoken, hfirst, hts, hlast⟩
  rw [tokenKeys_cons_of_ne (by simp [htoken]),
    tokenKeys_enclosed (by simp [hfirst]) (by simp [hlast]), hts]
  simp [Expr.fieldTexts, Expr.fieldPaths]

theorem logical {op : Connective}
    (h : ∀ {after}, Delimited after →
      Renders left.canonicalChars (left.regexpsBefore after) after (tokenKeys · = left.fieldTexts))
    (h' : ∀ {after}, Delimited after →
      Renders right.canonicalChars (right.regexpsBefore after) after
        (tokenKeys · = right.fieldTexts)) :
    Renders (Expr.logical op left right).canonicalChars
      ((Expr.logical op left right).regexpsBefore after) after
      (tokenKeys · = (Expr.logical op left right).fieldTexts) := by
  have hparen : Delimited (')' :: after) := by simp [delimited_cons]
  refine (renders_logical h (h' hparen)).mono ?_
  rintro us ⟨first, ts, token, ts', last, rfl, hfirst, hts, htoken, hts', hlast⟩
  have hkind : token.kind ≠ .key := by
    rw [htoken]
    cases op <;> decide
  rw [tokenKeys_enclosed (by simp [hfirst]) (by simp [hlast]), tokenKeys_joined hkind, hts, hts']
  simp [Expr.fieldTexts, Expr.fieldPaths]

end PrintsKeys

theorem printsKeys_of_derives {symbol : Symbol} {ts : List Token} {tree : Expr}
    (h : Derives symbol ts tree) (hlexed : ∀ token ∈ ts, token.Lexed) : PrintsKeys symbol tree := by
  induction h with
  | leaf htree =>
      intro after hafter
      exact renders_leafKeys (hlexed _ (List.mem_singleton_self _)) htree hafter
  | emptyArray => exact PrintsKeys.emptyArray
  | array _ _ _ ih =>
      exact PrintsKeys.array (ih fun token htoken => hlexed token (by simp [htoken]))
  | lastItem _ ih => exact PrintsKeys.lastItem (ih hlexed)
  | nextItem _ _ hitems ihTree ihItems =>
      rw [List.forall_mem_append, List.forall_mem_cons] at hlexed
      exact PrintsKeys.nextItem hitems (ihTree hlexed.1) (ihItems hlexed.2.2)
  | comparison _ _ _ _ ihLeft ihRight =>
      rw [List.forall_mem_append, List.forall_mem_cons] at hlexed
      exact PrintsKeys.comparison (ihLeft hlexed.1) (ihRight hlexed.2.2)
  | bare _ ih | single _ ih | positive _ ih | conjunct _ ih | disjunct _ ih => exact ih hlexed
  | nested _ _ _ ih => exact ih fun token htoken => hlexed token (by simp [htoken])
  | not _ _ ih => exact PrintsKeys.not (ih (List.forall_mem_cons.mp hlexed).2)
  | and _ _ _ ihLeft ihRight | or _ _ _ ihLeft ihRight =>
      intro after hafter
      rw [List.forall_mem_append, List.forall_mem_cons] at hlexed
      exact PrintsKeys.logical (ihLeft hlexed.1) (ihRight hlexed.2.2)

/-! ## Bare paths -/

/-- A path is printed either bare or in backticks. -/
theorem head?_field (path : String) :
    (Expr.field path).canonical.toList.head? = some '\x60' ↔ isBareKey path.toList = false := by
  rw [Expr.canonical, String.toList_ofList, Expr.canonicalChars]
  split
  · rename_i hbare
    rw [hbare]
    cases hchars : path.toList with
    | nil =>
        rw [hchars] at hbare
        cases hbare
    | cons c cs =>
        rw [hchars] at hbare
        have hne : c ≠ '\x60' := by
          rintro rfl
          exact absurd (isBareKey_cons.mp hbare).1 (by decide)
        simp [hne]
  · rename_i hbare
    simp [backticked, Bool.eq_false_of_not_eq_true hbare]

section

variable {dialect : Dialect} {text : String} {tree : Expr}

theorem tokenKeys_canonical (h : parse dialect text = .ok (some tree))
    (hclosed : Closed (tree.regexpsBefore [])) :
    tokenKeys (tokenize .extended tree.canonical).tokens = tree.fieldTexts := by
  have hrenders : Renders tree.canonicalChars (tree.regexpsBefore []) []
      (tokenKeys · = tree.fieldTexts) :=
    printsKeys_of_derives (parse_eq_some_iff_derives.mp h).2
      (fun _ htoken => Lexer.lexed_of_mem_stream htoken) delimited_nil
  obtain ⟨-, us, hus, -, hstream⟩ := hrenders 0 (Or.inl hclosed)
  rw [List.append_nil] at hstream
  rw [tokenize_eq_streamAt, Expr.canonical, String.toList_ofList, hstream, streamAt_nil]
  simpa [TokenStream.prepend] using hus

/-- Bare identifiers stand in the canonical text where the tree has bare paths. -/
theorem exists_isBare_canonical_iff (h : parse dialect text = .ok (some tree))
    (hclosed : Closed (tree.regexpsBefore [])) :
    (∃ token ∈ (tokenize .extended tree.canonical).tokens, token.isBare = true) ↔
      ∃ path ∈ tree.fieldPaths, isBareKey path.toList = true := by
  have hkeys := tokenKeys_canonical h hclosed
  constructor
  · rintro ⟨token, htoken, hbare⟩
    rw [Token.isBare, Bool.and_eq_true, beq_iff_eq, bne_iff_ne] at hbare
    have hmem : token.lexeme ∈ tokenKeys (tokenize .extended tree.canonical).tokens :=
      List.mem_map.mpr ⟨token, List.mem_filter.mpr ⟨htoken, by simp [hbare.1]⟩, rfl⟩
    rw [hkeys] at hmem
    obtain ⟨path, hpath, hlexeme⟩ := List.mem_map.mp hmem
    refine ⟨path, hpath, ?_⟩
    rw [← hlexeme, Ne, head?_field] at hbare
    simpa using hbare.2
  · rintro ⟨path, hpath, hbare⟩
    have hmem : (Expr.field path).canonical ∈
        tokenKeys (tokenize .extended tree.canonical).tokens := by
      rw [hkeys]
      exact List.mem_map.mpr ⟨path, hpath, rfl⟩
    obtain ⟨token, htoken, hlexeme⟩ := List.mem_map.mp hmem
    rw [List.mem_filter, decide_eq_true_iff] at htoken
    refine ⟨token, htoken.1, ?_⟩
    rw [Token.isBare, Bool.and_eq_true, beq_iff_eq, bne_iff_ne, hlexeme, Ne, head?_field, hbare]
    exact ⟨htoken.2, Bool.true_eq_false_eq_False⟩

/--
The canonical text of a query without regular expressions is a query of an
equal tree in the extended dialect.  In the strict one it is exactly if no path
of the tree is one that is printed bare.
-/
theorem canonical_reparses_strictly_iff (h : parse dialect text = .ok (some tree))
    (hregexps : tree.regexps = []) :
    (∃ again, parse .extended tree.canonical = .ok (some again) ∧ (again == tree) = true) ∧
      ((∃ again, parse .strict tree.canonical = .ok (some again) ∧ (again == tree) = true) ↔
        ∀ path ∈ tree.fieldPaths, isBareKey path.toList = false) := by
  have hclosed : Closed (tree.regexpsBefore []) := by
    have hnil : tree.regexpsBefore [] = [] := by
      rw [← List.map_eq_nil_iff, Expr.map_fst_regexpsBefore, hregexps]
    rw [hnil]
    exact List.forall_mem_nil _
  have hextended := parse_canonical_of_closed h hclosed
  have hself := (parse_eq_some_iff_derives.mp h).2.beq_self
  have hbareIff := exists_isBare_canonical_iff h hclosed
  refine ⟨⟨tree, hextended, hself⟩, ?_, ?_⟩
  · rintro ⟨again, hagain, -⟩ path hpath
    by_contra hbare
    obtain ⟨token, htoken, hisBare⟩ := hbareIff.mpr ⟨path, hpath, by simpa using hbare⟩
    obtain ⟨error, hfailed⟩ := TokenStream.strict_failed htoken hisBare
    obtain ⟨⟨offset, hcomplete⟩, -⟩ := parse_eq_some_iff_derives.mp hagain
    rw [tokenize_strict, hfailed] at hcomplete
    cases hcomplete
  · intro hquoted
    have hsame : tokenize .strict tree.canonical = tokenize .extended tree.canonical := by
      rw [tokenize_strict]
      refine TokenStream.strict_eq_self fun token htoken => ?_
      by_contra hbare
      obtain ⟨path, hpath, hisBare⟩ := hbareIff.mp ⟨token, htoken, by simpa using hbare⟩
      exact absurd hisBare (by simp [hquoted path hpath])
    refine ⟨tree, ?_, hself⟩
    rw [parse, hsame]
    exact hextended

/-- A path in backticks that could stand bare loses them, and is no key of the strict dialect. -/
theorem canonical_not_reparsed_strictly :
    ∃ tree, parse .strict "\x60a\x60" = .ok (some tree) ∧ tree.regexps = [] ∧
      ¬ ∃ again, parse .strict tree.canonical = .ok (some again) ∧ (again == tree) = true := by
  have hparse : parse .strict "\x60a\x60" = .ok (some (.field "a")) := by cbv
  have hagain : parse .strict (Expr.field "a").canonical = .error (.lexical ⟨0, 'a'⟩) := by cbv
  refine ⟨_, hparse, by simp [Expr.regexps], ?_⟩
  rintro ⟨again, hok, -⟩
  rw [hagain] at hok
  cases hok

/-- A path with a space and a reserved word keep their backticks. -/
theorem canonical_reparses_strictly_of_quoted :
    ∃ tree, parse .strict "\x60a b\x60 IN [\x60not\x60, 0]" = .ok (some tree) ∧
      ∃ again, parse .strict tree.canonical = .ok (some again) ∧ (again == tree) = true := by
  have hparse : parse .strict "\x60a b\x60 IN [\x60not\x60, 0]" =
      .ok (some (.comparison .within (.field "a b")
        (.array [.field "not", .number ⟨0⟩]))) := by cbv
  have hregexps : (Expr.comparison .within (.field "a b")
      (.array [.field "not", .number ⟨0⟩])).regexps = [] := by
    simp [Expr.regexps, Expr.itemRegexps]
  refine ⟨_, hparse, (canonical_reparses_strictly_iff hparse hregexps).2.mpr ?_⟩
  simp only [Expr.fieldPaths, Expr.itemFieldPaths, List.append_nil, List.cons_append,
    List.nil_append, List.forall_mem_cons]
  exact ⟨by decide, by decide, List.forall_mem_nil _⟩

end

end RecordQuery
