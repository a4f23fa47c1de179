import RecordQuery.Proofs.Syntax.PrintedTrees

/-! # Reading a query from its canonical text

The canonical text of a parsed tree is a query of the same tree, exactly if no
regular expression in it is followed on its line by a slash that could close it.
-/

namespace RecordQuery

/-! ## Equality of trees -/

theorem Binary64.beq_self {x : Binary64} (hx : x.isFinite = true) : (x == x) = true := by
  change (x.compare? x == some .eq) = true
  simp [compare?, position, hx]

/-- A tree derived from tokens equals itself: its numbers are finite. -/
theorem Derives.beq_self {symbol : Symbol} {ts : List Token} {tree : Expr}
    (h : Derives symbol ts tree) : Expr.beq tree tree = true := by
  induction h with
  | leaf htree =>
      cases Token.denotes_of_operand? htree with
      | number _ hx => exact Binary64.beq_self (isFinite_of_finiteNumber? hx)
      | key | string | regexp | boolean | null | now => simp [Expr.beq]
  | emptyArray => simp [Expr.beq, Expr.beqItems]
  | array _ _ _ ih => exact ih
  | lastItem _ ih => simpa [Expr.beq, Expr.beqItems] using ih
  | nextItem _ _ _ ihTree ihItems =>
      simp only [Expr.beq] at ihItems
      simp [Expr.beq, Expr.beqItems, ihTree, ihItems]
  | bare _ ih | nested _ _ _ ih | single _ ih | positive _ ih | conjunct _ ih | disjunct _ ih =>
      exact ih
  | comparison _ _ _ _ ihLeft ihRight | and _ _ _ ihLeft ihRight | or _ _ _ ihLeft ihRight =>
      simp [Expr.beq, ihLeft, ihRight]
  | not _ _ ih => simpa [Expr.beq] using ih

namespace Expr

mutual

/-- Equal trees have the same regular expressions. -/
theorem regexps_eq_of_beq {a b : Expr} (h : beq a b = true) : a.regexps = b.regexps := by
  cases a <;> cases b <;> simp only [beq, Bool.false_eq_true, Bool.and_eq_true, beq_iff_eq] at h
  case regexp.regexp => rw [h]
  case array.array as bs => simpa [regexps] using itemRegexps_eq_of_beqItems h
  case not.not => simpa [regexps] using regexps_eq_of_beq h
  case comparison.comparison =>
    simp [regexps, regexps_eq_of_beq h.1.2, regexps_eq_of_beq h.2]
  case logical.logical =>
    simp [regexps, regexps_eq_of_beq h.1.2, regexps_eq_of_beq h.2]
  all_goals simp [regexps]

theorem itemRegexps_eq_of_beqItems {as bs : List Expr} (h : beqItems as bs = true) :
    itemRegexps as = itemRegexps bs := by
  match as, bs with
  | [], [] => rfl
  | [], _ :: _ => simp [beqItems] at h
  | _ :: _, [] => simp [beqItems] at h
  | a :: as, b :: bs =>
      simp only [beqItems, Bool.and_eq_true] at h
      rw [itemRegexps, itemRegexps, regexps_eq_of_beq h.1, itemRegexps_eq_of_beqItems h.2]

end

end Expr

/-! ## Canonical text -/

section

variable {dialect : Dialect} {text : String} {tree : Expr}

/-- The canonical text of a parsed tree is read piece by piece, if its regular expressions allow. -/
theorem renders_of_parse (h : parse dialect text = .ok (some tree)) :
    Renders tree.canonicalChars (tree.regexpsBefore []) [] (Derives .unary · tree) :=
  printable_of_derives (parse_eq_some_iff_derives.mp h).2
    (fun _ htoken => Lexer.lexed_of_mem_stream htoken) delimited_nil

theorem parse_canonical_of_closed (h : parse dialect text = .ok (some tree))
    (hclosed : Closed (tree.regexpsBefore [])) :
    parse .extended tree.canonical = .ok (some tree) :=
  (renders_of_parse h).parse_eq hclosed fun _ hus => hus.query_of_unary

/-- A query without regular expressions is read back from its canonical text. -/
theorem parse_canonical_of_regexps_eq_nil (h : parse dialect text = .ok (some tree))
    (hregexps : tree.regexps = []) :
    parse .extended tree.canonical = .ok (some tree) ∧ (tree == tree) = true := by
  have hnil : tree.regexpsBefore [] = [] := by
    rw [← List.map_eq_nil_iff, Expr.map_fst_regexpsBefore, hregexps]
  refine ⟨parse_canonical_of_closed h ?_, (parse_eq_some_iff_derives.mp h).2.beq_self⟩
  rw [hnil]
  exact List.forall_mem_nil _

/-- Reserved words, escaped backticks and raw strings survive. -/
theorem parse_canonical_of_reserved_word :
    ∃ tree, parse .strict "NOT `and` OR `a\\`b` IN [0, 'c\\'d']" = .ok (some tree) ∧
      tree.regexps = [] ∧ parse .extended tree.canonical = .ok (some tree) ∧
        (tree == tree) = true := by
  have hparse : parse .strict "NOT `and` OR `a\\`b` IN [0, 'c\\'d']" =
      .ok (some (.logical .or (.not (.field "and"))
        (.comparison .within (.field "a\x60b")
          (.array [.number ⟨0⟩, .string "'c\\'d'"])))) := by cbv
  have hregexps : (Expr.logical .or (.not (.field "and"))
      (.comparison .within (.field "a\x60b")
        (.array [.number ⟨0⟩, .string "'c\\'d'"]))).regexps = [] := by
    simp [Expr.regexps, Expr.itemRegexps]
  exact ⟨_, hparse, hregexps, parse_canonical_of_regexps_eq_nil hparse hregexps⟩

/--
A query is read back from its canonical text exactly if behind each of its
regular expressions the line holds no slash that does not stand directly behind
a backslash.
-/
theorem canonical_reparses_iff (h : parse dialect text = .ok (some tree)) :
    (∃ again, parse .extended tree.canonical = .ok (some again) ∧ (again == tree) = true) ↔
      ∀ context ∈ tree.regexpsBefore [], ¬ Recognise.SlashAhead '/' context.2 := by
  constructor
  · rintro ⟨again, hagain, hequal⟩
    have htokens := (parse_eq_some_iff_derives.mp hagain).2.tokenRegexps_eq
    rw [Expr.regexps_eq_of_beq hequal, tokenize_eq_streamAt, Expr.canonical, String.toList_ofList]
      at htokens
    refine (renders_of_parse h 0 (Or.inr ⟨[], ?_⟩)).1
    rw [List.append_nil, List.append_nil, Expr.map_fst_regexpsBefore, htokens]
  · intro hclosed
    exact ⟨tree, parse_canonical_of_closed h hclosed,
      (parse_eq_some_iff_derives.mp h).2.beq_self⟩

/-- A slash in a key reopens the regular expression in front of it. -/
theorem canonical_not_reparsed_of_slash :
    ∃ tree, parse .extended "x MATCH /y/ AND `a\\/b`" = .ok (some tree) ∧ tree.regexps ≠ [] ∧
      ¬ ∃ again, parse .extended tree.canonical = .ok (some again) ∧ (again == tree) = true := by
  have hparse : parse .extended "x MATCH /y/ AND `a\\/b`" =
      .ok (some (.logical .and (.comparison .matches (.field "x") (.regexp "/y/"))
        (.field "a/b"))) := by cbv
  have hagain : parse .extended (Expr.logical .and (.comparison .matches (.field "x")
      (.regexp "/y/")) (.field "a/b")).canonical =
        .error (.unexpectedToken .closingParen ⟨.key, "b", 20⟩) := by cbv
  refine ⟨_, hparse, by simp [Expr.regexps], ?_⟩
  rintro ⟨again, hok, -⟩
  rw [hagain] at hok
  cases hok

/-- Two regular expressions on two lines are joined on the one line of canonical text. -/
theorem canonical_reparses_iff_on_two_lines :
    ∃ tree, parse .extended "a MATCH /x/\nAND b MATCH /y/" = .ok (some tree) ∧
      ((∃ again, parse .extended tree.canonical = .ok (some again) ∧ (again == tree) = true) ↔
        ∀ context ∈ tree.regexpsBefore [], ¬ Recognise.SlashAhead '/' context.2) := by
  have hparse : parse .extended "a MATCH /x/\nAND b MATCH /y/" =
      .ok (some (.logical .and (.comparison .matches (.field "a") (.regexp "/x/"))
        (.comparison .matches (.field "b") (.regexp "/y/")))) := by cbv
  exact ⟨_, hparse, canonical_reparses_iff hparse⟩

end

end RecordQuery
