import RecordQuery.Proofs.Evaluation.Steps
import RecordQuery.Proofs.Pattern.Collection

/-! # Patterns compiled in advance

Evaluation looks patterns up and does nothing else with a cache, so a collected
one changes no result.  All look-ups of a tree find their pattern in the cache
collected from it, in every nesting and behind every connective.
-/

namespace RecordQuery

namespace Expr

/-! ## Where patterns come from -/

/-- A tree occurs in another one, or is that one. -/
inductive Occurs (part : Expr) : Expr → Prop
  | self : Occurs part part
  | item {item : Expr} {items : List Expr} (hitem : item ∈ items) (h : Occurs part item) :
      Occurs part (.array items)
  | operand {operand : Expr} (h : Occurs part operand) : Occurs part (.not operand)
  | comparisonLeft {op : Comparison} {left right : Expr} (h : Occurs part left) :
      Occurs part (.comparison op left right)
  | comparisonRight {op : Comparison} {left right : Expr} (h : Occurs part right) :
      Occurs part (.comparison op left right)
  | logicalLeft {op : Connective} {left right : Expr} (h : Occurs part left) :
      Occurs part (.logical op left right)
  | logicalRight {op : Connective} {left right : Expr} (h : Occurs part right) :
      Occurs part (.logical op left right)

/--
A pattern comes from a regular expression literal in a tree, or from the string
on the right of a LIKE in it.
-/
def ComesFrom (caseSensitive : Bool) (pattern : Pattern) (tree : Expr) : Prop :=
  (∃ raw, Occurs (.regexp raw) tree ∧ pattern = .regexp (Literal.regexpSource raw)) ∨
    ∃ left raw, Occurs (.comparison .like left (.string raw)) tree ∧
      pattern = PatternCache.wildcardOf caseSensitive raw

theorem ComesFrom.mono {caseSensitive : Bool} {pattern : Pattern} {tree tree' : Expr}
    (h : ComesFrom caseSensitive pattern tree)
    (himp : ∀ {part}, Occurs part tree → Occurs part tree') :
    ComesFrom caseSensitive pattern tree' := by
  rcases h with ⟨raw, hoccurs, hpattern⟩ | ⟨left, raw, hoccurs, hpattern⟩
  · exact Or.inl ⟨raw, himp hoccurs, hpattern⟩
  · exact Or.inr ⟨left, raw, himp hoccurs, hpattern⟩

theorem comesFrom_of_mem_wildcards {caseSensitive : Bool} {pattern : Pattern} {op : Comparison}
    {left right : Expr} (h : pattern ∈ wildcards caseSensitive op right) :
    ComesFrom caseSensitive pattern (.comparison op left right) := by
  unfold wildcards at h
  split at h
  · exact Or.inr ⟨left, _, .self, List.mem_singleton.mp h⟩
  · cases h

mutual

theorem comesFrom_of_mem_patterns {caseSensitive : Bool} {pattern : Pattern} {tree : Expr}
    (h : pattern ∈ tree.patterns caseSensitive) : ComesFrom caseSensitive pattern tree := by
  match tree with
  | .regexp raw => exact Or.inl ⟨raw, .self, List.mem_singleton.mp h⟩
  | .array items =>
      obtain ⟨item, hitem, hcomes⟩ := comesFrom_of_mem_itemPatterns h
      exact hcomes.mono (.item hitem)
  | .not operand =>
      rw [patterns] at h
      exact (comesFrom_of_mem_patterns h).mono .operand
  | .comparison op left right =>
      rw [patterns] at h
      rcases List.mem_append.mp h with hwildcard | h
      · exact comesFrom_of_mem_wildcards hwildcard
      rcases List.mem_append.mp h with hleft | hright
      · exact (comesFrom_of_mem_patterns hleft).mono .comparisonLeft
      · exact (comesFrom_of_mem_patterns hright).mono .comparisonRight
  | .logical op left right =>
      rw [patterns] at h
      rcases List.mem_append.mp h with hleft | hright
      · exact (comesFrom_of_mem_patterns hleft).mono .logicalLeft
      · exact (comesFrom_of_mem_patterns hright).mono .logicalRight
  | .number _ | .boolean _ | .null | .now | .string _ | .field _ => cases h

theorem comesFrom_of_mem_itemPatterns {caseSensitive : Bool} {pattern : Pattern}
    {items : List Expr} (h : pattern ∈ itemPatterns caseSensitive items) :
    ∃ item ∈ items, ComesFrom caseSensitive pattern item := by
  match items with
  | [] => cases h
  | item :: items =>
      rw [itemPatterns] at h
      rcases List.mem_append.mp h with hitem | hitems
      · exact ⟨item, List.mem_cons_self, comesFrom_of_mem_patterns hitem⟩
      · obtain ⟨other, hother, hcomes⟩ := comesFrom_of_mem_itemPatterns hitems
        exact ⟨other, List.mem_cons_of_mem item hother, hcomes⟩

end

theorem mem_itemPatterns_of_mem {caseSensitive : Bool} {pattern : Pattern} {item : Expr}
    {items : List Expr} (hitem : item ∈ items) (h : pattern ∈ item.patterns caseSensitive) :
    pattern ∈ itemPatterns caseSensitive items := by
  induction items with
  | nil => cases hitem
  | cons other items ih =>
      rw [itemPatterns, List.mem_append]
      rcases List.mem_cons.mp hitem with rfl | hitem
      · exact Or.inl h
      · exact Or.inr (ih hitem)

/-- A tree searches with the patterns of its parts. -/
theorem Occurs.mem_patterns {caseSensitive : Bool} {pattern : Pattern} {part tree : Expr}
    (h : Occurs part tree) (hpart : pattern ∈ part.patterns caseSensitive) :
    pattern ∈ tree.patterns caseSensitive := by
  induction h with
  | self => exact hpart
  | item hitem _ ih => exact mem_itemPatterns_of_mem hitem ih
  | operand _ ih => rwa [patterns]
  | comparisonLeft _ ih =>
      rw [patterns]
      exact List.mem_append_right _ (List.mem_append_left _ ih)
  | comparisonRight _ ih =>
      rw [patterns]
      exact List.mem_append_right _ (List.mem_append_right _ ih)
  | logicalLeft _ ih =>
      rw [patterns]
      exact List.mem_append_left _ ih
  | logicalRight _ ih =>
      rw [patterns]
      exact List.mem_append_right _ ih

theorem mem_patterns_iff {caseSensitive : Bool} {pattern : Pattern} {tree : Expr} :
    pattern ∈ tree.patterns caseSensitive ↔ ComesFrom caseSensitive pattern tree := by
  constructor
  · exact comesFrom_of_mem_patterns
  · rintro (⟨raw, hoccurs, rfl⟩ | ⟨left, raw, hoccurs, rfl⟩)
    · exact hoccurs.mem_patterns (List.mem_singleton_self _)
    · refine hoccurs.mem_patterns ?_
      rw [patterns]
      exact List.mem_append_left _ (List.mem_singleton_self _)

end Expr

namespace Context

/-! ## The cache does not matter -/

section

variable {ctx ctx' : Context}

/-- Two contexts differ in their caches only, and these give the same answers. -/
structure Alike (ctx ctx' : Context) : Prop where
  record : ctx.record = ctx'.record
  paths : ctx.paths = ctx'.paths
  caseSensitive : ctx.caseSensitive = ctx'.caseSensitive
  now : ctx.now = ctx'.now
  get : ∀ pattern, ctx.patterns.get pattern = ctx'.patterns.get pattern

theorem Alike.fold_eq (h : Alike ctx ctx') : ctx.fold = ctx'.fold := by
  funext v
  rw [fold, fold, h.caseSensitive]

theorem Alike.regex_eq (h : Alike ctx ctx') : ctx.regex = ctx'.regex := by
  funext pattern
  rw [regex, regex, h.get]

theorem Alike.fieldValues_eq (h : Alike ctx ctx') : ctx.fieldValues = ctx'.fieldValues := by
  funext path
  rw [fieldValues, fieldValues, h.paths, h.record, h.fold_eq]

theorem Alike.searchWildcard_eq (h : Alike ctx ctx') :
    ctx.searchWildcard = ctx'.searchWildcard := by
  funext left right
  unfold searchWildcard
  rw [h.regex_eq]

mutual

/-- Contexts that are alike give every tree the same meaning. -/
theorem Alike.term_eq (h : Alike ctx ctx') (tree : Expr) : ctx.term tree = ctx'.term tree := by
  match tree with
  | .number _ | .boolean _ | .null => rfl
  | .now => rw [term, term, h.now]
  | .string raw => rw [term, term, h.fold_eq]
  | .regexp raw => rw [term_regexp, term_regexp, h.regex_eq]
  | .array items => rw [term_array, term_array, h.itemValues_eq items]
  | .field path => rw [term_field, term_field, h.fieldValues_eq]
  | .not operand => rw [term_not, term_not, h.term_eq operand]
  | .logical op left right =>
      rw [term_logical, term_logical, h.term_eq left, h.term_eq right]
  | .comparison op left right =>
      by_cases hmatches : op = .matches
      · subst hmatches
        rw [term_matches, term_matches, h.term_eq left, h.term_eq right]
      by_cases hlike : op = .like
      · subst hlike
        rw [term_like, term_like, h.term_eq left, h.term_eq right, h.searchWildcard_eq]
      rw [term_comparison hmatches hlike, term_comparison hmatches hlike, h.term_eq left,
        h.term_eq right]

theorem Alike.itemValues_eq (h : Alike ctx ctx') (items : List Expr) :
    ctx.itemValues items = ctx'.itemValues items := by
  match items with
  | [] => rfl
  | item :: items =>
      rw [itemValues_cons, itemValues_cons, h.term_eq item, h.itemValues_eq items]

end

theorem Alike.evaluate_eq (h : Alike ctx ctx') (tree : Expr) :
    ctx.evaluate tree = ctx'.evaluate tree := by
  rw [evaluate, evaluate, h.term_eq]

end

/-! ## Every look-up is prepared -/

/-- The result is no pattern that does not compile. -/
def Prepared {α : Type} (result : Except EvaluationError α) : Prop :=
  ∀ source, result ≠ .error (.invalidPattern source)

section

variable {α β : Type}

theorem prepared_ok (a : α) : Prepared (.ok a) := by
  intro source h
  cases h

theorem Prepared.bind {x : Except EvaluationError α} {f : α → Except EvaluationError β}
    (h : Prepared x) (h' : ∀ a, x = .ok a → Prepared (f a)) : Prepared (x >>= f) := by
  intro source hsource
  rcases bind_eq_error_iff.mp hsource with hx | ⟨a, ha, hf⟩
  · exact h source hx
  · exact h' a ha source hf

theorem prepared_toValues (op : Comparison) (t : Term) : Prepared (t.toValues op) := by
  cases t <;> intro source h <;> cases h

theorem prepared_toTruth (t : Term) : Prepared t.toTruth := by
  cases t <;> intro source h <;> cases h

theorem prepared_toItems (t : Term) : Prepared t.toItems := by
  cases t <;> intro source h <;> cases h

theorem prepared_search (op : Comparison) (left : Term) (regex : Regex) :
    Prepared (search op left regex) :=
  (prepared_toValues op left).bind fun _ _ => prepared_ok _

theorem prepared_searchRegexp (left right : Term) : Prepared (searchRegexp left right) := by
  unfold searchRegexp
  split
  · exact prepared_search _ _ _
  · intro source h
    cases h

variable {ctx : Context}

theorem prepared_regex {pattern : Pattern} (h : ctx.patterns.Holds pattern) :
    Prepared (ctx.regex pattern) := by
  obtain ⟨regex, hregex⟩ := h.exists_get
  rw [Context.regex, hregex]
  exact prepared_ok regex

theorem prepared_fieldValues (path : String) : Prepared (ctx.fieldValues path) := by
  intro source h
  unfold fieldValues at h
  split at h <;> cases h

theorem fold_string (text : String) :
    ctx.fold (.string text) = .string (if ctx.caseSensitive then text else Text.toLower text) := by
  rw [fold]
  split <;> rfl

/-- Only a string literal stands for a text, and a LIKE takes that text as its pattern. -/
theorem wildcard_mem_of_term_eq {tree : Expr} {text : String}
    (h : ctx.term tree = .ok (.literal (.string text))) :
    .wildcard text ∈ tree.wildcards ctx.caseSensitive .like := by
  cases tree with
  | string raw =>
      rw [term, fold_string] at h
      cases h
      exact List.mem_singleton_self _
  | number | boolean | null | now => cases h
  | regexp raw =>
      rw [term_regexp] at h
      obtain ⟨regex, -, h⟩ := bind_eq_ok h
      cases h
  | array items =>
      rw [term_array] at h
      obtain ⟨vs, -, h⟩ := bind_eq_ok h
      cases h
  | field path =>
      rw [term_field] at h
      obtain ⟨vs, -, h⟩ := bind_eq_ok h
      cases h
  | not operand =>
      obtain ⟨holds, htruth⟩ := truth_of_not h
      cases htruth
  | logical op left right =>
      obtain ⟨holds, htruth⟩ := truth_of_logical h
      cases htruth
  | comparison op left right =>
      obtain ⟨holds, htruth⟩ := truth_of_comparison h
      cases htruth

mutual

/-- No look-up of a tree meets a pattern that does not compile, if its patterns are at hand. -/
theorem prepared_term {tree : Expr}
    (h : ∀ pattern ∈ tree.patterns ctx.caseSensitive, ctx.patterns.Holds pattern) :
    Prepared (ctx.term tree) := by
  match tree with
  | .number _ | .boolean _ | .null | .now | .string _ => exact prepared_ok _
  | .regexp raw =>
      rw [term_regexp]
      exact (prepared_regex (h _ (List.mem_singleton_self _))).bind fun _ _ => prepared_ok _
  | .array items =>
      rw [term_array]
      exact (prepared_itemValues h).bind fun _ _ => prepared_ok _
  | .field path =>
      rw [term_field]
      exact (prepared_fieldValues path).bind fun _ _ => prepared_ok _
  | .not operand =>
      rw [Expr.patterns] at h
      rw [term_not]
      exact ((prepared_term h).bind fun t _ => prepared_toTruth t).bind fun _ _ => prepared_ok _
  | .logical op left right =>
      simp only [Expr.patterns, List.forall_mem_append] at h
      have hleft := (prepared_term h.1).bind fun t _ => prepared_toTruth t
      have hright := (prepared_term h.2).bind fun t _ => prepared_toTruth t
      rw [term_logical]
      refine hleft.bind fun holds _ => ?_
      split
      · exact prepared_ok _
      · exact hright.bind fun _ _ => prepared_ok _
  | .comparison op left right =>
      simp only [Expr.patterns, List.forall_mem_append] at h
      obtain ⟨hwildcards, hleft, hright⟩ := h
      by_cases hmatches : op = .matches
      · subst hmatches
        rw [term_matches]
        exact (prepared_term hleft).bind fun l _ => (prepared_term hright).bind fun r _ =>
          prepared_searchRegexp l r
      by_cases hlike : op = .like
      · subst hlike
        rw [term_like]
        refine (prepared_term hleft).bind fun l _ => (prepared_term hright).bind fun r hr => ?_
        unfold searchWildcard
        split
        · -- the text comes from a string literal, so its pattern was collected
          have hholds := hwildcards _ (wildcard_mem_of_term_eq hr)
          exact (prepared_regex hholds).bind fun regex _ => prepared_search _ _ regex
        · intro source hsource
          cases hsource
      rw [term_comparison hmatches hlike]
      exact ((prepared_term hleft).bind fun t _ => prepared_toValues op t).bind fun _ _ =>
        ((prepared_term hright).bind fun t _ => prepared_toValues op t).bind fun _ _ =>
          prepared_ok _

theorem prepared_itemValues {items : List Expr}
    (h : ∀ pattern ∈ Expr.itemPatterns ctx.caseSensitive items, ctx.patterns.Holds pattern) :
    Prepared (ctx.itemValues items) := by
  match items with
  | [] => exact prepared_ok _
  | item :: items =>
      simp only [Expr.itemPatterns, List.forall_mem_append] at h
      rw [itemValues_cons]
      exact ((prepared_term h.1).bind fun t _ => prepared_toItems t).bind fun _ _ =>
        (prepared_itemValues h.2).bind fun _ _ => prepared_ok _

end

end

end Context

namespace PatternCache

/--
Collecting the patterns of a tree changes no result and leaves none of them to
be compiled.  It fails exactly if a regular expression literal anywhere in the
tree or the wildcard pattern of a LIKE does not compile.
-/
theorem collect_transparent (caseSensitive : Bool) (tree : Expr) :
    (∀ cache, collect caseSensitive tree = .ok cache → ∀ record paths now,
      (∀ source, Context.evaluate ⟨record, paths, caseSensitive, cache, now⟩ tree ≠
        .error (.invalidPattern source)) ∧
      Context.evaluate ⟨record, paths, caseSensitive, cache, now⟩ tree =
        Context.evaluate ⟨record, paths, caseSensitive, empty caseSensitive, now⟩ tree) ∧
    ((∃ invalid, collect caseSensitive tree = .error invalid) ↔
      (∃ raw invalid, Expr.Occurs (.regexp raw) tree ∧
        Pattern.compile caseSensitive (.regexp (Literal.regexpSource raw)) = .error invalid) ∨
      ∃ left raw invalid, Expr.Occurs (.comparison .like left (.string raw)) tree ∧
        Pattern.compile caseSensitive (.wildcard (if caseSensitive then Literal.unquote raw
          else Text.toLower (Literal.unquote raw))) = .error invalid) := by
  constructor
  · intro cache hcache record paths now
    have hadds := addTree_adds hcache
    have hget (pattern : Pattern) : cache.get pattern = (empty caseSensitive).get pattern := by
      rw [(hadds.sound (sound_empty caseSensitive)).get_eq_compile,
        (sound_empty caseSensitive).get_eq_compile, hadds.caseSensitive]
    have halike : Context.Alike ⟨record, paths, caseSensitive, cache, now⟩
        ⟨record, paths, caseSensitive, empty caseSensitive, now⟩ := ⟨rfl, rfl, rfl, rfl, hget⟩
    refine ⟨?_, halike.evaluate_eq tree⟩
    exact (Context.prepared_term hadds.holds).bind fun t _ => Context.prepared_toTruth t
  · rw [collect_eq_error_iff]
    constructor
    · rintro ⟨pattern, hpattern, invalid, hinvalid⟩
      rcases Expr.mem_patterns_iff.mp hpattern with ⟨raw, hoccurs, rfl⟩ | ⟨left, raw, hoccurs, rfl⟩
      · exact Or.inl ⟨raw, invalid, hoccurs, hinvalid⟩
      · exact Or.inr ⟨left, raw, invalid, hoccurs, hinvalid⟩
    · rintro (⟨raw, invalid, hoccurs, hinvalid⟩ | ⟨left, raw, invalid, hoccurs, hinvalid⟩)
      · exact ⟨_, Expr.mem_patterns_iff.mpr (Or.inl ⟨raw, hoccurs, rfl⟩), invalid, hinvalid⟩
      · exact ⟨_, Expr.mem_patterns_iff.mpr (Or.inr ⟨left, raw, hoccurs, rfl⟩), invalid, hinvalid⟩

/--
A LIKE below a negation is prepared without regard to case, and an unclosed group
in an array is found before any record is seen.
-/
theorem collect_transparent_of_nested_patterns :
    (∃ cache, collect false (.not (.comparison .like (.field "a") (.string "'X?'"))) = .ok cache ∧
      Context.evaluate ⟨.object [("a", .string "xy")], .default, false, cache, ⟨0, 0, 0⟩⟩
          (.not (.comparison .like (.field "a") (.string "'X?'"))) =
        Context.evaluate ⟨.object [("a", .string "xy")], .default, false, empty false, ⟨0, 0, 0⟩⟩
          (.not (.comparison .like (.field "a") (.string "'X?'")))) ∧
    ∃ invalid, collect true (.comparison .within (.field "a") (.array [.null, .regexp "/(/"])) =
      .error invalid := by
  constructor
  · have hcollect : (collect false
        (.not (.comparison .like (.field "a") (.string "'X?'")))).isOk = true := by decide +kernel
    cases hcache : collect false (.not (.comparison .like (.field "a") (.string "'X?'"))) with
    | error invalid =>
        rw [hcache] at hcollect
        cases hcollect
    | ok cache => exact ⟨cache, rfl, ((collect_transparent false _).1 cache hcache _ _ _).2⟩
  · have hoccurs : Expr.Occurs (.regexp "/(/")
        (.comparison .within (.field "a") (.array [.null, .regexp "/(/"])) :=
      .comparisonRight (.item (by simp) .self)
    have hcompile : Pattern.compile true (.regexp (Literal.regexpSource "/(/")) =
        .error ⟨"("⟩ := by cbv
    exact (collect_transparent true _).2.mpr (Or.inl ⟨_, _, hoccurs, hcompile⟩)

end PatternCache

end RecordQuery
