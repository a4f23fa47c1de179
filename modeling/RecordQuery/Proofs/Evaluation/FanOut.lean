import RecordQuery.Proofs.Evaluation.Failures
import RecordQuery.Proofs.Path.Walk

/-! # Fan-out over arrays

A path that starts at an array of records leads to the values that it leads to
from each of them.  Comparisons ask for any pair of values, so a query that
never negates a condition and never gathers values into an array holds for a
longer array if it holds for a shorter one.
-/

namespace RecordQuery

open List (Sublist)

namespace Expr

mutual

/--
Whether no negation occurs in the tree, no regular expression except on the
right of MATCH, and no field reference inside an array literal.
-/
def isMonotone : Expr → Bool
  | .not _ | .regexp _ => false
  | .array items => areMonotone items && (itemFieldPaths items).isEmpty
  | .comparison .matches left (.regexp _) => isMonotone left
  | .comparison _ left right => isMonotone left && isMonotone right
  | .logical _ left right => isMonotone left && isMonotone right
  | _ => true

def areMonotone : List Expr → Bool
  | [] => true
  | item :: items => isMonotone item && areMonotone items

end

end Expr

/-! ## Paths -/

namespace Path

variable {xs zs : List Value}

theorem entries_array_sublist (h : Sublist xs zs) (segment : String) :
    Sublist (entries (.array xs) segment) (entries (.array zs) segment) :=
  h.filterMap _

theorem walk_array_sublist (h : Sublist xs zs) (segments : List String) :
    Sublist (walk (.array xs) segments) (walk (.array zs) segments) := by
  match segments with
  | [] => exact .refl _
  | [segment] => exact entries_array_sublist h segment
  | segment :: next :: rest =>
      rw [walk, walk]
      exact ((entries_array_sublist h segment).filter _).flatMap _

/-- From a longer array a path leads to no fewer values, in the same order. -/
theorem lookup_array_sublist (h : Sublist xs zs) (options : PathOptions) (path : String) :
    Sublist (lookup options (.array xs) path) (lookup options (.array zs) path) := by
  rw [lookup_eq_walk, lookup_eq_walk]
  exact walk_array_sublist h _

end Path

namespace Context

/-! ## Two runs side by side -/

/-- Both runs succeed, with related results. -/
def Both {α : Type} (related : α → α → Prop) (x x' : Except EvaluationError α) : Prop :=
  ∃ a a', x = .ok a ∧ x' = .ok a' ∧ related a a'

theorem both_ok {α : Type} {related : α → α → Prop} {a a' : α} (h : related a a') :
    Both related (.ok a) (.ok a') :=
  ⟨a, a', rfl, rfl, h⟩

theorem Both.bind {α β : Type} {related : α → α → Prop} {related' : β → β → Prop}
    {x x' : Except EvaluationError α} {f f' : α → Except EvaluationError β}
    (h : Both related x x') (h' : ∀ a a', related a a' → Both related' (f a) (f' a')) :
    Both related' (x >>= f) (x' >>= f') := by
  obtain ⟨a, a', rfl, rfl, hrelated⟩ := h
  exact h' a a' hrelated

/-- The truth of the second run follows from that of the first. -/
def Weaker (holds holds' : Bool) : Prop :=
  holds = true → holds' = true

theorem weaker_any {α : Type} {as as' : List α} (h : Sublist as as') (p : α → Bool) :
    Weaker (as.any p) (as'.any p) := by
  intro hany
  obtain ⟨a, ha, hp⟩ := List.any_eq_true.mp hany
  exact List.any_eq_true.mpr ⟨a, h.subset ha, hp⟩

/-- Operators hold between any two values, the negated equality too. -/
theorem weaker_holdsBetween {op : Comparison} {ls ls' rs rs' : List Value} (hleft : Sublist ls ls')
    (hright : Sublist rs rs') : Weaker (holdsBetween op ls rs) (holdsBetween op ls' rs') := by
  intro hholds
  obtain ⟨l, hl, hany⟩ := List.any_eq_true.mp hholds
  exact List.any_eq_true.mpr ⟨l, hleft.subset hl, weaker_any hright _ hany⟩

/-- A connective of weaker sides is weaker, though it may be settled later. -/
theorem both_logical {op : Connective} {holds holds' : Bool} {x x' : Except EvaluationError Bool}
    (h : Weaker holds holds') (hright : Both Weaker x x') :
    Both Weaker (if settles op holds then .ok holds else x)
      (if settles op holds' then .ok holds' else x') := by
  obtain ⟨right, right', rfl, rfl, hright⟩ := hright
  cases op <;> cases holds <;> cases holds' <;> simp_all [settles, Both, Weaker]

/-- The terms of an operand: more values of a field reference, or one literal. -/
inductive Grows : Term → Term → Prop
  | values {vs vs' : List Value} (h : Sublist vs vs') : Grows (.values vs) (.values vs')
  | literal (v : Value) : Grows (.literal v) (.literal v)

theorem Grows.toValues {t t' : Term} (h : Grows t t') (op : Comparison) :
    Both Sublist (t.toValues op) (t'.toValues op) := by
  cases h with
  | values h => exact both_ok h
  | literal v => exact both_ok (.refl [v])

/-! ## Trees -/

section

variable {ctx ctx' : Context}

/-- The contexts differ in their records, and paths lead to more values from the second one. -/
structure Extends (ctx ctx' : Context) : Prop where
  same : ctx' = { ctx with record := ctx'.record }
  lenient : ctx.paths.strict = false
  lookup : ∀ path, Sublist (Path.lookup ctx.paths ctx.record path)
    (Path.lookup ctx.paths ctx'.record path)

theorem fieldValues_of_lenient (h : ctx.paths.strict = false) (path : String) :
    ctx.fieldValues path = .ok ((Path.lookup ctx.paths ctx.record path).map ctx.fold) := by
  rw [fieldValues_eq_lookup, h, if_neg fun hstrict => Bool.false_ne_true hstrict.1]

namespace Extends

theorem fold_eq (h : Extends ctx ctx') : ctx'.fold = ctx.fold := by
  rw [h.same]
  rfl

mutual

/-- An operand without field references is a literal that no record changes. -/
theorem exists_literal (h : Extends ctx ctx') {tree : Expr} (hshape : tree.isOperand = true)
    (hmonotone : tree.isMonotone = true) (hpaths : tree.fieldPaths = []) :
    ∃ v, ctx.term tree = .ok (.literal v) ∧ ctx'.term tree = .ok (.literal v) := by
  match tree with
  | .number _ | .boolean _ | .null => exact ⟨_, rfl, rfl⟩
  | .now => exact ⟨_, rfl, by rw [h.same]; rfl⟩
  | .string raw => exact ⟨_, rfl, by rw [term, h.fold_eq]⟩
  | .array items =>
      simp only [Expr.isMonotone, Bool.and_eq_true] at hmonotone
      obtain ⟨vs, hvs, hvs'⟩ := h.exists_literals hshape hmonotone.1 hpaths
      exact ⟨.array vs, by rw [term_array, hvs]; rfl, by rw [term_array, hvs']; rfl⟩
  | .field path => cases hpaths
  | .regexp _ => cases hmonotone
  | .not _ | .comparison .. | .logical .. => cases hshape

theorem exists_literals (h : Extends ctx ctx') {items : List Expr}
    (hshape : Expr.areOperands items = true)
    (hmonotone : Expr.areMonotone items = true) (hpaths : Expr.itemFieldPaths items = []) :
    ∃ vs, ctx.itemValues items = .ok vs ∧ ctx'.itemValues items = .ok vs := by
  match items with
  | [] => exact ⟨[], rfl, rfl⟩
  | item :: items =>
      simp only [Expr.areOperands, Expr.areMonotone, Bool.and_eq_true] at hshape hmonotone
      obtain ⟨hitem, hitems⟩ := List.append_eq_nil_iff.mp hpaths
      obtain ⟨v, hv, hv'⟩ := h.exists_literal hshape.1 hmonotone.1 hitem
      obtain ⟨vs, hvs, hvs'⟩ := h.exists_literals hshape.2 hmonotone.2 hitems
      refine ⟨v :: vs, ?_, ?_⟩
      · rw [itemValues_cons, hv, hvs]
        rfl
      · rw [itemValues_cons, hv', hvs']
        rfl

end

variable (h : Extends ctx ctx')

include h

theorem regex_eq (pattern : Pattern) : ctx'.regex pattern = ctx.regex pattern := by
  rw [h.same]
  rfl

theorem caseSensitive_eq : ctx'.caseSensitive = ctx.caseSensitive := by
  rw [h.same]

theorem both_fieldValues (path : String) :
    Both Sublist (ctx.fieldValues path) (ctx'.fieldValues path) := by
  have hpaths : ctx'.paths = ctx.paths := by rw [h.same]
  rw [fieldValues_of_lenient h.lenient, fieldValues_of_lenient (hpaths ▸ h.lenient), h.fold_eq,
    hpaths]
  exact both_ok ((h.lookup path).map _)

theorem both_operand {tree : Expr} (hshape : tree.isOperand = true)
    (hmonotone : tree.isMonotone = true) : Both Grows (ctx.term tree) (ctx'.term tree) := by
  cases tree with
  | field path =>
      rw [term_field, term_field]
      exact (h.both_fieldValues path).bind fun vs vs' hvs => both_ok (.values hvs)
  | array items =>
      have hpaths : (Expr.array items).fieldPaths = [] := by
        simp only [Expr.isMonotone, Bool.and_eq_true, List.isEmpty_iff] at hmonotone
        exact hmonotone.2
      obtain ⟨v, hv, hv'⟩ := h.exists_literal hshape hmonotone hpaths
      exact ⟨_, _, hv, hv', .literal v⟩
  | number | boolean | null | now | string =>
      obtain ⟨v, hv, hv'⟩ := h.exists_literal hshape hmonotone rfl
      exact ⟨_, _, hv, hv', .literal v⟩
  | regexp => cases hmonotone
  | not | comparison | logical => cases hshape

theorem both_search {op : Comparison} (path : String) (regex : Regex) :
    Both Weaker
      (ctx.fieldValues path >>= fun vs => search op (.values vs) regex >>= Term.toTruth)
      (ctx'.fieldValues path >>= fun vs => search op (.values vs) regex >>= Term.toTruth) :=
  (h.both_fieldValues path).bind fun _ _ hvs => both_ok (weaker_any hvs _)

theorem both_comparison {op : Comparison} {left right : Expr}
    (hshape : (Expr.comparison op left right).isCondition = true)
    (hfield : (left.isField || right.isField) = true)
    (hmonotone : (Expr.comparison op left right).isMonotone = true)
    (hknows : ctx.Knows (.comparison op left right)) :
    Both Weaker (ctx.evaluate (.comparison op left right))
      (ctx'.evaluate (.comparison op left right)) := by
  simp only [Expr.isCondition, Bool.and_eq_true] at hshape
  obtain ⟨⟨hleft, hright⟩, hfits⟩ := hshape
  simp only [Knows, Expr.patterns, List.forall_mem_append] at hknows
  obtain ⟨hwildcards, -, hpatterns⟩ := hknows
  by_cases hmatches : op = .matches
  · subst hmatches
    cases right <;> cases hfits
    cases left <;> cases hfield
    obtain ⟨regex, hregex⟩ := exists_regex (hpatterns _ (List.mem_singleton_self _))
    rw [evaluate_matches _ hregex, evaluate_matches _ ((h.regex_eq _).trans hregex)]
    exact h.both_search _ regex
  by_cases hlike : op = .like
  · subst hlike
    cases right <;> cases hfits
    cases left <;> cases hfield
    obtain ⟨regex, hregex⟩ := exists_regex (hwildcards _ (List.mem_singleton_self _))
    have hregex' := (h.regex_eq _).trans hregex
    rw [← h.caseSensitive_eq] at hregex'
    rw [evaluate_like _ hregex, evaluate_like _ hregex']
    exact h.both_search _ regex
  have hsides : left.isMonotone = true ∧ right.isMonotone = true := by
    rw [← Bool.and_eq_true, ← hmonotone, Expr.isMonotone]
    intro _ hop
    exact absurd hop hmatches
  have hls := (h.both_operand hleft hsides.1).bind fun t t' ht => ht.toValues op
  have hrs := (h.both_operand hright hsides.2).bind fun t t' ht => ht.toValues op
  rw [evaluate_comparison hmatches hlike, evaluate_comparison hmatches hlike]
  exact hls.bind fun ls ls' hls => hrs.bind fun rs rs' hrs => both_ok (weaker_holdsBetween hls hrs)

/-- Evaluation succeeds in both contexts, and what holds in the first holds in the second. -/
theorem both_evaluate {tree : Expr} (hshape : tree.isCondition = true)
    (hvalid : tree.validate = .ok ()) (hmonotone : tree.isMonotone = true)
    (hknows : ctx.Knows tree) : Both Weaker (ctx.evaluate tree) (ctx'.evaluate tree) := by
  match tree with
  | .field path =>
      rw [evaluate_field, evaluate_field]
      exact (h.both_fieldValues path).bind fun vs vs' hvs => both_ok (weaker_any hvs _)
  | .comparison op left right =>
      exact h.both_comparison hshape (Expr.validate_comparison_iff.mp hvalid) hmonotone hknows
  | .logical op left right =>
      simp only [Expr.isCondition, Expr.isMonotone, Bool.and_eq_true] at hshape hmonotone
      obtain ⟨hleft, hright⟩ := Expr.validate_logical_iff.mp hvalid
      rw [evaluate_logical, evaluate_logical]
      exact (both_evaluate hshape.1 hleft hmonotone.1 hknows.left).bind fun _ _ hholds =>
        both_logical hholds (both_evaluate hshape.2 hright hmonotone.2 hknows.right)
  | .not _ => cases hmonotone
  | .number _ | .boolean _ | .null | .now | .string _ | .regexp _ | .array _ => cases hvalid

end Extends

end

end Context

/-! ## Compiled queries -/

namespace Query

variable {options : QueryOptions} {text : String} {query : Query} {xs zs : List Value}

theorem extends_array (hlenient : query.options.paths.strict = false) (h : Sublist xs zs)
    (now : Timestamp) :
    (query.context now (.array xs)).Extends (query.context now (.array zs)) where
  same := rfl
  lenient := hlenient
  lookup := Path.lookup_array_sublist h _

/--
Fan-out is monotone.  With paths that may lead nowhere, a checked query without
negation, misplaced regular expressions and gathered values that matches an
array of records matches every array in which these records stand.
-/
theorem matchesRecord_array_sublist (h : compile options text = .ok query)
    (hvalidate : options.validate = true) (hlenient : options.paths.strict = false)
    (hmonotone : ∀ tree ∈ query.tree, tree.isMonotone = true) (hsublist : Sublist xs zs)
    (now : Timestamp) (hmatches : query.matchesRecord now (.array xs) = .ok true) :
    query.matchesRecord now (.array zs) = .ok true := by
  obtain ⟨hoptions, htree⟩ := compile_eq_ok h hvalidate
  rw [matchesRecord] at hmatches ⊢
  cases hquery : query.tree with
  | none =>
      rw [hquery] at hmatches
      cases hmatches
  | some tree =>
      rw [hquery] at hmatches
      obtain ⟨hshape, hvalid, hpatterns⟩ := htree tree hquery
      have hpaths : query.options.paths.strict = false := by
        rw [hoptions]
        exact hlenient
      have hextends := extends_array hpaths hsublist now
      have hknows : (query.context now (.array xs)).Knows tree := by
        rw [Context.Knows, context, hoptions]
        exact hpatterns
      obtain ⟨holds, holds', hholds, hholds', hweaker⟩ :=
        hextends.both_evaluate hshape hvalid (hmonotone tree hquery) hknows
      dsimp only at hmatches ⊢
      rw [hholds] at hmatches
      cases hmatches
      rw [hholds', hweaker rfl]
      rfl

/-- The record between the other two makes the left side hold, which then settles the query. -/
theorem matchesRecord_array_sublist_of_settled :
    ∃ query, compile .default "a.b != c OR d MATCH /x/ AND d IN [NULL, ['y']]" = .ok query ∧
      query.matchesRecord ⟨0, 0, 0⟩ (.array [.object [("d", .string "x")],
        .object [("a", .array [.object [("b", .null)]]), ("c", .integer 1)],
        .object [("d", .array [.string "y"])]]) = .ok true := by
  have hcompile : (compile .default "a.b != c OR d MATCH /x/ AND d IN [NULL, ['y']]").isOk =
      true := by cbv
  have hmonotone : ((compile .default
      "a.b != c OR d MATCH /x/ AND d IN [NULL, ['y']]").toOption.bind (·.tree)).all
        Expr.isMonotone = true := by cbv
  have hmatches : matchesText ⟨0, 0, 0⟩ (.array [.object [("d", .string "x")],
      .object [("d", .array [.string "y"])]]) "a.b != c OR d MATCH /x/ AND d IN [NULL, ['y']]" =
        .ok true := by cbv
  rw [matchesText] at hmatches
  cases hquery : compile .default "a.b != c OR d MATCH /x/ AND d IN [NULL, ['y']]" with
  | error error =>
      rw [hquery] at hcompile
      cases hcompile
  | ok query =>
      rw [hquery] at hmonotone hmatches
      change query.tree.all Expr.isMonotone = true at hmonotone
      have htree : ∀ tree ∈ query.tree, tree.isMonotone = true := by
        intro tree htree
        rwa [Option.mem_def.mp htree] at hmonotone
      refine ⟨query, rfl, matchesRecord_array_sublist hquery rfl rfl htree ?_ ⟨0, 0, 0⟩ hmatches⟩
      exact .cons_cons _ (.cons _ (.cons_cons _ .slnil))

end Query

end RecordQuery
