import RecordQuery.Proofs.Evaluation.Steps
import RecordQuery.Proofs.Pattern.Collection
import RecordQuery.Proofs.Syntax.ParsedTrees
import RecordQuery.Proofs.Syntax.Validity
import RecordQuery.Query

/-! # Failures of evaluation

A validated query fails on a record where a strict path leads nowhere, and where
evaluation comes to a regular expression among the operands of a comparison.
The check of the shape of a tree does not look at operands, so the second kind
of failure is left to evaluation.
-/

namespace RecordQuery

def EvaluationError.isShape : EvaluationError → Bool
  | .keyNotFound _ | .invalidPattern _ => false
  | _ => true

/-- A part of an operand at which its evaluation can fail. -/
inductive Stop where
  | reference (path : String)
  | regexp (raw : String)

namespace Expr

mutual

/-- The parts of an operand at which its evaluation can fail, in order of evaluation. -/
def stops : Expr → List Stop
  | .field path => [.reference path]
  | .regexp raw => [.regexp raw]
  | .array items => itemStops items
  | _ => []

def itemStops : List Expr → List Stop
  | [] => []
  | item :: items => stops item ++ itemStops items

end

end Expr

/-- The parts of the operands of a comparison; the right operand of MATCH is its pattern. -/
def Comparison.stops : Comparison → Expr → Expr → List Stop
  | .matches, left, _ => left.stops
  | _, left, right => left.stops ++ right.stops

namespace Context

def fails (ctx : Context) : Stop → Bool
  | .reference path => (Path.resolve? ctx.paths ctx.record path).isNone
  | .regexp _ => true

def firstFailure? (ctx : Context) (op : Comparison) (left right : Expr) : Option Stop :=
  (op.stops left right).find? ctx.fails

/-- Evaluation of a tree comes to a part of it. -/
inductive Reaches (ctx : Context) : Expr → Expr → Prop
  | here (op : Comparison) (left right : Expr) :
      Reaches ctx (.comparison op left right) (.comparison op left right)
  | negated {operand part : Expr} (h : Reaches ctx operand part) : Reaches ctx (.not operand) part
  | left {op : Connective} {left right part : Expr} (h : Reaches ctx left part) :
      Reaches ctx (.logical op left right) part
  | right {op : Connective} {left right part : Expr} {holds : Bool}
      (hleft : ctx.evaluate left = .ok holds) (hsettles : settles op holds = false)
      (h : Reaches ctx right part) : Reaches ctx (.logical op left right) part

/-! ## Results by the first failing part -/

/-- The result that belongs to the first part at which evaluation fails. -/
def Outcome {α : Type} (failure : Option Stop) (result : Except EvaluationError α) : Prop :=
  match failure with
  | none => ∃ a, result = .ok a
  | some (.reference path) => result = .error (.keyNotFound path)
  | some (.regexp _) => ∃ error : EvaluationError, error.isShape = true ∧ result = .error error

namespace Outcome

variable {α β : Type} {x : Except EvaluationError α} {f : α → Except EvaluationError β}

/-- Later steps matter only where the earlier ones succeed. -/
theorem bind {fails : Stop → Bool} {stops stops' : List Stop} (h : Outcome (stops.find? fails) x)
    (h' : ∀ a, x = .ok a → Outcome (stops'.find? fails) (f a)) :
    Outcome ((stops ++ stops').find? fails) (x >>= f) := by
  rw [List.find?_append]
  cases hfind : stops.find? fails with
  | none =>
      rw [hfind] at h
      obtain ⟨a, rfl⟩ := h
      exact h' a rfl
  | some stop =>
      rw [hfind] at h
      cases stop with
      | reference path =>
          cases h
          rfl
      | regexp raw =>
          obtain ⟨error, hshape, rfl⟩ := h
          exact ⟨error, hshape, rfl⟩

theorem bind_ok {failure : Option Stop} (h : Outcome failure x) (h' : ∀ a, ∃ b, f a = .ok b) :
    Outcome failure (x >>= f) := by
  cases failure with
  | none =>
      obtain ⟨a, rfl⟩ := h
      exact h' a
  | some stop =>
      cases stop with
      | reference path =>
          cases h
          rfl
      | regexp raw =>
          obtain ⟨error, hshape, rfl⟩ := h
          exact ⟨error, hshape, rfl⟩

/-- A failure is a missing key or a regular expression out of place. -/
theorem error_cases {failure : Option Stop} {error : EvaluationError} (h : Outcome failure x)
    (herror : x = .error error) : (∃ path, error = .keyNotFound path) ∨ error.isShape = true := by
  cases failure with
  | none =>
      obtain ⟨a, rfl⟩ := h
      cases herror
  | some stop =>
      cases stop with
      | reference path =>
          cases h.symm.trans herror
          exact Or.inl ⟨path, rfl⟩
      | regexp raw =>
          obtain ⟨other, hshape, hother⟩ := h
          cases hother.symm.trans herror
          exact Or.inr hshape

theorem isShape_iff {failure : Option Stop} (h : Outcome failure x) :
    (∃ error : EvaluationError, error.isShape = true ∧ x = .error error) ↔
      ∃ raw, failure = some (.regexp raw) := by
  cases failure with
  | none =>
      obtain ⟨a, rfl⟩ := h
      simp
  | some stop =>
      cases stop with
      | reference path =>
          cases h
          simp [EvaluationError.isShape]
      | regexp raw => exact ⟨fun _ => ⟨raw, rfl⟩, fun _ => h⟩

end Outcome

/-! ## Operands -/

/-- A way to take values from a term that refuses nothing but patterns and conditions. -/
structure TakesValues (take : Term → Except EvaluationError (List Value)) : Prop where
  values : ∀ vs, ∃ ws, take (.values vs) = .ok ws
  literal : ∀ v, ∃ ws, take (.literal v) = .ok ws
  pattern : ∀ regex, ∃ error : EvaluationError,
    error.isShape = true ∧ take (.pattern regex) = .error error

theorem takesValues_toValues (op : Comparison) : TakesValues (Term.toValues op) :=
  ⟨fun vs => ⟨vs, rfl⟩, fun v => ⟨[v], rfl⟩, fun _ => ⟨_, rfl, rfl⟩⟩

theorem takesValues_toItems : TakesValues Term.toItems :=
  ⟨fun vs => ⟨vs, rfl⟩, fun v => ⟨[v], rfl⟩, fun _ => ⟨_, rfl, rfl⟩⟩

/-- The patterns of a tree are at hand. -/
def Knows (ctx : Context) (tree : Expr) : Prop :=
  ∀ pattern ∈ tree.patterns ctx.caseSensitive, ctx.patterns.Holds pattern

section

variable {ctx : Context}

theorem exists_regex {pattern : Pattern} (h : ctx.patterns.Holds pattern) :
    ∃ regex, ctx.regex pattern = .ok regex := by
  obtain ⟨regex, hregex⟩ := h.exists_get
  exact ⟨regex, by rw [Context.regex, hregex]⟩

theorem outcome_fieldValues (path : String) :
    Outcome ([Stop.reference path].find? ctx.fails) (ctx.fieldValues path) := by
  rw [fieldValues, List.find?_singleton, fails]
  cases Path.resolve? ctx.paths ctx.record path with
  | none => rfl
  | some found => exact ⟨_, rfl⟩

mutual

/-- The values of an operand, up to the first part that fails. -/
theorem outcome_operand {take : Term → Except EvaluationError (List Value)}
    (htake : TakesValues take) {tree : Expr} (hshape : tree.isOperand = true)
    (hknows : ∀ pattern ∈ tree.patterns ctx.caseSensitive, ctx.patterns.Holds pattern) :
    Outcome (tree.stops.find? ctx.fails) (ctx.term tree >>= take) := by
  match tree with
  | .field path =>
      have hterm : (ctx.term (.field path) >>= take) =
          (ctx.fieldValues path >>= fun vs => take (.values vs)) := by
        simp only [term, bind_assoc, pure_bind]
      rw [hterm, Expr.stops]
      exact (outcome_fieldValues path).bind_ok htake.values
  | .regexp raw =>
      obtain ⟨regex, hregex⟩ := exists_regex (hknows _ (List.mem_singleton_self _))
      have hterm : (ctx.term (.regexp raw) >>= take) = take (.pattern regex) := by
        rw [term, hregex]
        rfl
      rw [hterm]
      exact htake.pattern regex
  | .array items =>
      have hitems := outcome_items hshape hknows
      have hterm : (ctx.term (.array items) >>= take) =
          (ctx.itemValues items >>= fun vs => take (.literal (.array vs))) := by
        simp only [term, bind_assoc, pure_bind]
      rw [hterm, Expr.stops]
      exact hitems.bind_ok fun vs => htake.literal (.array vs)
  | .number _ | .boolean _ | .null | .now | .string _ => exact htake.literal _
  | .not _ | .comparison .. | .logical .. => cases hshape

theorem outcome_items {items : List Expr} (hshape : Expr.areOperands items = true)
    (hknows : ∀ pattern ∈ Expr.itemPatterns ctx.caseSensitive items, ctx.patterns.Holds pattern) :
    Outcome ((Expr.itemStops items).find? ctx.fails) (ctx.itemValues items) := by
  match items with
  | [] => exact ⟨[], rfl⟩
  | item :: items =>
      simp only [Expr.areOperands, Bool.and_eq_true] at hshape
      simp only [Expr.itemPatterns, List.forall_mem_append] at hknows
      have hitem := outcome_operand takesValues_toItems hshape.1 hknows.1
      have hitems := outcome_items hshape.2 hknows.2
      rw [itemValues_cons, Expr.itemStops]
      exact hitem.bind fun first _ => hitems.bind_ok fun rest => ⟨first ++ rest, rfl⟩

end

/-! ## Comparisons -/

theorem evaluate_matches {regex : Regex} {raw : String} (path : String)
    (hregex : ctx.regex (.regexp (Literal.regexpSource raw)) = .ok regex) :
    ctx.evaluate (.comparison .matches (.field path) (.regexp raw)) =
      (ctx.fieldValues path >>= fun vs => search .matches (.values vs) regex >>= Term.toTruth) := by
  simp only [evaluate, term, hregex, bind_assoc, pure_bind]
  rfl

theorem evaluate_like {regex : Regex} {raw : String} (path : String)
    (hregex : ctx.regex (PatternCache.wildcardOf ctx.caseSensitive raw) = .ok regex) :
    ctx.evaluate (.comparison .like (.field path) (.string raw)) =
      (ctx.fieldValues path >>= fun vs => search .like (.values vs) regex >>= Term.toTruth) := by
  have hfold : ctx.fold (.string (Literal.unquote raw)) = .string
      (if ctx.caseSensitive then Literal.unquote raw
        else Text.toLower (Literal.unquote raw)) := by
    rw [fold]
    split <;> rfl
  have hwildcard (left : Term) : ctx.searchWildcard left
      (.literal (ctx.fold (.string (Literal.unquote raw)))) = search .like left regex := by
    rw [hfold, searchWildcard]
    rw [PatternCache.wildcardOf] at hregex
    rw [hregex]
    rfl
  simp only [evaluate, term, bind_assoc, pure_bind]
  change (ctx.fieldValues path >>= fun vs => ctx.searchWildcard (.values vs)
    (.literal (ctx.fold (.string (Literal.unquote raw)))) >>= Term.toTruth) = _
  simp only [hwildcard]

theorem outcome_matches {path raw : String}
    (hholds : ctx.patterns.Holds (.regexp (Literal.regexpSource raw))) :
    Outcome ([Stop.reference path].find? ctx.fails)
      (ctx.evaluate (.comparison .matches (.field path) (.regexp raw))) := by
  obtain ⟨regex, hregex⟩ := exists_regex hholds
  rw [evaluate_matches path hregex]
  exact (outcome_fieldValues path).bind_ok fun vs => ⟨_, rfl⟩

theorem outcome_like {path raw : String}
    (hholds : ctx.patterns.Holds (PatternCache.wildcardOf ctx.caseSensitive raw)) :
    Outcome ([Stop.reference path].find? ctx.fails)
      (ctx.evaluate (.comparison .like (.field path) (.string raw))) := by
  obtain ⟨regex, hregex⟩ := exists_regex hholds
  rw [evaluate_like path hregex]
  exact (outcome_fieldValues path).bind_ok fun vs => ⟨_, rfl⟩

/-- A comparison with a field on one side fails at the first failing part of its operands. -/
theorem outcome_comparison {op : Comparison} {left right : Expr}
    (hshape : (Expr.comparison op left right).isCondition = true)
    (hfield : (left.isField || right.isField) = true)
    (hknows : ctx.Knows (.comparison op left right)) :
    Outcome (ctx.firstFailure? op left right) (ctx.evaluate (.comparison op left right)) := by
  simp only [Expr.isCondition, Bool.and_eq_true] at hshape
  obtain ⟨⟨hleft, hright⟩, hfits⟩ := hshape
  simp only [Knows, Expr.patterns, List.forall_mem_append] at hknows
  obtain ⟨hwildcards, hknowsLeft, hknowsRight⟩ := hknows
  by_cases hmatches : op = .matches
  · subst hmatches
    cases right <;> cases hfits
    cases left <;> cases hfield
    exact outcome_matches (hknowsRight _ (List.mem_singleton_self _))
  by_cases hlike : op = .like
  · subst hlike
    cases right <;> cases hfits
    cases left <;> cases hfield
    exact outcome_like (hwildcards _ (List.mem_singleton_self _))
  have hstops : op.stops left right = left.stops ++ right.stops := by
    cases op <;> first | rfl | exact absurd rfl hmatches
  rw [evaluate_comparison hmatches hlike, firstFailure?, hstops]
  exact (outcome_operand (takesValues_toValues op) hleft hknowsLeft).bind fun ls _ =>
    (outcome_operand (takesValues_toValues op) hright hknowsRight).bind_ok fun rs => ⟨_, rfl⟩

end

end Context

/-! ## Conditions -/

namespace Context

variable {ctx : Context}

theorem evaluate_field (path : String) :
    ctx.evaluate (.field path) =
      (ctx.fieldValues path >>= fun vs => .ok (vs.any Value.isTruthy)) := by
  simp only [evaluate, term, bind_assoc, pure_bind]
  rfl

theorem evaluate_not (operand : Expr) :
    ctx.evaluate (.not operand) = (ctx.evaluate operand >>= fun holds => .ok !holds) := by
  simp only [evaluate, term, bind_assoc]
  rfl

theorem evaluate_logical (op : Connective) (left right : Expr) :
    ctx.evaluate (.logical op left right) = (ctx.evaluate left >>= fun holds =>
      if settles op holds then .ok holds else ctx.evaluate right) := by
  simp only [evaluate, term, bind_assoc]
  congr 1
  funext left
  congr 1
  funext holds
  split
  · rfl
  · simp only [bind_assoc]
    congr 1
    funext right
    exact bind_pure _

theorem Knows.left {op : Connective} {left right : Expr} (h : ctx.Knows (.logical op left right)) :
    ctx.Knows left := by
  simp only [Knows, Expr.patterns, List.forall_mem_append] at h
  exact h.1

theorem Knows.right {op : Connective} {left right : Expr}
    (h : ctx.Knows (.logical op left right)) : ctx.Knows right := by
  simp only [Knows, Expr.patterns, List.forall_mem_append] at h
  exact h.2

/-- A logical operation fails where its left side does, or its right side if that decides. -/
theorem evaluate_logical_eq_error_iff {op : Connective} {left right : Expr}
    {error : EvaluationError} : ctx.evaluate (.logical op left right) = .error error ↔
      ctx.evaluate left = .error error ∨ ∃ holds, ctx.evaluate left = .ok holds ∧
        settles op holds = false ∧ ctx.evaluate right = .error error := by
  rw [evaluate_logical, bind_eq_error_iff]
  refine or_congr Iff.rfl (exists_congr fun holds => and_congr Iff.rfl ?_)
  cases settles op holds <;> simp

theorem evaluate_not_eq_error_iff {operand : Expr} {error : EvaluationError} :
    ctx.evaluate (.not operand) = .error error ↔ ctx.evaluate operand = .error error := by
  rw [evaluate_not, bind_eq_error_iff]
  simp

def FailsForShape (ctx : Context) (tree : Expr) : Prop :=
  ∃ error : EvaluationError, error.isShape = true ∧ ctx.evaluate tree = .error error

/-- Evaluation comes to a comparison in which a regular expression is the first part that fails. -/
def ReachesRegexp (ctx : Context) (tree : Expr) : Prop :=
  ∃ op left right raw, ctx.Reaches tree (.comparison op left right) ∧
    ctx.firstFailure? op left right = some (.regexp raw)

theorem failsForShape_not_iff {operand : Expr} :
    ctx.FailsForShape (.not operand) ↔ ctx.FailsForShape operand := by
  simp only [FailsForShape, evaluate_not_eq_error_iff]

theorem failsForShape_logical_iff {op : Connective} {left right : Expr} :
    ctx.FailsForShape (.logical op left right) ↔
      ctx.FailsForShape left ∨ ∃ holds, ctx.evaluate left = .ok holds ∧
        settles op holds = false ∧ ctx.FailsForShape right := by
  constructor
  · rintro ⟨error, herror, h⟩
    rcases evaluate_logical_eq_error_iff.mp h with h | ⟨holds, hok, hsettles, h⟩
    · exact Or.inl ⟨error, herror, h⟩
    · exact Or.inr ⟨holds, hok, hsettles, error, herror, h⟩
  · rintro (⟨error, herror, h⟩ | ⟨holds, hok, hsettles, error, herror, h⟩)
    · exact ⟨error, herror, evaluate_logical_eq_error_iff.mpr (Or.inl h)⟩
    · exact ⟨error, herror,
        evaluate_logical_eq_error_iff.mpr (Or.inr ⟨holds, hok, hsettles, h⟩)⟩

theorem reachesRegexp_not_iff {operand : Expr} :
    ctx.ReachesRegexp (.not operand) ↔ ctx.ReachesRegexp operand := by
  constructor
  · rintro ⟨op, left, right, raw, hreaches, hraw⟩
    cases hreaches with
    | negated h => exact ⟨op, left, right, raw, h, hraw⟩
  · rintro ⟨op, left, right, raw, hreaches, hraw⟩
    exact ⟨op, left, right, raw, .negated hreaches, hraw⟩

theorem reachesRegexp_comparison_iff {op : Comparison} {left right : Expr} :
    ctx.ReachesRegexp (.comparison op left right) ↔
      ∃ raw, ctx.firstFailure? op left right = some (.regexp raw) := by
  constructor
  · rintro ⟨op', left', right', raw, hreaches, hraw⟩
    cases hreaches
    exact ⟨raw, hraw⟩
  · rintro ⟨raw, hraw⟩
    exact ⟨op, left, right, raw, .here op left right, hraw⟩

theorem reachesRegexp_logical_iff {op : Connective} {left right : Expr} :
    ctx.ReachesRegexp (.logical op left right) ↔
      ctx.ReachesRegexp left ∨ ∃ holds, ctx.evaluate left = .ok holds ∧
        settles op holds = false ∧ ctx.ReachesRegexp right := by
  constructor
  · rintro ⟨op', left', right', raw, hreaches, hraw⟩
    cases hreaches with
    | left h => exact Or.inl ⟨op', left', right', raw, h, hraw⟩
    | right hok hsettles h => exact Or.inr ⟨_, hok, hsettles, op', left', right', raw, h, hraw⟩
  · rintro (⟨op', left', right', raw, h, hraw⟩ | ⟨_, hok, hsettles, hright⟩)
    · exact ⟨op', left', right', raw, .left h, hraw⟩
    · obtain ⟨op', left', right', raw, h, hraw⟩ := hright
      exact ⟨op', left', right', raw, .right hok hsettles h, hraw⟩

/-- Evaluation of a valid tree fails for a missing key or for the shape of a comparison. -/
theorem evaluate_error_cases {tree : Expr} (hshape : tree.isCondition = true)
    (hvalid : tree.validate = .ok ()) (hknows : ctx.Knows tree) {error : EvaluationError}
    (h : ctx.evaluate tree = .error error) :
    (∃ path, error = .keyNotFound path) ∨ error.isShape = true := by
  match tree with
  | .field path =>
      rw [evaluate_field] at h
      exact ((outcome_fieldValues path).bind_ok fun vs => ⟨_, rfl⟩).error_cases h
  | .not operand =>
      rw [evaluate_not_eq_error_iff] at h
      rw [Expr.isCondition] at hshape
      rw [Knows, Expr.patterns] at hknows
      exact evaluate_error_cases hshape (Expr.validate_not_iff.mp hvalid) hknows h
  | .comparison op left right =>
      have hfield := Expr.validate_comparison_iff.mp hvalid
      exact (outcome_comparison hshape hfield hknows).error_cases h
  | .logical op left right =>
      simp only [Expr.isCondition, Bool.and_eq_true] at hshape
      obtain ⟨hleft, hright⟩ := Expr.validate_logical_iff.mp hvalid
      rcases evaluate_logical_eq_error_iff.mp h with h | ⟨holds, -, -, h⟩
      · exact evaluate_error_cases hshape.1 hleft hknows.left h
      · exact evaluate_error_cases hshape.2 hright hknows.right h
  | .number _ | .boolean _ | .null | .now | .string _ | .regexp _ | .array _ => cases hvalid

/-- Evaluation of a valid tree fails for its shape exactly at a regular expression. -/
theorem failsForShape_iff {tree : Expr} (hshape : tree.isCondition = true)
    (hvalid : tree.validate = .ok ()) (hknows : ctx.Knows tree) :
    ctx.FailsForShape tree ↔ ctx.ReachesRegexp tree := by
  match tree with
  | .field path =>
      constructor
      · rintro ⟨error, herror, h⟩
        rw [evaluate_field] at h
        obtain ⟨raw, hraw⟩ := ((outcome_fieldValues path).bind_ok fun vs => ⟨_, rfl⟩).isShape_iff.mp
          ⟨error, herror, h⟩
        have hmem := List.mem_of_find?_eq_some hraw
        simp at hmem
      · rintro ⟨op, left, right, raw, hreaches, -⟩
        cases hreaches
  | .not operand =>
      rw [Expr.isCondition] at hshape
      rw [Knows, Expr.patterns] at hknows
      rw [failsForShape_not_iff, reachesRegexp_not_iff]
      exact failsForShape_iff hshape (Expr.validate_not_iff.mp hvalid) hknows
  | .comparison op left right =>
      have houtcome := outcome_comparison hshape (Expr.validate_comparison_iff.mp hvalid) hknows
      rw [FailsForShape, houtcome.isShape_iff, reachesRegexp_comparison_iff]
  | .logical op left right =>
      simp only [Expr.isCondition, Bool.and_eq_true] at hshape
      obtain ⟨hleft, hright⟩ := Expr.validate_logical_iff.mp hvalid
      have ihLeft := failsForShape_iff hshape.1 hleft hknows.left
      have ihRight := failsForShape_iff hshape.2 hright hknows.right
      rw [failsForShape_logical_iff, reachesRegexp_logical_iff, ihLeft, ihRight]
  | .number _ | .boolean _ | .null | .now | .string _ | .regexp _ | .array _ => cases hvalid

end Context

/-! ## Compiled queries -/

namespace Query

/-- What a query that was compiled with validation is made of. -/
theorem compile_eq_ok {options : QueryOptions} {text : String} {query : Query}
    (h : compile options text = .ok query) (hvalidate : options.validate = true) :
    query.options = options ∧ ∀ tree ∈ query.tree, tree.isCondition = true ∧
      tree.validate = .ok () ∧
      ∀ pattern ∈ tree.patterns options.caseSensitive, query.patterns.Holds pattern := by
  obtain ⟨tree, htree, h⟩ := bind_eq_ok h
  obtain ⟨⟨⟩, hcheck, h⟩ := bind_eq_ok h
  obtain ⟨patterns, hpatterns, h⟩ := bind_eq_ok h
  cases h
  refine ⟨rfl, fun tree' htree' => ?_⟩
  cases htree'
  have hparse := mapError_eq_ok_iff.mp htree
  simp only [check, hvalidate] at hcheck
  exact ⟨isCondition_of_parse hparse, mapError_eq_ok_iff.mp hcheck,
    PatternCache.holds_of_collect (mapError_eq_ok_iff.mp hpatterns)⟩

/--
A query compiled with validation fails on a record for a missing key only, apart
from one kind of shape: evaluation comes to a comparison in whose operands a
regular expression is the first part that fails.
-/
theorem matchesRecord_error_iff {options : QueryOptions} {text : String} {query : Query}
    (h : compile options text = .ok query) (hvalidate : options.validate = true) (now : Timestamp)
    (record : Value) :
    (∀ error, query.matchesRecord now record = .error error →
      (∃ path, error = .evaluation (.keyNotFound path)) ∨
        ∃ cause : EvaluationError, cause.isShape = true ∧ error = .evaluation cause) ∧
    ((∃ cause : EvaluationError, cause.isShape = true ∧
        query.matchesRecord now record = .error (.evaluation cause)) ↔
      ∃ tree op left right raw, query.tree = some tree ∧
        (query.context now record).Reaches tree (.comparison op left right) ∧
        (query.context now record).firstFailure? op left right = some (.regexp raw)) := by
  obtain ⟨hoptions, htree⟩ := compile_eq_ok h hvalidate
  rw [matchesRecord]
  cases hquery : query.tree with
  | none => simp
  | some tree =>
      obtain ⟨hshape, hvalid, hpatterns⟩ := htree tree hquery
      have hknows : (query.context now record).Knows tree := by
        rw [Context.Knows, context, hoptions]
        exact hpatterns
      dsimp only
      constructor
      · intro error herror
        obtain ⟨cause, hcause, rfl⟩ := mapError_eq_error_iff.mp herror
        rcases Context.evaluate_error_cases hshape hvalid hknows hcause with ⟨path, rfl⟩ | hcause
        · exact Or.inl ⟨path, rfl⟩
        · exact Or.inr ⟨cause, hcause, rfl⟩
      · have hiff := Context.failsForShape_iff hshape hvalid hknows
        constructor
        · rintro ⟨cause, hcause, herror⟩
          obtain ⟨other, hother, hsame⟩ := mapError_eq_error_iff.mp herror
          cases hsame
          obtain ⟨op, left, right, raw, hreaches, hraw⟩ := hiff.mp ⟨cause, hcause, hother⟩
          exact ⟨tree, op, left, right, raw, rfl, hreaches, hraw⟩
        · rintro ⟨tree', op, left, right, raw, hsame, hreaches, hraw⟩
          cases hsame
          obtain ⟨cause, hcause, herror⟩ := hiff.mpr ⟨op, left, right, raw, hreaches, hraw⟩
          exact ⟨cause, hcause, mapError_eq_error_iff.mpr ⟨cause, herror, rfl⟩⟩

/-- A regular expression under another operator than MATCH passes the check and fails. -/
theorem matchesRecord_of_regexp_operand :
    ∃ query, compile .default "a == /x/" = .ok query ∧
      query.matchesRecord ⟨0, 0, 0⟩ (.object [("a", .string "x")]) =
        .error (.evaluation (.regexpOperand .equal)) := by
  have hcompile : (compile .default "a == /x/").isOk = true := by cbv
  have hmatches : matchesText ⟨0, 0, 0⟩ (.object [("a", .string "x")]) "a == /x/" =
      .error (.evaluation (.regexpOperand .equal)) := by cbv
  cases hquery : compile .default "a == /x/" with
  | error error =>
      rw [hquery] at hcompile
      cases hcompile
  | ok query =>
      rw [matchesText, hquery] at hmatches
      exact ⟨query, rfl, hmatches⟩

/-- The failures of a query with a regular expression in an array literal. -/
theorem matchesRecord_error_iff_of_regexp_item :
    ∃ query, compile .default "a OR b IN [c, /x/]" = .ok query ∧
      QueryOptions.default.validate = true ∧
      (∀ error, query.matchesRecord ⟨0, 0, 0⟩ (.object [("b", .null)]) = .error error →
        (∃ path, error = .evaluation (.keyNotFound path)) ∨
          ∃ cause : EvaluationError, cause.isShape = true ∧ error = .evaluation cause) ∧
      ((∃ cause : EvaluationError, cause.isShape = true ∧
          query.matchesRecord ⟨0, 0, 0⟩ (.object [("b", .null)]) =
            .error (.evaluation cause)) ↔
        ∃ tree op left right raw, query.tree = some tree ∧
          (query.context ⟨0, 0, 0⟩ (.object [("b", .null)])).Reaches tree
            (.comparison op left right) ∧
          (query.context ⟨0, 0, 0⟩ (.object [("b", .null)])).firstFailure? op left right =
            some (.regexp raw)) := by
  have hcompile : (compile .default "a OR b IN [c, /x/]").isOk = true := by cbv
  cases hquery : compile .default "a OR b IN [c, /x/]" with
  | error error =>
      rw [hquery] at hcompile
      cases hcompile
  | ok query =>
      exact ⟨query, rfl, rfl, matchesRecord_error_iff hquery rfl ⟨0, 0, 0⟩
        (.object [("b", .null)])⟩

end Query

end RecordQuery
