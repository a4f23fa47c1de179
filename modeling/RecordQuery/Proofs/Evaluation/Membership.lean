import RecordQuery.Proofs.Evaluation.FanOut
import RecordQuery.Proofs.Evaluation.Mirroring

/-! # Membership in array literals

An array literal gathers the values of its items, all values of a field
reference among them.  To be one of its values is therefore to equal one of the
values of an item, and IN is a disjunction of equalities.
-/

namespace RecordQuery

namespace Expr

mutual

/-- Whether the tree is an operand without regular expressions. -/
def isPlain : Expr → Bool
  | .number _ | .boolean _ | .null | .now | .string _ | .field _ => true
  | .array items => arePlain items
  | .regexp _ | .not _ | .comparison .. | .logical .. => false

def arePlain : List Expr → Bool
  | [] => true
  | item :: items => isPlain item && arePlain items

end

/-- The operand equals the first item, or else one of the others, from left to right. -/
def equalsAny (left first : Expr) (rest : List Expr) : Expr :=
  rest.foldl (fun tree item => .logical .or tree (.comparison .equal left item))
    (.comparison .equal left first)

end Expr

namespace Context

/-! ## Values and items of operands -/

section

variable {ctx : Context}

/-- The operand has these values in a comparison, and adds the same ones to an array. -/
structure StandsFor (ctx : Context) (tree : Expr) (vs : List Value) : Prop where
  values : ∀ op, (ctx.term tree >>= Term.toValues op) = .ok vs
  items : (ctx.term tree >>= Term.toItems) = .ok vs

theorem standsFor_literal {tree : Expr} {v : Value} (h : ctx.term tree = .ok (.literal v)) :
    ctx.StandsFor tree [v] := by
  constructor
  · intro op
    rw [h]
    rfl
  · rw [h]
    rfl

theorem standsFor_field (hlenient : ctx.paths.strict = false) (path : String) :
    ctx.StandsFor (.field path) ((Path.lookup ctx.paths ctx.record path).map ctx.fold) := by
  constructor
  · intro op
    rw [term_field, fieldValues_of_lenient hlenient]
    rfl
  · rw [term_field, fieldValues_of_lenient hlenient]
    rfl

theorem standsFor_array {items : List Expr} {vs : List Value} (h : ctx.itemValues items = .ok vs) :
    ctx.StandsFor (.array items) [.array vs] := by
  apply standsFor_literal
  rw [term_array, h]
  rfl

theorem StandsFor.itemValues_cons {item : Expr} {items : List Expr} {vs ws : List Value}
    (hitem : ctx.StandsFor item vs) (hitems : ctx.itemValues items = .ok ws) :
    ctx.itemValues (item :: items) = .ok (vs ++ ws) := by
  rw [Context.itemValues_cons, hitem.items, hitems]
  rfl

mutual

/-- With paths that may lead nowhere, operands without regular expressions do not fail. -/
theorem exists_standsFor (hlenient : ctx.paths.strict = false) {tree : Expr}
    (hplain : tree.isPlain = true) : ∃ vs, ctx.StandsFor tree vs := by
  match tree with
  | .field path => exact ⟨_, standsFor_field hlenient path⟩
  | .array items =>
      obtain ⟨vs, hvs⟩ := exists_itemValues hlenient hplain
      exact ⟨[.array vs], standsFor_array hvs⟩
  | .number _ | .boolean _ | .null | .now | .string _ => exact ⟨_, standsFor_literal rfl⟩
  | .regexp _ | .not _ | .comparison .. | .logical .. => cases hplain

theorem exists_itemValues (hlenient : ctx.paths.strict = false) {items : List Expr}
    (hplain : Expr.arePlain items = true) : ∃ vs, ctx.itemValues items = .ok vs := by
  match items with
  | [] => exact ⟨[], rfl⟩
  | item :: items =>
      simp only [Expr.arePlain, Bool.and_eq_true] at hplain
      obtain ⟨first, hfirst⟩ := exists_standsFor hlenient hplain.1
      obtain ⟨rest, hrest⟩ := exists_itemValues hlenient hplain.2
      exact ⟨first ++ rest, hfirst.itemValues_cons hrest⟩

end

end

/-! ## The values of an array literal -/

theorem contains_array (items : List Value) (v : Value) :
    (Value.array items).contains v = items.any (v.looseEq ·) := by
  simp only [Value.contains, Value.looseEq_comm]

/-- A value of the left is in the array if it equals one of the values that were gathered. -/
theorem holdsBetween_within_array (ls vs : List Value) :
    holdsBetween .within ls [.array vs] = holdsBetween .equal ls vs := by
  simp [holdsBetween, Comparison.holds, contains_array]

theorem holdsBetween_append (op : Comparison) (ls vs ws : List Value) :
    holdsBetween op ls (vs ++ ws) = (holdsBetween op ls vs || holdsBetween op ls ws) := by
  induction ls with
  | nil => rfl
  | cons l ls ih =>
      simp only [holdsBetween, List.any_cons, List.any_append] at ih ⊢
      rw [ih]
      ac_rfl

section

variable {ctx : Context} {left right : Expr} {ls rs : List Value}

theorem StandsFor.evaluate_comparison {op : Comparison} (hleft : ctx.StandsFor left ls)
    (hright : ctx.StandsFor right rs) (hmatches : op ≠ .matches) (hlike : op ≠ .like) :
    ctx.evaluate (.comparison op left right) = .ok (holdsBetween op ls rs) := by
  rw [Context.evaluate_comparison hmatches hlike, hleft.values, hright.values]
  rfl

theorem evaluate_or {a b : Bool} (hleft : ctx.evaluate left = .ok a)
    (hright : ctx.evaluate right = .ok b) :
    ctx.evaluate (.logical .or left right) = .ok (a || b) := by
  rw [evaluate_logical, hleft]
  cases a with
  | true => rfl
  | false => exact hright

/-- Equalities with further items are added on the right, each after those before it. -/
theorem evaluate_foldl_or (hlenient : ctx.paths.strict = false) (hleft : ctx.StandsFor left ls)
    {items : List Expr} (hitems : Expr.arePlain items = true) {tree : Expr} {holds : Bool}
    (htree : ctx.evaluate tree = .ok holds) :
    ∃ vs, ctx.itemValues items = .ok vs ∧
      ctx.evaluate (items.foldl (fun tree item =>
          .logical .or tree (.comparison .equal left item)) tree) =
        .ok (holds || holdsBetween .equal ls vs) := by
  induction items generalizing tree holds with
  | nil =>
      refine ⟨[], rfl, ?_⟩
      have hnone : holdsBetween .equal ls [] = false := by simp [holdsBetween]
      rw [hnone, Bool.or_false]
      exact htree
  | cons item items ih =>
      simp only [Expr.arePlain, Bool.and_eq_true] at hitems
      obtain ⟨vs, hvs⟩ := exists_standsFor hlenient hitems.1
      have hequal : ctx.evaluate (.comparison .equal left item) = .ok (holdsBetween .equal ls vs) :=
        hleft.evaluate_comparison hvs (by decide) (by decide)
      obtain ⟨ws, hws, hrest⟩ := ih hitems.2 (evaluate_or htree hequal)
      refine ⟨vs ++ ws, hvs.itemValues_cons hws, ?_⟩
      rw [List.foldl_cons, hrest, holdsBetween_append, Bool.or_assoc]

theorem evaluate_equalsAny (hlenient : ctx.paths.strict = false) (hleft : ctx.StandsFor left ls)
    {first : Expr} {rest : List Expr} (hitems : Expr.arePlain (first :: rest) = true) :
    ∃ vs, ctx.itemValues (first :: rest) = .ok vs ∧
      ctx.evaluate (left.equalsAny first rest) = .ok (holdsBetween .equal ls vs) := by
  simp only [Expr.arePlain, Bool.and_eq_true] at hitems
  obtain ⟨vs, hvs⟩ := exists_standsFor hlenient hitems.1
  have hequal : ctx.evaluate (.comparison .equal left first) = .ok (holdsBetween .equal ls vs) :=
    hleft.evaluate_comparison hvs (by decide) (by decide)
  obtain ⟨ws, hws, hrest⟩ := evaluate_foldl_or hlenient hleft hitems.2 hequal
  refine ⟨vs ++ ws, hvs.itemValues_cons hws, ?_⟩
  rw [Expr.equalsAny, hrest, holdsBetween_append]

theorem evaluate_within_gathered (hleft : ctx.StandsFor left ls) {items : List Expr}
    {vs : List Value} (hvs : ctx.itemValues items = .ok vs) :
    ctx.evaluate (.comparison .within left (.array items)) = .ok (holdsBetween .equal ls vs) := by
  rw [hleft.evaluate_comparison (standsFor_array hvs) (by decide) (by decide),
    holdsBetween_within_array]

/--
With paths that may lead nowhere, IN before an array literal never fails.  It
holds exactly if the left side equals one of the items, and never before `[]`.
-/
theorem evaluate_within_array (hlenient : ctx.paths.strict = false) {items : List Expr}
    (hleft : left.isPlain = true) (hitems : Expr.arePlain items = true) :
    ∃ holds, ctx.evaluate (.comparison .within left (.array items)) = .ok holds ∧
      match items with
      | [] => holds = false
      | first :: rest => ctx.evaluate (left.equalsAny first rest) = .ok holds := by
  obtain ⟨ls, hls⟩ := exists_standsFor hlenient hleft
  cases items with
  | nil =>
      refine ⟨holdsBetween .equal ls [], evaluate_within_gathered hls rfl, ?_⟩
      simp [holdsBetween]
  | cons first rest =>
      obtain ⟨vs, hvs, hany⟩ := evaluate_equalsAny hlenient hls hitems
      exact ⟨holdsBetween .equal ls vs, evaluate_within_gathered hls hvs, hany⟩

end

/-- The ages of two users are items, next to an array of them and a name. -/
theorem evaluate_within_array_of_fanOut :
    twoAges.paths.strict = false ∧ (Expr.number ⟨0x4024000000000000⟩).isPlain = true ∧
      Expr.arePlain [.string "'x'", .array [.field "user.age"], .field "user.age"] = true ∧
      ∃ holds, twoAges.evaluate (.comparison .within (.number ⟨0x4024000000000000⟩)
          (.array [.string "'x'", .array [.field "user.age"], .field "user.age"])) = .ok holds ∧
        twoAges.evaluate (Expr.equalsAny (.number ⟨0x4024000000000000⟩) (.string "'x'")
          [.array [.field "user.age"], .field "user.age"]) = .ok holds :=
  ⟨rfl, rfl, rfl, evaluate_within_array rfl rfl rfl⟩

end Context

end RecordQuery
