import RecordQuery.Proofs.Pattern.Transparency
import RecordQuery.Query

/-! # The time of evaluation

Only NOW stands for the time, so a query without it treats a record alike at all
times.
-/

namespace RecordQuery

namespace Context

def atTime (ctx : Context) (now : Timestamp) : Context :=
  { ctx with now }

section

variable {ctx : Context} {now : Timestamp}

mutual

/-- A tree without NOW stands for the same at all times. -/
theorem term_atTime {tree : Expr} (h : ¬ Expr.Occurs .now tree) :
    (ctx.atTime now).term tree = ctx.term tree := by
  match tree with
  | .now => exact absurd .self h
  | .number _ | .boolean _ | .null | .string _ => rfl
  | .regexp raw =>
      rw [term_regexp, term_regexp]
      rfl
  | .array items =>
      rw [term_array, term_array, itemValues_atTime fun item hitem hnow => h (.item hitem hnow)]
  | .field path =>
      rw [term_field, term_field]
      rfl
  | .not operand => rw [term_not, term_not, term_atTime fun hnow => h (.operand hnow)]
  | .logical op left right =>
      have hleft := term_atTime fun hnow => h (.logicalLeft hnow)
      have hright := term_atTime fun hnow => h (.logicalRight hnow)
      rw [term_logical, term_logical, hleft, hright]
  | .comparison op left right =>
      have hleft := term_atTime fun hnow => h (.comparisonLeft hnow)
      have hright := term_atTime fun hnow => h (.comparisonRight hnow)
      by_cases hmatches : op = .matches
      · subst hmatches
        rw [term_matches, term_matches, hleft, hright]
      by_cases hlike : op = .like
      · subst hlike
        rw [term_like, term_like, hleft, hright]
        rfl
      rw [term_comparison hmatches hlike, term_comparison hmatches hlike, hleft, hright]

theorem itemValues_atTime {items : List Expr} (h : ∀ item ∈ items, ¬ Expr.Occurs .now item) :
    (ctx.atTime now).itemValues items = ctx.itemValues items := by
  match items with
  | [] => rfl
  | item :: items =>
      rw [List.forall_mem_cons] at h
      rw [itemValues_cons, itemValues_cons, term_atTime h.1, itemValues_atTime h.2]

end

end

end Context

namespace Query

def UsesNow (query : Query) : Prop :=
  ∃ tree ∈ query.tree, Expr.Occurs .now tree

/-- A query without NOW treats a record alike at all times. -/
theorem matchesRecord_of_not_usesNow {query : Query} (h : ¬ query.UsesNow)
    (now now' : Timestamp) (record : Value) :
    query.matchesRecord now record = query.matchesRecord now' record := by
  cases htree : query.tree with
  | none => simp only [matchesRecord, htree]
  | some tree =>
      have hnow : ¬ Expr.Occurs .now tree := fun hoccurs => h ⟨tree, htree, hoccurs⟩
      have hterm : (query.context now record).term tree = (query.context now' record).term tree :=
        @Context.term_atTime (query.context now' record) now tree hnow
      simp only [matchesRecord, htree, Context.evaluate, hterm]

end Query

end RecordQuery
