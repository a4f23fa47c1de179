import RecordQuery.Proofs.Evaluation.Steps
import RecordQuery.Proofs.Value.Symmetry

/-! # Comparisons from right to left

A comparison holds exactly if the operator that says the same the other way
round holds with the two sides exchanged.  Which side is evaluated first decides
only between two failures.
-/

namespace RecordQuery

namespace Comparison

/-- The operator that says the same from right to left; those of patterns have none. -/
def mirrored? : Comparison → Option Comparison
  | .equal => some .equal
  | .notEqual => some .notEqual
  | .less => some .greater
  | .lessEqual => some .greaterEqual
  | .greater => some .less
  | .greaterEqual => some .lessEqual
  | .within => some .contains
  | .contains => some .within
  | .like | .matches => none

variable {op op' : Comparison}

theorem mirrored?_symm (h : op.mirrored? = some op') : op'.mirrored? = some op := by
  cases op <;> cases h <;> rfl

/-- Only operators of patterns treat their sides in ways of their own. -/
theorem ne_pattern_of_mirrored? (h : op.mirrored? = some op') : op ≠ .matches ∧ op ≠ .like := by
  constructor
  all_goals
    rintro rfl
    cases h

theorem holds_mirrored (h : op.mirrored? = some op') (left right : Value) :
    op'.holds right left = op.holds left right := by
  cases op with
  | equal | notEqual =>
      cases h
      simp only [holds, Value.looseEq_comm right left]
  | less | lessEqual | greater | greaterEqual =>
      cases h
      simp only [holds, Value.compare?_swap left right, map_swap_beq, Ordering.swap]
  | within | contains =>
      cases h
      rfl
  | like | «matches» => cases h

end Comparison

/-- Whether a term has values to compare does not depend on the operator. -/
theorem Term.toValues_eq_ok {op : Comparison} {t : Term} {vs : List Value}
    (h : t.toValues op = .ok vs) (op' : Comparison) : t.toValues op' = .ok vs := by
  cases t with
  | values | literal => exact h
  | pattern | truth => cases h

namespace Context

variable {ctx : Context} {op op' : Comparison} {left right : Expr}

theorem operand_eq_ok {tree : Expr} {vs : List Value}
    (h : (ctx.term tree >>= Term.toValues op) = .ok vs) (op' : Comparison) :
    (ctx.term tree >>= Term.toValues op') = .ok vs := by
  obtain ⟨t, ht, hvs⟩ := bind_eq_ok h
  rw [ht]
  exact Term.toValues_eq_ok hvs op'

/-- If any two values stand in a relation, any two do so from right to left. -/
theorem holdsBetween_mirrored (h : op.mirrored? = some op') (ls rs : List Value) :
    holdsBetween op' rs ls = holdsBetween op ls rs := by
  rw [Bool.eq_iff_iff]
  simp only [holdsBetween, List.any_eq_true, Comparison.holds_mirrored h]
  constructor
  all_goals
    rintro ⟨v, hv, w, hw, hholds⟩
    exact ⟨w, hw, v, hv, hholds⟩

theorem evaluate_eq_ok_mirrored (h : op.mirrored? = some op') {holds : Bool}
    (heval : ctx.evaluate (.comparison op left right) = .ok holds) :
    ctx.evaluate (.comparison op' right left) = .ok holds := by
  obtain ⟨hmatches, hlike⟩ := Comparison.ne_pattern_of_mirrored? h
  obtain ⟨hmatches', hlike'⟩ :=
    Comparison.ne_pattern_of_mirrored? (Comparison.mirrored?_symm h)
  rw [evaluate_comparison hmatches hlike] at heval
  obtain ⟨ls, hls, heval⟩ := bind_eq_ok heval
  obtain ⟨rs, hrs, heval⟩ := bind_eq_ok heval
  rw [evaluate_comparison hmatches' hlike', operand_eq_ok hrs op', operand_eq_ok hls op', ← heval]
  exact congrArg Except.ok (holdsBetween_mirrored h ls rs)

/--
A comparison succeeds exactly if the mirrored operator succeeds with the sides
exchanged, and then with the same truth.
-/
theorem evaluate_mirrored (h : op.mirrored? = some op') (holds : Bool) :
    ctx.evaluate (.comparison op left right) = .ok holds ↔
      ctx.evaluate (.comparison op' right left) = .ok holds :=
  ⟨evaluate_eq_ok_mirrored h, evaluate_eq_ok_mirrored (Comparison.mirrored?_symm h)⟩

/-- Two users, the age of one of them being unknown. -/
def twoAges : Context where
  record := .object [("user", .array [.object [("age", .null)], .object [("age", .integer 10)]])]
  paths := .default
  caseSensitive := true
  patterns := .empty true
  now := ⟨0, 0, 0⟩

/-- Some age is at most ten and a half, and ten and a half is at least some age. -/
theorem evaluate_mirrored_of_fanOut :
    Comparison.lessEqual.mirrored? = some .greaterEqual ∧
      twoAges.evaluate
        (.comparison .lessEqual (.field "user.age") (.number ⟨0x4025000000000000⟩)) = .ok true ∧
      twoAges.evaluate
        (.comparison .greaterEqual (.number ⟨0x4025000000000000⟩) (.field "user.age")) =
          .ok true := by
  have hleft : twoAges.evaluate
      (.comparison .lessEqual (.field "user.age") (.number ⟨0x4025000000000000⟩)) = .ok true := by
    decide +kernel
  exact ⟨rfl, hleft, (evaluate_mirrored rfl true).mp hleft⟩

end Context

end RecordQuery
