import RecordQuery.Proofs.Results
import RecordQuery.Syntax.Validity

/-! # Validity of the parts of a tree

A tree is valid if its parts are, and if each comparison has a field on one side.
-/

namespace RecordQuery

namespace Expr

/-- A part is checked like a whole query, under the error of the operation around it. -/
theorem validate_part_iff (error : ValidationError) {part : Expr} :
    (if part.isLiteral then .error error else part.validateParts) = .ok () ↔
      part.validate = .ok () := by
  rw [validate]
  cases part.isLiteral <;> simp

theorem validate_not_iff {operand : Expr} :
    (Expr.not operand).validate = .ok () ↔ operand.validate = .ok () :=
  validate_part_iff .literalNegated

theorem validate_logical_iff {op : Connective} {left right : Expr} :
    (Expr.logical op left right).validate = .ok () ↔
      left.validate = .ok () ∧ right.validate = .ok () := by
  have hparts : (Expr.logical op left right).validate =
      ((if left.isLiteral then .error (.literalOperand op) else left.validateParts) >>= fun _ =>
        if right.isLiteral then .error (.literalOperand op) else right.validateParts) := by
    change validateParts _ = _
    rw [validateParts]
    split <;> rfl
  rw [hparts]
  constructor
  · intro h
    obtain ⟨⟨⟩, hleft, hright⟩ := bind_eq_ok h
    exact ⟨(validate_part_iff _).mp hleft, (validate_part_iff _).mp hright⟩
  · rintro ⟨hleft, hright⟩
    rw [(validate_part_iff _).mpr hleft]
    exact (validate_part_iff _).mpr hright

theorem validate_comparison_iff {op : Comparison} {left right : Expr} :
    (Expr.comparison op left right).validate = .ok () ↔
      (left.isField || right.isField) = true := by
  change (if left.isField || right.isField then .ok () else .error (.noFieldOperand op)) =
    (.ok () : Except ValidationError Unit) ↔ _
  cases left.isField || right.isField <;> simp

end Expr

end RecordQuery
