import RecordQuery.Proofs.Evaluation.Failures

/-! # Negations at the leaves

Driving the negations of a query down to its leaves changes no evaluation.  The
connectives that take each other's place on the way are settled by opposite
sides, so the same leaves are evaluated in the same order, and the same one
fails.
-/

namespace RecordQuery

/-- The connective that takes the place of another one below a negation. -/
def Connective.dual : Connective → Connective
  | .and => .or
  | .or => .and

namespace Expr

mutual

/--
The tree with its negations driven through connectives and negations, down to the
leaves: field references, comparisons and literals.  The operands of a comparison
stand for values, so it is a leaf whatever they are.
-/
def negationNormal : Expr → Expr
  | .not operand => negated operand
  | .logical op left right => .logical op (negationNormal left) (negationNormal right)
  | leaf => leaf

def negated : Expr → Expr
  | .not operand => negationNormal operand
  | .logical op left right => .logical op.dual (negated left) (negated right)
  | leaf => .not leaf

end

/-- Whether the tree is neither a negation nor a logical operation. -/
def isLeaf : Expr → Bool
  | .not _ | .logical .. => false
  | _ => true

/-- Whether negations stand on leaves only. -/
def isNegationNormal : Expr → Bool
  | .not operand => operand.isLeaf
  | .logical _ left right => isNegationNormal left && isNegationNormal right
  | _ => true

mutual

theorem isNegationNormal_negationNormal (tree : Expr) :
    tree.negationNormal.isNegationNormal = true := by
  match tree with
  | .not operand =>
      rw [negationNormal]
      exact isNegationNormal_negated operand
  | .logical op left right =>
      simp [negationNormal, isNegationNormal, isNegationNormal_negationNormal left,
        isNegationNormal_negationNormal right]
  | .number _ | .boolean _ | .null | .now | .string _ | .regexp _ | .array _ | .field _
  | .comparison .. => simp [negationNormal, isNegationNormal]

theorem isNegationNormal_negated (tree : Expr) : tree.negated.isNegationNormal = true := by
  match tree with
  | .not operand =>
      rw [negated]
      exact isNegationNormal_negationNormal operand
  | .logical op left right =>
      simp [negated, isNegationNormal, isNegationNormal_negated left,
        isNegationNormal_negated right]
  | .number _ | .boolean _ | .null | .now | .string _ | .regexp _ | .array _ | .field _
  | .comparison .. => simp [negated, isNegationNormal, isLeaf]

end

end Expr

namespace Context

variable {ctx : Context}

/-- The opposite of what settles a connective settles the dual one. -/
theorem settles_dual (op : Connective) (holds : Bool) :
    settles op.dual (!holds) = settles op holds := by
  cases op <;> cases holds <;> rfl

theorem evaluate_not_not (operand : Expr) :
    ctx.evaluate (.not (.not operand)) = ctx.evaluate operand := by
  simp only [evaluate_not, bind_assoc]
  cases ctx.evaluate operand with
  | error error => rfl
  | ok holds =>
      show Except.ok (!!holds) = Except.ok holds
      rw [Bool.not_not]

/-- De Morgan: the right side is evaluated for the negated sides where it was before. -/
theorem evaluate_not_logical (op : Connective) (left right : Expr) :
    ctx.evaluate (.not (.logical op left right)) =
      ctx.evaluate (.logical op.dual (.not left) (.not right)) := by
  simp only [evaluate_not, evaluate_logical, bind_assoc]
  cases ctx.evaluate left with
  | error error => rfl
  | ok holds =>
      -- both sides come to the right operand, or neither does
      show ((if settles op holds then .ok holds else ctx.evaluate right) >>= fun holds =>
          .ok !holds) =
        if settles op.dual (!holds) then .ok !holds
        else ctx.evaluate right >>= fun holds => .ok !holds
      rw [settles_dual]
      split <;> rfl

mutual

theorem evaluate_negationNormal (tree : Expr) :
    ctx.evaluate tree.negationNormal = ctx.evaluate tree := by
  match tree with
  | .not operand =>
      rw [Expr.negationNormal]
      exact evaluate_negated operand
  | .logical op left right =>
      rw [Expr.negationNormal, evaluate_logical, evaluate_logical, evaluate_negationNormal left,
        evaluate_negationNormal right]
  | .number _ | .boolean _ | .null | .now | .string _ | .regexp _ | .array _ | .field _
  | .comparison .. => rw [Expr.negationNormal] <;> simp

theorem evaluate_negated (tree : Expr) :
    ctx.evaluate tree.negated = ctx.evaluate (.not tree) := by
  match tree with
  | .not operand =>
      rw [Expr.negated, evaluate_not_not]
      exact evaluate_negationNormal operand
  | .logical op left right =>
      rw [Expr.negated, evaluate_not_logical, evaluate_logical, evaluate_logical,
        evaluate_negated left, evaluate_negated right]
  | .number _ | .boolean _ | .null | .now | .string _ | .regexp _ | .array _ | .field _
  | .comparison .. => rw [Expr.negated] <;> simp

end

/--
Every tree can be brought into negation normal form, and evaluates as before in
every context: to the same truth, or with the same failure.
-/
theorem negationNormal_faithful (ctx : Context) (tree : Expr) :
    tree.negationNormal.isNegationNormal = true ∧
      ctx.evaluate tree.negationNormal = ctx.evaluate tree :=
  ⟨tree.isNegationNormal_negationNormal, evaluate_negationNormal tree⟩

end Context

end RecordQuery
