import RecordQuery.Proofs.Syntax.ParserComplete

/-! # The trees of query texts

Comparisons stand between operands only, and the operators with a restricted
right operand have one of the right shape.
-/

namespace RecordQuery

/-- Whether the right operand of a comparison has the shape that the grammar asks for. -/
def Comparison.fits : Comparison → Expr → Bool
  | .matches, .regexp _ => true
  | .matches, _ => false
  | .like, .string _ => true
  | .like, _ => false
  | .within, .array _ | .within, .string _ | .within, .field _ => true
  | .within, _ => false
  | _, _ => true

namespace Expr

mutual

/-- Whether the tree is an operand: a field reference or a literal with finite numbers. -/
def isOperand : Expr → Bool
  | .number x => x.isFinite
  | .boolean _ | .null | .now | .string _ | .regexp _ | .field _ => true
  | .array items => areOperands items
  | .not _ | .comparison .. | .logical .. => false

def areOperands : List Expr → Bool
  | [] => true
  | item :: items => isOperand item && areOperands items

end

/-- Whether the tree is one that a query text can have. -/
def isCondition : Expr → Bool
  | .not inner => isCondition inner
  | .comparison op left right => isOperand left && isOperand right && op.fits right
  | .logical _ left right => isCondition left && isCondition right
  | tree => isOperand tree

theorem isCondition_of_isOperand {tree : Expr} (h : tree.isOperand = true) :
    tree.isCondition = true := by
  cases tree with
  | not | comparison | logical => simp [isOperand] at h
  | number | boolean | null | now | string | regexp | array | field => exact h

mutual

def fieldPaths : Expr → List String
  | .field path => [path]
  | .array items => itemFieldPaths items
  | .not operand => fieldPaths operand
  | .comparison _ left right => fieldPaths left ++ fieldPaths right
  | .logical _ left right => fieldPaths left ++ fieldPaths right
  | _ => []

def itemFieldPaths : List Expr → List String
  | [] => []
  | item :: items => fieldPaths item ++ itemFieldPaths items

end

end Expr

theorem isFinite_of_finiteNumber? {lexeme : String} {x : Binary64}
    (h : Parse.finiteNumber? lexeme = some x) : x.isFinite = true := by
  unfold Parse.finiteNumber? at h
  split at h
  · split at h
    · rename_i hfinite
      cases h
      exact hfinite
    · cases h
  · cases h

theorem Token.isOperand_of_operand? {token : Token} {tree : Expr}
    (h : token.operand? = some tree) : tree.isOperand = true := by
  cases denotes_of_operand? h with
  | number _ hx => exact isFinite_of_finiteNumber? hx
  | key | string | regexp | boolean | null | now => rfl

namespace Derives

/-- The start of an operand decides whether it fits an operator. -/
theorem fits_of_takes {op : Comparison} {first : Token} {us : List Token} {tree : Expr}
    (h : Derives .operand (first :: us) tree) (htakes : op.takes first.kind = true) :
    op.fits tree = true := by
  cases h with
  | leaf htree =>
      cases Token.denotes_of_operand? htree with
      | key hkind | string hkind | regexp hkind | number hkind | boolean hkind | null hkind
      | now hkind =>
          rw [hkind] at htakes
          cases op <;> first | rfl | cases htakes
  | emptyArray hfirst | array hfirst =>
      rw [hfirst] at htakes
      cases op <;> first | rfl | cases htakes

theorem shape {symbol : Symbol} {ts : List Token} {tree : Expr} (h : Derives symbol ts tree) :
    match symbol with
    | .operand | .items => tree.isOperand = true
    | _ => tree.isCondition = true := by
  induction h with
  | leaf htree => exact Token.isOperand_of_operand? htree
  | emptyArray => rfl
  | array _ _ _ ih => exact ih
  | lastItem _ ih => simpa [Expr.isOperand, Expr.areOperands] using ih
  | nextItem _ _ _ ihTree ihItems =>
      simp only [Expr.isOperand, Expr.areOperands, Bool.and_eq_true] at ihTree ihItems ⊢
      exact ⟨ihTree, ihItems⟩
  | bare _ ih => exact Expr.isCondition_of_isOperand ih
  | comparison _ _ hright htakes ihLeft ihRight =>
      simp only [Expr.isCondition, Bool.and_eq_true]
      exact ⟨⟨ihLeft, ihRight⟩, hright.fits_of_takes htakes⟩
  | nested _ _ _ ih | single _ ih | positive _ ih | conjunct _ ih | disjunct _ ih => exact ih
  | not _ _ ih => exact ih
  | and _ _ _ ihLeft ihRight | or _ _ _ ihLeft ihRight =>
      simp only [Expr.isCondition, Bool.and_eq_true]
      exact ⟨ihLeft, ihRight⟩

end Derives

theorem isCondition_of_parse {dialect : Dialect} {text : String} {tree : Expr}
    (h : parse dialect text = .ok (some tree)) : tree.isCondition = true :=
  (parse_eq_some_iff_derives.mp h).2.shape

end RecordQuery
