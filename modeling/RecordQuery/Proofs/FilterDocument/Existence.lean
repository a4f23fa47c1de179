import RecordQuery.Proofs.FilterDocument.Reading
import RecordQuery.Proofs.Pattern.Transparency
import RecordQuery.Proofs.Syntax.Validity

/-! # Queries with a filter document

A parsed query has a filter document exactly if it is valid and all of its
comparisons have a field on the left.  The negations that are pushed down on the
way neither lose a literal condition nor bring one in.
-/

namespace RecordQuery

namespace Expr

theorem isOperand_of_mem {item : Expr} {items : List Expr} (hitem : item ∈ items)
    (h : areOperands items = true) : item.isOperand = true := by
  induction items with
  | nil => cases hitem
  | cons first items ih =>
      simp only [areOperands, Bool.and_eq_true] at h
      rcases List.mem_cons.mp hitem with rfl | hitem
      · exact h.1
      · exact ih hitem h.2

theorem Occurs.isOperand {part tree : Expr} (h : Occurs part tree)
    (htree : tree.isOperand = true) : part.isOperand = true := by
  induction h with
  | self => exact htree
  | item hitem _ ih => exact ih (isOperand_of_mem hitem htree)
  | operand | comparisonLeft | comparisonRight | logicalLeft | logicalRight => cases htree

/-- The tree is valid, and its comparisons have their field on the left. -/
def Admissible (tree : Expr) : Prop :=
  tree.validate = .ok () ∧
    ∀ op left right, Occurs (.comparison op left right) tree → left.isField = true

theorem admissible_field (path : String) : Admissible (.field path) := by
  refine ⟨rfl, fun op left right h => ?_⟩
  cases h

theorem not_admissible_of_isLiteral {tree : Expr} (h : tree.isLiteral = true) :
    ¬ tree.Admissible := by
  rintro ⟨hvalid, -⟩
  rw [validate, if_pos h] at hvalid
  cases hvalid

theorem admissible_not_iff {operand : Expr} :
    Admissible (.not operand) ↔ operand.Admissible := by
  unfold Admissible
  rw [validate_not_iff]
  refine and_congr Iff.rfl ⟨fun h op left right hoccurs => ?_, fun h op left right hoccurs => ?_⟩
  · exact h op left right (.operand hoccurs)
  · cases hoccurs with
    | operand hoccurs => exact h op left right hoccurs

theorem admissible_logical_iff {op : Connective} {left right : Expr} :
    Admissible (.logical op left right) ↔ left.Admissible ∧ right.Admissible := by
  unfold Admissible
  rw [validate_logical_iff, and_and_and_comm]
  refine and_congr Iff.rfl ⟨fun h => ⟨?_, ?_⟩, ?_⟩
  · exact fun op' l r hoccurs => h op' l r (.logicalLeft hoccurs)
  · exact fun op' l r hoccurs => h op' l r (.logicalRight hoccurs)
  · rintro ⟨hleft, hright⟩ op' l r hoccurs
    cases hoccurs with
    | logicalLeft hoccurs => exact hleft op' l r hoccurs
    | logicalRight hoccurs => exact hright op' l r hoccurs

theorem admissible_comparison_iff {op : Comparison} {left right : Expr}
    (hleft : left.isOperand = true) (hright : right.isOperand = true) :
    Admissible (.comparison op left right) ↔ left.isField = true := by
  unfold Admissible
  rw [validate_comparison_iff]
  constructor
  · exact fun h => h.2 op left right .self
  · intro hfield
    refine ⟨by rw [hfield, Bool.true_or], fun op' l r hoccurs => ?_⟩
    cases hoccurs with
    | self => exact hfield
    | comparisonLeft hoccurs => cases hoccurs.isOperand hleft
    | comparisonRight hoccurs => cases hoccurs.isOperand hright

end Expr

namespace FilterDocument

def DocumentError.isShape : DocumentError → Bool
  | .literalCondition | .literalNegated | .fieldNotOnLeft _ => true
  | .missingWildcard | .notFinite _ | .timeOutOfRange => false

/-- The result is a document if the condition holds, and an error about the shape if not. -/
def Decided (condition : Prop) (result : Except DocumentError Json) : Prop :=
  (condition ∧ ∃ doc, result = .ok doc) ∨
    (¬ condition ∧ ∃ error : DocumentError, error.isShape = true ∧ result = .error error)

namespace Decided

variable {p q : Prop} {x y : Except DocumentError Json}

theorem congr (h : Decided p x) (hiff : q ↔ p) : Decided q x := by
  rwa [Decided, hiff]

theorem ok_iff (h : Decided p x) : (∃ doc, x = .ok doc) ↔ p := by
  rcases h with ⟨hp, doc, rfl⟩ | ⟨hp, error, -, rfl⟩
  · simp [hp]
  · simp [hp]

theorem error_iff (h : Decided p x) :
    (∃ error : DocumentError, error.isShape = true ∧ x = .error error) ↔ ¬ p := by
  rcases h with ⟨hp, doc, rfl⟩ | ⟨hp, error, hshape, rfl⟩
  · simp [hp]
  · simp [hp, hshape]

theorem pair (hx : Decided p x) (hy : Decided q y) (key : String) :
    Decided (p ∧ q) (do
      let left ← x
      let right ← y
      return FilterDocument.pair key left right) := by
  rcases hx with ⟨hp, left, rfl⟩ | ⟨hp, error, hshape, rfl⟩
  · rcases hy with ⟨hq, right, rfl⟩ | ⟨hq, error, hshape, rfl⟩
    · exact Or.inl ⟨⟨hp, hq⟩, _, rfl⟩
    · exact Or.inr ⟨fun h => hq h.2, error, hshape, rfl⟩
  · exact Or.inr ⟨fun h => hp h.1, error, hshape, rfl⟩

end Decided

section

variable {settings : Settings}

/-! ## Operands -/

theorem exists_nowOperand (hnow : settings.now.text?.isSome = true) :
    ∃ value, nowOperand settings = .ok value := by
  obtain ⟨text, htext⟩ := Option.isSome_iff_exists.mp hnow
  unfold nowOperand
  rw [htext]
  exact ⟨_, rfl⟩

mutual

/-- Operands are written without fail once the current time is. -/
theorem exists_operand (hnow : settings.now.text?.isSome = true) {tree : Expr}
    (htree : tree.isOperand = true) : ∃ value, operand settings tree = .ok value := by
  match tree with
  | .number x =>
      rw [Expr.isOperand] at htree
      rw [operand, numberOperand, if_pos htree]
      exact ⟨_, rfl⟩
  | .now =>
      rw [operand]
      exact exists_nowOperand hnow
  | .array items =>
      rw [Expr.isOperand] at htree
      obtain ⟨values, hvalues⟩ := exists_operands hnow htree
      rw [operand, hvalues]
      exact ⟨_, rfl⟩
  | .boolean _ | .null | .string _ | .regexp _ | .field _ => exact ⟨_, rfl⟩
  | .not _ | .comparison .. | .logical .. => cases htree

theorem exists_operands (hnow : settings.now.text?.isSome = true) {items : List Expr}
    (hitems : Expr.areOperands items = true) : ∃ values, operands settings items = .ok values := by
  match items with
  | [] => exact ⟨[], rfl⟩
  | item :: items =>
      simp only [Expr.areOperands, Bool.and_eq_true] at hitems
      obtain ⟨value, hvalue⟩ := exists_operand hnow hitems.1
      obtain ⟨values, hvalues⟩ := exists_operands hnow hitems.2
      rw [operands, hvalue, hvalues]
      exact ⟨_, rfl⟩

end

theorem exists_comparand (hnow : settings.now.text?.isSome = true) {op : Comparison}
    {right : Expr} (hright : right.isOperand = true) (hfits : op.fits right = true) :
    ∃ value, (operand settings right >>= comparand settings op) = .ok value := by
  obtain ⟨value, hvalue⟩ := exists_operand hnow hright
  rw [hvalue]
  by_cases hlike : op = .like
  · subst hlike
    -- the grammar has a string literal behind LIKE, which is written as a text
    cases right <;> cases hfits
    cases hvalue
    exact ⟨_, rfl⟩
  · refine ⟨value, ?_⟩
    show comparand settings op value = .ok value
    cases op <;> first | rfl | exact absurd rfl hlike

/-! ## Conditions -/

theorem decided_comparison (hnow : settings.now.text?.isSome = true) {op : Comparison}
    {left right : Expr} (hright : right.isOperand = true) (hfits : op.fits right = true)
    (write : String → Json → Json) :
    Decided (left.isField = true) (do
      let path ← leftPath op left
      let value ← comparand settings op (← operand settings right)
      return write path value) := by
  obtain ⟨value, hvalue⟩ := exists_comparand hnow hright hfits
  obtain ⟨inner, hinner, hinto⟩ := bind_eq_ok hvalue
  rw [hinner]
  show Decided _ (leftPath op left >>= fun path =>
    comparand settings op inner >>= fun value => .ok (write path value))
  rw [hinto]
  cases left with
  | field path => exact Or.inl ⟨rfl, _, rfl⟩
  | number | boolean | null | now | string | regexp | array | not | comparison | logical =>
      exact Or.inr ⟨Bool.false_ne_true, _, rfl, rfl⟩

mutual

/-- Of the trees of query texts the admissible ones are written. -/
theorem decided_condition (hnow : settings.now.text?.isSome = true) {tree : Expr}
    (htree : tree.isCondition = true) : Decided tree.Admissible (condition settings tree) := by
  match tree with
  | .field path => exact Or.inl ⟨Expr.admissible_field path, _, rfl⟩
  | .not inner =>
      rw [Expr.isCondition] at htree
      rw [condition]
      exact (decided_negation hnow htree).congr Expr.admissible_not_iff
  | .comparison op left right =>
      simp only [Expr.isCondition, Bool.and_eq_true] at htree
      obtain ⟨⟨hleft, hright⟩, hfits⟩ := htree
      rw [condition]
      exact (decided_comparison hnow hright hfits _).congr
        (Expr.admissible_comparison_iff hleft hright)
  | .logical op left right =>
      simp only [Expr.isCondition, Bool.and_eq_true] at htree
      rw [condition]
      exact ((decided_condition hnow htree.1).pair (decided_condition hnow htree.2) _).congr
        Expr.admissible_logical_iff
  | .number _ | .boolean _ | .null | .now | .string _ | .regexp _ | .array _ =>
      exact Or.inr ⟨Expr.not_admissible_of_isLiteral rfl, _, rfl, rfl⟩

theorem decided_negation (hnow : settings.now.text?.isSome = true) {tree : Expr}
    (htree : tree.isCondition = true) : Decided tree.Admissible (negation settings tree) := by
  match tree with
  | .field path => exact Or.inl ⟨Expr.admissible_field path, _, rfl⟩
  | .not inner =>
      rw [Expr.isCondition] at htree
      rw [negation]
      exact (decided_condition hnow htree).congr Expr.admissible_not_iff
  | .comparison op left right =>
      simp only [Expr.isCondition, Bool.and_eq_true] at htree
      obtain ⟨⟨hleft, hright⟩, hfits⟩ := htree
      rw [negation]
      exact (decided_comparison hnow hright hfits _).congr
        (Expr.admissible_comparison_iff hleft hright)
  | .logical .and left right =>
      simp only [Expr.isCondition, Bool.and_eq_true] at htree
      rw [negation]
      exact ((decided_negation hnow htree.1).pair (decided_negation hnow htree.2) _).congr
        Expr.admissible_logical_iff
  | .logical .or left right =>
      -- one document for neither of the two: below OR the negation goes no deeper
      simp only [Expr.isCondition, Bool.and_eq_true] at htree
      rw [negation]
      exact ((decided_condition hnow htree.1).pair (decided_condition hnow htree.2) _).congr
        Expr.admissible_logical_iff
  | .number _ | .boolean _ | .null | .now | .string _ | .regexp _ | .array _ =>
      exact Or.inr ⟨Expr.not_admissible_of_isLiteral rfl, _, rfl, rfl⟩

end

end

/--
A parsed query has a filter document exactly if it is valid and every comparison
in it has a field on the left.  Every other one fails for its shape.
-/
theorem exists_ofQuery_iff {dialect : Dialect} {text : String} {tree : Expr} {settings : Settings}
    (hparse : parse dialect text = .ok (some tree)) (hnow : settings.now.text?.isSome = true) :
    ((∃ doc, ofQuery settings (some tree) = .ok doc) ↔
      tree.validate = .ok () ∧
        ∀ op left right, Expr.Occurs (.comparison op left right) tree → left.isField = true) ∧
    ((∃ error : DocumentError, error.isShape = true ∧
        ofQuery settings (some tree) = .error error) ↔
      ¬ (tree.validate = .ok () ∧
        ∀ op left right, Expr.Occurs (.comparison op left right) tree → left.isField = true)) := by
  have hdecided := decided_condition hnow (isCondition_of_parse hparse)
  exact ⟨hdecided.ok_iff, hdecided.error_iff⟩

/-- A valid query with a field on the right, below a negation, has no document. -/
theorem exists_ofQuery_iff_of_field_on_right :
    ∃ tree, parse .extended "NOT (a AND 'x' IN b)" = .ok (some tree) ∧
      (Timestamp.mk 0 0 0).text?.isSome = true ∧ tree.validate = .ok () ∧
      (∃ error : DocumentError, error.isShape = true ∧
        ofQuery ⟨true, ⟨0, 0, 0⟩⟩ (some tree) = .error error) ∧
      ¬ ∃ doc, ofQuery ⟨true, ⟨0, 0, 0⟩⟩ (some tree) = .ok doc := by
  have hparse : parse .extended "NOT (a AND 'x' IN b)" =
      .ok (some (.not (.logical .and (.field "a")
        (.comparison .within (.string "'x'") (.field "b"))))) := by cbv
  have hnow : (Timestamp.mk 0 0 0).text?.isSome = true := by decide +kernel
  have hright : ¬ ∀ op left right, Expr.Occurs (.comparison op left right)
      (.not (.logical .and (.field "a") (.comparison .within (.string "'x'") (.field "b")))) →
      left.isField = true := by
    intro h
    cases h _ _ _ (.operand (.logicalRight .self))
  obtain ⟨hok, herror⟩ := @exists_ofQuery_iff _ _ _ ⟨true, ⟨0, 0, 0⟩⟩ hparse hnow
  exact ⟨_, hparse, hnow, rfl, herror.mpr fun h => hright h.2, fun h => hright (hok.mp h).2⟩

end FilterDocument

end RecordQuery
