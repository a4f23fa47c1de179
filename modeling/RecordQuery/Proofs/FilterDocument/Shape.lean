import RecordQuery.FilterDocument
import RecordQuery.Proofs.Results
import RecordQuery.Proofs.Syntax.ParsedTrees

/-! # The shape of filter documents

The documents of a tree and of its negation as rules, one for each thing that can
be written.  A fact about all documents is an induction on the rules, with no
look at how negations are pushed down.
-/

namespace RecordQuery

namespace FilterDocument

/-! ## The parts of what is written -/

section

variable {settings : Settings} {op : Comparison} {left right : Expr} {doc : Json}

/-- The parts of a comparison that has a document. -/
theorem comparison_eq_ok {write : String → Json → Json}
    (h : (do
      let path ← leftPath op left
      let value ← comparand settings op (← operand settings right)
      return write path value) = .ok doc) :
    ∃ path value, left = .field path ∧
      (operand settings right >>= comparand settings op) = .ok value ∧ doc = write path value := by
  obtain ⟨path, hpath, h⟩ := bind_eq_ok h
  obtain ⟨inner, hinner, h⟩ := bind_eq_ok h
  obtain ⟨value, hvalue, h⟩ := bind_eq_ok h
  cases h
  refine ⟨path, value, ?_, ?_, rfl⟩
  · cases left <;> cases hpath
    rfl
  · rw [hinner]
    exact hvalue

/-- The parts of a logical operation that has a document. -/
theorem pair_eq_ok {first second : Except DocumentError Json} {key : String}
    (h : (do
      let left ← first
      let right ← second
      return pair key left right) = .ok doc) :
    ∃ left right, first = .ok left ∧ second = .ok right ∧ doc = pair key left right := by
  obtain ⟨left, hleft, h⟩ := bind_eq_ok h
  obtain ⟨right, hright, h⟩ := bind_eq_ok h
  cases h
  exact ⟨left, right, hleft, hright, rfl⟩

theorem operands_append (before after : List Expr) :
    operands settings (before ++ after) =
      (operands settings before >>= fun vs => operands settings after >>= fun ws =>
        .ok (vs ++ ws)) := by
  induction before with
  | nil => exact (bind_pure _).symm
  | cons first before ih =>
      rw [List.cons_append, operands, operands, ih]
      simp only [bind_assoc, pure_bind]
      rfl

/-- What fits a pattern operator is written as a regular expression. -/
theorem exists_regularExpression {value : Json} (hfits : op.fits right = true)
    (hvalue : (operand settings right >>= comparand settings op) = .ok value)
    (hkey : comparisonKey op = "$regex") : ∃ body, value = single "$regularExpression" body := by
  cases op with
  | like =>
      cases right <;> cases hfits
      cases hvalue
      exact ⟨_, rfl⟩
  | «matches» =>
      cases right <;> cases hfits
      cases hvalue
      exact ⟨_, rfl⟩
  | equal | notEqual | less | lessEqual | greater | greaterEqual | within | contains =>
      exact absurd hkey (by decide)

end

/-! ## Rules -/

/-- The document is written for the tree, or for its negation if not `positive`. -/
inductive Writes (settings : Settings) : Bool → Expr → Json → Prop
  | field {positive : Bool} (path : String) :
      Writes settings positive (.field path) (existence path positive)
  | not {positive : Bool} {operand : Expr} {doc : Json}
      (h : Writes settings (!positive) operand doc) :
      Writes settings positive (.not operand) doc
  | comparison {op : Comparison} (path : String) {right : Expr} {value : Json}
      (h : (operand settings right >>= comparand settings op) = .ok value) :
      Writes settings true (.comparison op (.field path) right) (comparison op path value)
  | negatedComparison {op : Comparison} (path : String) {right : Expr} {value : Json}
      (h : (operand settings right >>= comparand settings op) = .ok value) :
      Writes settings false (.comparison op (.field path) right) (negatedComparison op path value)
  | logical {op : Connective} {left right : Expr} {leftDoc rightDoc : Json}
      (hleft : Writes settings true left leftDoc) (hright : Writes settings true right rightDoc) :
      Writes settings true (.logical op left right) (pair (connectiveKey op) leftDoc rightDoc)
  | notBoth {left right : Expr} {leftDoc rightDoc : Json}
      (hleft : Writes settings false left leftDoc) (hright : Writes settings false right rightDoc) :
      Writes settings false (.logical .and left right) (pair "$or" leftDoc rightDoc)
  | neither {left right : Expr} {leftDoc rightDoc : Json}
      (hleft : Writes settings true left leftDoc) (hright : Writes settings true right rightDoc) :
      Writes settings false (.logical .or left right) (pair "$nor" leftDoc rightDoc)

variable {settings : Settings}

mutual

theorem writes_of_condition {tree : Expr} {doc : Json} (h : condition settings tree = .ok doc) :
    Writes settings true tree doc := by
  match tree with
  | .field path =>
      cases h
      exact .field path
  | .not inner =>
      rw [condition] at h
      exact .not (writes_of_negation h)
  | .comparison op left right =>
      rw [condition] at h
      obtain ⟨path, value, rfl, hvalue, rfl⟩ := comparison_eq_ok h
      exact .comparison path hvalue
  | .logical op left right =>
      rw [condition] at h
      obtain ⟨leftDoc, rightDoc, hleft, hright, rfl⟩ := pair_eq_ok h
      exact .logical (writes_of_condition hleft) (writes_of_condition hright)
  | .number _ | .boolean _ | .null | .now | .string _ | .regexp _ | .array _ => cases h

theorem writes_of_negation {tree : Expr} {doc : Json} (h : negation settings tree = .ok doc) :
    Writes settings false tree doc := by
  match tree with
  | .field path =>
      cases h
      exact .field path
  | .not inner =>
      rw [negation] at h
      exact .not (writes_of_condition h)
  | .comparison op left right =>
      rw [negation] at h
      obtain ⟨path, value, rfl, hvalue, rfl⟩ := comparison_eq_ok h
      exact .negatedComparison path hvalue
  | .logical .and left right =>
      rw [negation] at h
      obtain ⟨leftDoc, rightDoc, hleft, hright, rfl⟩ := pair_eq_ok h
      exact .notBoth (writes_of_negation hleft) (writes_of_negation hright)
  | .logical .or left right =>
      rw [negation] at h
      obtain ⟨leftDoc, rightDoc, hleft, hright, rfl⟩ := pair_eq_ok h
      exact .neither (writes_of_condition hleft) (writes_of_condition hright)
  | .number _ | .boolean _ | .null | .now | .string _ | .regexp _ | .array _ => cases h

end

theorem writes_of_ofQuery {tree : Expr} {doc : Json} (h : ofQuery settings (some tree) = .ok doc) :
    Writes settings true tree doc :=
  writes_of_condition h

end FilterDocument

end RecordQuery
