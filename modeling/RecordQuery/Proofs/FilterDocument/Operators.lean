import RecordQuery.Proofs.FilterDocument.Shape

/-! # The operators of filter documents

The operands of `$in` in a filter document are the right operands of IN in the
query, in the same order and whatever is negated.  An array literal is written as
an array, and the other two operands that IN can have as a text.
-/

namespace RecordQuery

/-- The right operands of IN between the connectives of a tree. -/
def Expr.withinOperands : Expr → List Expr
  | .not operand => withinOperands operand
  | .comparison .within _ right => [right]
  | .logical _ left right => withinOperands left ++ withinOperands right
  | _ => []

namespace FilterDocument

/-! ## Operands in a document -/

def operandsAmong (operator : String) (tests : List (String × Json)) : List Json :=
  tests.filterMap fun test => if test.1 = operator then some test.2 else none

def negatedTests (test : String × Json) : List (String × Json) :=
  if test.1 = "$not" then
    match test.2 with
    | .object tests => tests
    | _ => []
  else []

/-- The operands of an operator in the tests of a field, negated ones included. -/
def testOperands (operator : String) (tests : List (String × Json)) : List Json :=
  operandsAmong operator (tests ++ tests.flatMap negatedTests)

mutual

/-- The operands of an operator in a filter document, in order. -/
def operandsOf (operator : String) : Json → List Json
  | .object entries => entryOperands operator entries
  | _ => []

/-- The operands in entries: a list of documents under a connective, or the tests of a field. -/
def entryOperands (operator : String) : List (String × Json) → List Json
  | [] => []
  | (_, .array documents) :: entries =>
      documentOperands operator documents ++ entryOperands operator entries
  | (_, .object tests) :: entries => testOperands operator tests ++ entryOperands operator entries
  | _ :: entries => entryOperands operator entries

def documentOperands (operator : String) : List Json → List Json
  | [] => []
  | document :: documents => operandsOf operator document ++ documentOperands operator documents

end

section

variable {operator path : String} {op : Comparison} {value : Json}

theorem operandsOf_pair (key : String) (left right : Json) :
    operandsOf operator (pair key left right) =
      operandsOf operator left ++ operandsOf operator right := by
  simp [pair, single, operandsOf, entryOperands, documentOperands]

theorem operandsOf_test (key : String) :
    operandsOf operator (single path (single key value)) =
      testOperands operator [(key, value)] := by
  simp [single, operandsOf, entryOperands]

theorem operandsOf_existence (present : Bool) : operandsOf "$in" (existence path present) = [] := by
  rw [existence, operandsOf_test]
  rfl

theorem operandsOf_comparison :
    operandsOf "$in" (comparison op path value) = if op = .within then [value] else [] := by
  rw [comparison, operandsOf_test]
  cases op <;> simp [testOperands, operandsAmong, negatedTests, comparisonKey]

/-- Where the key of a pattern is left out, there is no operator but the regular expression. -/
theorem operandsOf_negatedComparison
    (hregexp : comparisonKey op = "$regex" → ∃ body, value = single "$regularExpression" body) :
    operandsOf "$in" (negatedComparison op path value) = if op = .within then [value] else [] := by
  unfold negatedComparison
  dsimp only
  rw [operandsOf_test]
  cases op with
  | like | «matches» =>
      obtain ⟨body, rfl⟩ := hregexp rfl
      simp [testOperands, operandsAmong, negatedTests, single]
  | equal | notEqual | less | lessEqual | greater | greaterEqual | within | contains =>
      simp [testOperands, operandsAmong, negatedTests, comparisonKey, single]

end

/-! ## Operands that are written -/

section

variable {settings : Settings}

theorem operands_append_eq_ok {before after : List Expr} {vs ws : List Json}
    (hbefore : operands settings before = .ok vs) (hafter : operands settings after = .ok ws) :
    operands settings (before ++ after) = .ok (vs ++ ws) := by
  rw [operands_append, hbefore, hafter]
  rfl

theorem operands_singleton {right : Expr} {value : Json} (h : operand settings right = .ok value) :
    operands settings [right] = .ok [value] := by
  rw [operands, h]
  rfl

theorem operands_comparison {op : Comparison} {path : String} {right : Expr} {value : Json}
    (h : (operand settings right >>= comparand settings op) = .ok value) :
    operands settings (Expr.withinOperands (.comparison op (.field path) right)) =
      .ok (if op = .within then [value] else []) := by
  cases op with
  | within =>
      obtain ⟨inner, hinner, hvalue⟩ := bind_eq_ok h
      cases hvalue
      exact operands_singleton hinner
  | equal | notEqual | less | lessEqual | greater | greaterEqual => rfl
  | contains | like | «matches» => rfl

/-- No rewriting of a negation loses an operand, adds one or changes their order. -/
theorem Writes.operands_withinOperands {positive : Bool} {tree : Expr} {doc : Json}
    (h : Writes settings positive tree doc) (htree : tree.isCondition = true) :
    operands settings tree.withinOperands = .ok (operandsOf "$in" doc) := by
  induction h with
  | field path =>
      rw [operandsOf_existence]
      rfl
  | not _ ih => exact ih htree
  | comparison path hvalue => rw [operandsOf_comparison, operands_comparison hvalue]
  | negatedComparison path hvalue =>
      simp only [Expr.isCondition, Bool.and_eq_true] at htree
      rw [operandsOf_negatedComparison (exists_regularExpression htree.2 hvalue),
        operands_comparison hvalue]
  | logical _ _ ihLeft ihRight | notBoth _ _ ihLeft ihRight | neither _ _ ihLeft ihRight =>
      simp only [Expr.isCondition, Bool.and_eq_true] at htree
      rw [operandsOf_pair]
      exact operands_append_eq_ok (ihLeft htree.1) (ihRight htree.2)

/-- What the grammar has behind IN is written as an array if it is an array literal. -/
theorem operand_array_iff {right : Expr} {value : Json}
    (hfits : Comparison.within.fits right = true) (h : operand settings right = .ok value) :
    (∃ values, value = .array values) ↔ ∃ items, right = .array items := by
  cases right with
  | array items =>
      rw [operand] at h
      obtain ⟨values, -, hvalue⟩ := bind_eq_ok h
      cases hvalue
      simp
  | string raw =>
      cases h
      simp [stringOperand]
  | field path =>
      cases h
      simp
  | number | boolean | null | now | regexp | not | comparison | logical => cases hfits

theorem operands_arrays_iff {rights : List Expr} {values : List Json}
    (hfits : ∀ right ∈ rights, Comparison.within.fits right = true)
    (h : operands settings rights = .ok values) :
    (∀ value ∈ values, ∃ vs, value = .array vs) ↔
      ∀ right ∈ rights, ∃ items, right = .array items := by
  induction rights generalizing values with
  | nil =>
      cases h
      simp
  | cons right rights ih =>
      rw [operands] at h
      obtain ⟨value, hvalue, h⟩ := bind_eq_ok h
      obtain ⟨values, hvalues, h⟩ := bind_eq_ok h
      cases h
      rw [List.forall_mem_cons] at hfits
      rw [List.forall_mem_cons, List.forall_mem_cons, operand_array_iff hfits.1 hvalue,
        ih hfits.2 hvalues]

theorem fits_of_mem_withinOperands {tree right : Expr} (htree : tree.isCondition = true)
    (h : right ∈ tree.withinOperands) : Comparison.within.fits right = true := by
  match tree with
  | .not operand =>
      rw [Expr.isCondition] at htree
      rw [Expr.withinOperands] at h
      exact fits_of_mem_withinOperands htree h
  | .comparison .within left other =>
      simp only [Expr.isCondition, Bool.and_eq_true] at htree
      cases List.mem_singleton.mp h
      exact htree.2
  | .logical op left other =>
      simp only [Expr.isCondition, Bool.and_eq_true] at htree
      rw [Expr.withinOperands] at h
      rcases List.mem_append.mp h with h | h
      · exact fits_of_mem_withinOperands htree.1 h
      · exact fits_of_mem_withinOperands htree.2 h

end

/--
The operands of `$in` in the document of a parsed query are what is written for
the right operands of IN.  All of them are arrays exactly if the query has IN
before array literals only.
-/
theorem operandsOf_within_ofQuery {dialect : Dialect} {text : String} {tree : Expr}
    {settings : Settings} {doc : Json} (hparse : parse dialect text = .ok (some tree))
    (h : ofQuery settings (some tree) = .ok doc) :
    operands settings tree.withinOperands = .ok (operandsOf "$in" doc) ∧
      ((∀ value ∈ operandsOf "$in" doc, ∃ values, value = .array values) ↔
        ∀ right ∈ tree.withinOperands, ∃ items, right = .array items) := by
  have htree := isCondition_of_parse hparse
  have hoperands := (writes_of_ofQuery h).operands_withinOperands htree
  exact ⟨hoperands,
    operands_arrays_iff (fun _ hright => fits_of_mem_withinOperands htree hright) hoperands⟩

/-- Below negations, an array literal is written as an array, and a field reference is not. -/
theorem operandsOf_within_ofQuery_of_negations :
    ∃ tree doc, parse .extended "NOT (a IN ['x'] OR NOT b IN c)" = .ok (some tree) ∧
      ofQuery ⟨true, ⟨0, 0, 0⟩⟩ (some tree) = .ok doc ∧
      operands ⟨true, ⟨0, 0, 0⟩⟩ tree.withinOperands = .ok (operandsOf "$in" doc) ∧
      ¬ ∀ value ∈ operandsOf "$in" doc, ∃ values, value = .array values := by
  have hparse : parse .extended "NOT (a IN ['x'] OR NOT b IN c)" =
      .ok (some (.not (.logical .or (.comparison .within (.field "a") (.array [.string "'x'"]))
        (.not (.comparison .within (.field "b") (.field "c")))))) := by cbv
  obtain ⟨hoperands, harrays⟩ :=
    @operandsOf_within_ofQuery _ _ _ ⟨true, ⟨0, 0, 0⟩⟩ _ hparse rfl
  refine ⟨_, _, hparse, rfl, hoperands, fun hall => ?_⟩
  obtain ⟨items, hitems⟩ := harrays.mp hall (.field "c") (by simp [Expr.withinOperands])
  cases hitems

/-- A part of a text is looked for with the text itself as the operand of `$in`. -/
theorem operandsOf_within_text :
    ∃ tree doc, parse .extended "a IN 'x'" = .ok (some tree) ∧
      ofQuery ⟨true, ⟨0, 0, 0⟩⟩ (some tree) = .ok doc ∧
      operandsOf "$in" doc = [.string "x"] ∧
      ¬ ∀ value ∈ operandsOf "$in" doc, ∃ values, value = .array values := by
  have hparse : parse .extended "a IN 'x'" =
      .ok (some (.comparison .within (.field "a") (.string "'x'"))) := by cbv
  have hraw : Literal.unquote "'x'" = "x" := by cbv
  have hdoc : ofQuery ⟨true, ⟨0, 0, 0⟩⟩ (some (.comparison .within (.field "a") (.string "'x'"))) =
      .ok (comparison .within "a" (.string "x")) := by
    rw [← hraw]
    rfl
  refine ⟨_, _, hparse, hdoc, operandsOf_comparison, ?_⟩
  rw [operandsOf_comparison]
  simp

end FilterDocument

end RecordQuery
