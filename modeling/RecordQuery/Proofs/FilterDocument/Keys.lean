import RecordQuery.Proofs.FilterDocument.Reading

/-! # The keys of filter documents

At document level a key is that of a connective, with two documents under it, or
the path of a condition of the query.  Paths are written as they are, so the keys
that look like operators are connectives only if no path of a condition starts as
an operator does.
-/

namespace RecordQuery

/-- The paths of the conditions between the connectives of a tree. -/
def Expr.conditionPaths : Expr → List String
  | .field path => [path]
  | .not operand => conditionPaths operand
  | .comparison _ (.field path) _ => [path]
  | .logical _ left right => conditionPaths left ++ conditionPaths right
  | _ => []

namespace FilterDocument

/-- Whether a key starts as the operators of a document store do. -/
def isOperatorKey (key : String) : Bool :=
  key.toList.head? == some '$'

/-! ## Document level -/

mutual

/-- The entries of a document and of the documents in its arrays, in order. -/
def levelEntries : Json → List (String × Json)
  | .object entries => entriesWithin entries
  | _ => []

def entriesWithin : List (String × Json) → List (String × Json)
  | [] => []
  | (key, .array documents) :: entries =>
      (key, .array documents) :: (documentEntries documents ++ entriesWithin entries)
  | entry :: entries => entry :: entriesWithin entries

def documentEntries : List Json → List (String × Json)
  | [] => []
  | document :: documents => levelEntries document ++ documentEntries documents

end

/-- The key of a connective, with an array of two documents. -/
def IsConnective (entry : String × Json) : Prop :=
  entry.1 ∈ connectiveKeys ∧
    ∃ left right, entry.2 = .array [.object left, .object right]

/-- What looks like an operator at document level is a connective of two documents. -/
def OperatorsConnect (doc : Json) : Prop :=
  ∀ entry ∈ levelEntries doc, isOperatorKey entry.1 = true → IsConnective entry

/-- The path of an entry that tests a field. -/
def testedPath? : String × Json → Option String
  | (path, .object _) => some path
  | _ => none

def testedPaths (doc : Json) : List String :=
  (levelEntries doc).filterMap testedPath?

section

variable {key path : String} {left right : Json}

theorem levelEntries_pair : levelEntries (pair key left right) =
    (key, .array [left, right]) :: (levelEntries left ++ levelEntries right) := by
  simp [pair, single, levelEntries, entriesWithin, documentEntries]

/-- A test is an object of the operators that are tested, and stands for itself. -/
theorem levelEntries_test (path operator : String) (value : Json) :
    levelEntries (single path (single operator value)) = [(path, single operator value)] := by
  simp [single, levelEntries, entriesWithin]

theorem testedPaths_pair :
    testedPaths (pair key left right) = testedPaths left ++ testedPaths right := by
  rw [testedPaths, levelEntries_pair, List.filterMap_cons_none rfl, List.filterMap_append]
  rfl

theorem testedPaths_test (operator : String) (value : Json) :
    testedPaths (single path (single operator value)) = [path] := by
  rw [testedPaths, levelEntries_test]
  rfl

theorem mem_testedPaths_iff {doc : Json} :
    path ∈ testedPaths doc ↔ ∃ tests, (path, .object tests) ∈ levelEntries doc := by
  rw [testedPaths, List.mem_filterMap]
  constructor
  · rintro ⟨⟨key, value⟩, hmem, htested⟩
    cases value with
    | object tests =>
        cases htested
        exact ⟨tests, hmem⟩
    | null | boolean | integer | float | string | array => cases htested
  · rintro ⟨tests, hmem⟩
    exact ⟨_, hmem, rfl⟩

end

/-- Where all entries are connectives or tests, it is the tested paths that look like operators. -/
theorem operatorsConnect_iff {doc : Json}
    (hentries : ∀ entry ∈ levelEntries doc,
      IsConnective entry ∨ ∃ tests, entry.2 = .object tests) :
    OperatorsConnect doc ↔ ∀ path ∈ testedPaths doc, isOperatorKey path = false := by
  constructor
  · intro hconnect path hpath
    obtain ⟨tests, hmem⟩ := mem_testedPaths_iff.mp hpath
    rw [← Bool.not_eq_true]
    intro hkey
    obtain ⟨-, left, right, harray⟩ := hconnect _ hmem hkey
    cases harray
  · rintro hpaths ⟨key, value⟩ hmem hkey
    rcases hentries _ hmem with hconnective | ⟨tests, rfl⟩
    · exact hconnective
    · have hplain := hpaths key (mem_testedPaths_iff.mpr ⟨tests, hmem⟩)
      exact absurd hkey (by simp [hplain])

/-! ## What is written -/

section

variable {settings : Settings} {positive : Bool} {tree : Expr} {doc : Json}

theorem Writes.exists_object (h : Writes settings positive tree doc) :
    ∃ entries, doc = .object entries := by
  induction h with
  | not _ ih => exact ih
  | field | comparison | negatedComparison | logical | notBoth | neither => exact ⟨_, rfl⟩

/-- No rewriting of a negation loses a condition, adds one or changes their order. -/
theorem Writes.testedPaths_eq (h : Writes settings positive tree doc) :
    testedPaths doc = tree.conditionPaths := by
  induction h with
  | field | comparison | negatedComparison => exact testedPaths_test _ _
  | not _ ih => exact ih
  | logical _ _ ihLeft ihRight | notBoth _ _ ihLeft ihRight | neither _ _ ihLeft ihRight =>
      rw [testedPaths_pair, ihLeft, ihRight]
      rfl

/-- Each entry at document level is a connective of two documents or the test of a field. -/
theorem Writes.entry_cases (h : Writes settings positive tree doc) :
    ∀ entry ∈ levelEntries doc, IsConnective entry ∨ ∃ tests, entry.2 = .object tests := by
  have htest (path operator : String) (value : Json) :
      ∀ entry ∈ levelEntries (single path (single operator value)),
        IsConnective entry ∨ ∃ tests, entry.2 = .object tests := by
    rw [levelEntries_test, List.forall_mem_singleton]
    exact Or.inr ⟨_, rfl⟩
  have hpair {key : String} {left right : Json} (hkey : key ∈ connectiveKeys)
      (hleft : ∃ entries, left = .object entries) (hright : ∃ entries, right = .object entries) :
      IsConnective (key, .array [left, right]) := by
    obtain ⟨leftEntries, rfl⟩ := hleft
    obtain ⟨rightEntries, rfl⟩ := hright
    exact ⟨hkey, leftEntries, rightEntries, rfl⟩
  induction h with
  | field | comparison | negatedComparison => exact htest _ _ _
  | not _ ih => exact ih
  | @logical op _ _ _ _ hleft hright ihLeft ihRight =>
      have hkey : connectiveKey op ∈ connectiveKeys := by cases op <;> decide
      rw [levelEntries_pair, List.forall_mem_cons, List.forall_mem_append]
      exact ⟨Or.inl (hpair hkey hleft.exists_object hright.exists_object), ihLeft, ihRight⟩
  | notBoth hleft hright ihLeft ihRight | neither hleft hright ihLeft ihRight =>
      rw [levelEntries_pair, List.forall_mem_cons, List.forall_mem_append]
      exact ⟨Or.inl (hpair (by decide) hleft.exists_object hright.exists_object), ihLeft, ihRight⟩

end

/--
The fields that a filter document tests are those of the conditions of the query.
What looks like an operator at document level is a connective of two documents
exactly if no path of a condition looks like an operator.
-/
theorem operatorsConnect_ofQuery_iff {settings : Settings} {tree : Expr} {doc : Json}
    (h : ofQuery settings (some tree) = .ok doc) :
    testedPaths doc = tree.conditionPaths ∧
      (OperatorsConnect doc ↔ ∀ path ∈ tree.conditionPaths, isOperatorKey path = false) := by
  have hwrites := writes_of_ofQuery h
  have hpaths := hwrites.testedPaths_eq
  refine ⟨hpaths, ?_⟩
  rw [← hpaths]
  exact operatorsConnect_iff hwrites.entry_cases

/-- Under a negated disjunction one of two paths looks like an operator. -/
theorem operatorsConnect_ofQuery_iff_of_negation :
    ∃ tree doc, parse .extended "NOT (a OR NOT \x60$or\x60 LIKE 'x')" = .ok (some tree) ∧
      ofQuery ⟨true, ⟨0, 0, 0⟩⟩ (some tree) = .ok doc ∧ testedPaths doc = ["a", "$or"] ∧
      ¬ OperatorsConnect doc := by
  have hparse : parse .extended "NOT (a OR NOT \x60$or\x60 LIKE 'x')" =
      .ok (some (.not (.logical .or (.field "a")
        (.not (.comparison .like (.field "$or") (.string "'x'")))))) := by cbv
  obtain ⟨hpaths, hconnect⟩ := @operatorsConnect_ofQuery_iff ⟨true, ⟨0, 0, 0⟩⟩
    (.not (.logical .or (.field "a")
      (.not (.comparison .like (.field "$or") (.string "'x'"))))) _ rfl
  refine ⟨_, _, hparse, rfl, hpaths, fun hall => ?_⟩
  exact absurd (hconnect.mp hall "$or" (by simp [Expr.conditionPaths])) (by decide)

/-- A path that is spelled like an operator is written as one, under a key that is no connective. -/
theorem not_operatorsConnect_of_operator_path :
    ∃ tree doc, parse .extended "\x60$where\x60 == 'x'" = .ok (some tree) ∧
      ofQuery ⟨true, ⟨0, 0, 0⟩⟩ (some tree) = .ok doc ∧
      levelEntries doc = [("$where", single "$eq" (.string "x"))] ∧ ¬ OperatorsConnect doc := by
  have hparse : parse .extended "\x60$where\x60 == 'x'" =
      .ok (some (.comparison .equal (.field "$where") (.string "'x'"))) := by cbv
  have hraw : Literal.unquote "'x'" = "x" := by cbv
  have hdoc : ofQuery ⟨true, ⟨0, 0, 0⟩⟩
      (some (.comparison .equal (.field "$where") (.string "'x'"))) =
        .ok (comparison .equal "$where" (.string "x")) := by
    rw [← hraw]
    rfl
  have hentries := levelEntries_test "$where" "$eq" (.string "x")
  refine ⟨_, _, hparse, hdoc, hentries, fun hall => ?_⟩
  have hmem : ("$where", single "$eq" (.string "x")) ∈
      levelEntries (comparison .equal "$where" (.string "x")) := by
    rw [comparison, comparisonKey, hentries]
    exact List.mem_singleton_self _
  exact absurd (hall _ hmem (by decide)).1 (by decide)

end FilterDocument

end RecordQuery
