import RecordQuery.Proofs.FilterDocument.Shape

/-! # The meaning of filter documents

A filter document of a parsed query has the truth value of the query, whatever
the tests of its fields say.  Negations are pushed down by rewriting, and each
rewriting keeps the value.
-/

namespace RecordQuery

namespace FilterDocument

/-- What the tests at the leaves of a query say about one record. -/
structure Leaves where
  /-- Whether the field at a path is there. -/
  present : String → Bool
  /-- Whether the field at a path compares with an operand under an operator key. -/
  holds : String → String → Json → Bool

def connectiveKeys : List String :=
  ["$and", "$or", "$nor"]

namespace Leaves

variable (leaves : Leaves)

/-- The negation of a test; a regular expression stands there without its key. -/
def readNegated (path : String) : Json → Option Bool
  | .object [(key, value)] =>
      if key = "$regularExpression" then
        some !(leaves.holds path "$regex" (single key value))
      else some !(leaves.holds path key value)
  | _ => none

def readField (path : String) : Json → Option Bool
  | .object [(key, value)] =>
      if key = "$exists" then
        match value with
        | .boolean b => some (leaves.present path == b)
        | _ => none
      else if key = "$not" then leaves.readNegated path value
      else some (leaves.holds path key value)
  | _ => none

/-- The value of a list of documents under a key. -/
def combine (key : String) (values : List Bool) : Option Bool :=
  if key = "$and" then some (values.all id)
  else if key = "$or" then some (values.any id)
  else some !(values.any id)

mutual

/-- The truth value of a filter document. -/
def read : Json → Option Bool
  | .object [(key, value)] =>
      if key ∈ connectiveKeys then
        match value with
        | .array documents => (readAll documents).bind (combine key)
        | _ => none
      else leaves.readField key value
  | _ => none

def readAll : List Json → Option (List Bool)
  | [] => some []
  | document :: documents =>
      match read document, readAll documents with
      | some b, some bs => some (b :: bs)
      | _, _ => none

end

variable (settings : Settings)

/-- The truth value of a comparison: the test of its operator key and its operand. -/
def truthOfComparison (op : Comparison) (path : String) (right : Expr) : Option Bool :=
  match operand settings right >>= comparand settings op with
  | .ok value => some (leaves.holds path (comparisonKey op) value)
  | .error _ => none

/-- The truth value of a query, its connectives being those of Booleans. -/
def truth : Expr → Option Bool
  | .field path => some (leaves.present path)
  | .not inner => (truth inner).map not
  | .comparison op (.field path) right => leaves.truthOfComparison settings op path right
  | .logical op left right =>
      match truth left, truth right with
      | some a, some b =>
          match op with
          | .and => some (a && b)
          | .or => some (a || b)
      | _, _ => none
  | _ => none

/-! ## Reading what is written -/

section

variable {path key : String} {value left right : Json} {a b : Bool}

theorem read_single (hpath : path ∉ connectiveKeys) :
    leaves.read (single path (single key value)) = leaves.readField path (single key value) := by
  rw [single, read, if_neg hpath]
  exact fun _ h => Json.noConfusion h

theorem read_existence (hpath : path ∉ connectiveKeys) (present : Bool) :
    leaves.read (existence path present) = some (leaves.present path == present) := by
  rw [existence, leaves.read_single hpath]
  rfl

theorem read_comparison (hpath : path ∉ connectiveKeys) (op : Comparison) :
    leaves.read (comparison op path value) =
      some (leaves.holds path (comparisonKey op) value) := by
  rw [comparison, leaves.read_single hpath]
  cases op <;> rfl

/-- A negated comparison; that of a pattern takes a regular expression. -/
theorem read_negatedComparison (hpath : path ∉ connectiveKeys) {op : Comparison}
    (hregexp : comparisonKey op = "$regex" → ∃ body, value = single "$regularExpression" body) :
    leaves.read (negatedComparison op path value) =
      some !(leaves.holds path (comparisonKey op) value) := by
  unfold negatedComparison
  dsimp only
  rw [leaves.read_single hpath]
  cases op with
  | like | «matches» =>
      obtain ⟨body, rfl⟩ := hregexp rfl
      rfl
  | equal | notEqual | less | lessEqual | greater | greaterEqual | within | contains => rfl

theorem read_pair (hleft : leaves.read left = some a) (hright : leaves.read right = some b)
    (hkey : key ∈ connectiveKeys) : leaves.read (pair key left right) = combine key [a, b] := by
  rw [pair, single, read, if_pos hkey]
  simp [readAll, hleft, hright]

end

end Leaves

/-! ## The truth value of a document -/

/-- A condition in which no field is named like a connective. -/
structure Translatable (tree : Expr) : Prop where
  shape : tree.isCondition = true
  paths : ∀ path ∈ tree.fieldPaths, path ∉ connectiveKeys

namespace Translatable

variable {op : Comparison} {connective : Connective} {left right : Expr} {path : String}

theorem path_not_mem (h : Translatable (.field path)) : path ∉ connectiveKeys :=
  h.paths path (by simp [Expr.fieldPaths])

theorem operand (h : Translatable (.not left)) : Translatable left where
  shape := by simpa only [Expr.isCondition] using h.shape
  paths := by simpa only [Expr.fieldPaths] using h.paths

theorem left_path_not_mem (h : Translatable (.comparison op (.field path) right)) :
    path ∉ connectiveKeys :=
  h.paths path (by simp [Expr.fieldPaths])

theorem fits (h : Translatable (.comparison op left right)) : op.fits right = true := by
  have hshape := h.shape
  simp only [Expr.isCondition, Bool.and_eq_true] at hshape
  exact hshape.2

theorem parts (h : Translatable (.logical connective left right)) :
    Translatable left ∧ Translatable right := by
  obtain ⟨hshape, hpaths⟩ := h
  simp only [Expr.isCondition, Bool.and_eq_true] at hshape
  simp only [Expr.fieldPaths, List.forall_mem_append] at hpaths
  exact ⟨⟨hshape.1, hpaths.1⟩, hshape.2, hpaths.2⟩

end Translatable

namespace Leaves

variable (leaves : Leaves) {settings : Settings}

theorem truth_comparison {op : Comparison} {path : String} {right : Expr} {value : Json}
    (hvalue : (operand settings right >>= comparand settings op) = .ok value) :
    leaves.truth settings (.comparison op (.field path) right) =
      some (leaves.holds path (comparisonKey op) value) := by
  rw [truth, truthOfComparison, hvalue]

/-- A document has the truth value of its tree, or the opposite one if it is for the negation. -/
theorem read_of_writes {positive : Bool} {tree : Expr} {doc : Json}
    (h : Writes settings positive tree doc) (htree : Translatable tree) :
    ∃ b, leaves.read doc = some (b == positive) ∧ leaves.truth settings tree = some b := by
  induction h with
  | field path =>
      exact ⟨leaves.present path, leaves.read_existence htree.path_not_mem _, by simp [truth]⟩
  | @not positive operand doc _ ih =>
      obtain ⟨b, hread, htruth⟩ := ih htree.operand
      refine ⟨!b, ?_, by simp [truth, htruth]⟩
      rw [hread]
      cases b <;> cases positive <;> rfl
  | @comparison op path right value hvalue =>
      refine ⟨_, ?_, leaves.truth_comparison hvalue⟩
      rw [leaves.read_comparison htree.left_path_not_mem, beq_true]
  | @negatedComparison op path right value hvalue =>
      refine ⟨_, ?_, leaves.truth_comparison hvalue⟩
      have hregexp := exists_regularExpression htree.fits hvalue
      rw [leaves.read_negatedComparison htree.left_path_not_mem hregexp, beq_false]
  | @logical op left right leftDoc rightDoc _ _ ihLeft ihRight =>
      obtain ⟨a, hreadLeft, htruthLeft⟩ := ihLeft htree.parts.1
      obtain ⟨b, hreadRight, htruthRight⟩ := ihRight htree.parts.2
      cases op with
      | and =>
          refine ⟨a && b, ?_, by simp [truth, htruthLeft, htruthRight]⟩
          rw [connectiveKey, leaves.read_pair hreadLeft hreadRight (by decide)]
          simp [combine]
      | or =>
          refine ⟨a || b, ?_, by simp [truth, htruthLeft, htruthRight]⟩
          rw [connectiveKey, leaves.read_pair hreadLeft hreadRight (by decide)]
          simp [combine]
  | notBoth _ _ ihLeft ihRight =>
      obtain ⟨a, hreadLeft, htruthLeft⟩ := ihLeft htree.parts.1
      obtain ⟨b, hreadRight, htruthRight⟩ := ihRight htree.parts.2
      -- De Morgan: one of the negations holds
      refine ⟨a && b, ?_, by simp [truth, htruthLeft, htruthRight]⟩
      rw [leaves.read_pair hreadLeft hreadRight (by decide)]
      simp [combine]
  | neither _ _ ihLeft ihRight =>
      obtain ⟨a, hreadLeft, htruthLeft⟩ := ihLeft htree.parts.1
      obtain ⟨b, hreadRight, htruthRight⟩ := ihRight htree.parts.2
      refine ⟨a || b, ?_, by simp [truth, htruthLeft, htruthRight]⟩
      rw [leaves.read_pair hreadLeft hreadRight (by decide)]
      simp [combine]

theorem read_condition {tree : Expr} {doc : Json} (htree : Translatable tree)
    (h : condition settings tree = .ok doc) :
    ∃ b, leaves.read doc = some b ∧ leaves.truth settings tree = some b := by
  simpa using leaves.read_of_writes (writes_of_condition h) htree

end Leaves

/-- The filter document of a query has the truth value of the query, for all tests of its fields. -/
theorem read_ofQuery {dialect : Dialect} {text : String} {tree : Expr} {settings : Settings}
    {doc : Json} (hparse : parse dialect text = .ok (some tree))
    (hpaths : ∀ path ∈ tree.fieldPaths, path ∉ connectiveKeys)
    (h : ofQuery settings (some tree) = .ok doc) (leaves : Leaves) :
    ∃ b, leaves.read doc = some b ∧ leaves.truth settings tree = some b :=
  leaves.read_condition ⟨isCondition_of_parse hparse, hpaths⟩ h

/-- A negated disjunction with a negated pattern in it. -/
theorem read_ofQuery_of_negated_disjunction :
    ∃ tree doc, parse .extended "NOT (a OR NOT b MATCH /x/)" = .ok (some tree) ∧
      (∀ path ∈ tree.fieldPaths, path ∉ connectiveKeys) ∧
      ofQuery ⟨true, ⟨0, 0, 0⟩⟩ (some tree) = .ok doc ∧
      ∃ b, (⟨fun _ => false, fun _ _ _ => true⟩ : Leaves).read doc = some b ∧
        (⟨fun _ => false, fun _ _ _ => true⟩ : Leaves).truth ⟨true, ⟨0, 0, 0⟩⟩ tree = some b := by
  have hparse : parse .extended "NOT (a OR NOT b MATCH /x/)" =
      .ok (some (.not (.logical .or (.field "a")
        (.not (.comparison .matches (.field "b") (.regexp "/x/")))))) := by cbv
  have hpaths : ∀ path ∈ (Expr.not (.logical .or (.field "a")
      (.not (.comparison .matches (.field "b") (.regexp "/x/"))))).fieldPaths,
      path ∉ connectiveKeys := by
    simp [Expr.fieldPaths, connectiveKeys]
  exact ⟨_, _, hparse, hpaths, rfl, read_ofQuery hparse hpaths rfl _⟩

end FilterDocument

end RecordQuery
