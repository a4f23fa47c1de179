import RecordQuery.Proofs.FilterDocument.Shape
import RecordQuery.Proofs.Pattern.Collection

/-! # The patterns of filter documents

The regular expressions of a filter document are those that a cache for the same
query is filled with: the literals as they are written, and the wildcard patterns
in the same translation, with the same regard to case.
-/

namespace RecordQuery

namespace Json

mutual

/-- The values under a key, at any depth, in order. -/
def valuesUnder (key : String) : Json → List Json
  | .array items => itemValuesUnder key items
  | .object entries => entryValuesUnder key entries
  | _ => []

def itemValuesUnder (key : String) : List Json → List Json
  | [] => []
  | item :: items => valuesUnder key item ++ itemValuesUnder key items

/-- The values under a key in entries, those under the key of an entry included. -/
def entryValuesUnder (key : String) : List (String × Json) → List Json
  | [] => []
  | (k, value) :: entries =>
      (if k = key then [value] else []) ++ valuesUnder key value ++ entryValuesUnder key entries

end

def entry? (key : String) : Json → Option Json
  | .object entries => lookupEntry key entries
  | _ => none

end Json

namespace FilterDocument

/-! ## Regular expressions in a document -/

/-- What stands under the key of a regular expression. -/
def regexBody (settings : Settings) (source : String) : Json :=
  .object [("options", .string (if settings.caseSensitive then "" else "i")),
    ("pattern", .string source)]

def regexBodies (settings : Settings) (patterns : List Pattern) : List Json :=
  patterns.map fun pattern => regexBody settings pattern.source

section

variable {settings : Settings} {path key : String} {value left right : Json}

theorem valuesUnder_single (hkey : key ≠ "$regularExpression") :
    (single key value).valuesUnder "$regularExpression" =
      value.valuesUnder "$regularExpression" := by
  simp [single, Json.valuesUnder, Json.entryValuesUnder, hkey]

theorem valuesUnder_pair (hkey : key ≠ "$regularExpression") :
    (pair key left right).valuesUnder "$regularExpression" =
      left.valuesUnder "$regularExpression" ++ right.valuesUnder "$regularExpression" := by
  rw [pair, valuesUnder_single hkey]
  simp [Json.valuesUnder, Json.itemValuesUnder]

theorem valuesUnder_regexOperand (source : String) :
    (regexOperand settings source).valuesUnder "$regularExpression" =
      [regexBody settings source] := by
  simp [regexOperand, regexBody, single, Json.valuesUnder, Json.entryValuesUnder]

theorem valuesUnder_existence (hpath : path ≠ "$regularExpression") (present : Bool) :
    (existence path present).valuesUnder "$regularExpression" = [] := by
  rw [existence, valuesUnder_single hpath, valuesUnder_single (by decide)]
  rfl

theorem comparisonKey_ne (op : Comparison) : comparisonKey op ≠ "$regularExpression" := by
  cases op <;> decide

theorem valuesUnder_comparison (hpath : path ≠ "$regularExpression") (op : Comparison) :
    (comparison op path value).valuesUnder "$regularExpression" =
      value.valuesUnder "$regularExpression" := by
  rw [comparison, valuesUnder_single hpath, valuesUnder_single (comparisonKey_ne op)]

/-- The operand stays in a negation, with the key of its operator or without it. -/
theorem valuesUnder_negatedComparison (hpath : path ≠ "$regularExpression") (op : Comparison) :
    (negatedComparison op path value).valuesUnder "$regularExpression" =
      value.valuesUnder "$regularExpression" := by
  unfold negatedComparison
  dsimp only
  rw [valuesUnder_single hpath, valuesUnder_single (by decide)]
  cases op with
  | like | «matches» => rfl
  | equal | notEqual | less | lessEqual | greater | greaterEqual | within | contains =>
      exact valuesUnder_single (comparisonKey_ne _)

theorem connectiveKey_ne (op : Connective) : connectiveKey op ≠ "$regularExpression" := by
  cases op <;> decide

theorem regexBodies_append (patterns patterns' : List Pattern) :
    regexBodies settings (patterns ++ patterns') =
      regexBodies settings patterns ++ regexBodies settings patterns' :=
  List.map_append

theorem exists_regexBody_iff {patterns : List Pattern} {source : String} :
    (∃ body ∈ regexBodies settings patterns, body.entry? "pattern" = some (.string source)) ↔
      ∃ pattern ∈ patterns, pattern.source = source := by
  simp [regexBodies, regexBody, Json.entry?, lookupEntry]

end

/-! ## What is written for the patterns of a tree -/

section

variable {settings : Settings}

theorem valuesUnder_nowOperand {value : Json} (h : nowOperand settings = .ok value) :
    value.valuesUnder "$regularExpression" = [] := by
  unfold nowOperand at h
  split at h
  · cases h
    rw [valuesUnder_single (by decide)]
    rfl
  · cases h

theorem valuesUnder_numberOperand {x : Binary64} {value : Json} (h : numberOperand x = .ok value) :
    value.valuesUnder "$regularExpression" = [] := by
  unfold numberOperand at h
  split at h
  · cases h
    rfl
  · cases h

mutual

theorem valuesUnder_operand {tree : Expr} {value : Json} (htree : tree.isOperand = true)
    (h : operand settings tree = .ok value) :
    value.valuesUnder "$regularExpression" =
      regexBodies settings (tree.patterns settings.caseSensitive) := by
  match tree with
  | .number x =>
      rw [operand] at h
      exact valuesUnder_numberOperand h
  | .now =>
      rw [operand] at h
      exact valuesUnder_nowOperand h
  | .regexp raw =>
      cases h
      exact valuesUnder_regexOperand _
  | .array items =>
      rw [operand] at h
      obtain ⟨values, hvalues, hvalue⟩ := bind_eq_ok h
      cases hvalue
      exact valuesUnder_operands htree hvalues
  | .boolean _ | .null | .string _ | .field _ =>
      cases h
      rfl
  | .not _ | .comparison .. | .logical .. => cases htree

theorem valuesUnder_operands {items : List Expr} {values : List Json}
    (hitems : Expr.areOperands items = true) (h : operands settings items = .ok values) :
    Json.itemValuesUnder "$regularExpression" values =
      regexBodies settings (Expr.itemPatterns settings.caseSensitive items) := by
  match items with
  | [] =>
      cases h
      rfl
  | item :: items =>
      simp only [Expr.areOperands, Bool.and_eq_true] at hitems
      rw [operands] at h
      obtain ⟨first, hfirst, h⟩ := bind_eq_ok h
      obtain ⟨rest, hrest, h⟩ := bind_eq_ok h
      cases h
      rw [Json.itemValuesUnder, Expr.itemPatterns, regexBodies_append,
        valuesUnder_operand hitems.1 hfirst, valuesUnder_operands hitems.2 hrest]

end

/-- A wildcard pattern is written in the translation that a cache compiles. -/
theorem valuesUnder_comparand {op : Comparison} {path : String} {right : Expr} {value : Json}
    (hright : right.isOperand = true) (hfits : op.fits right = true)
    (h : (operand settings right >>= comparand settings op) = .ok value) :
    value.valuesUnder "$regularExpression" = regexBodies settings
      ((Expr.comparison op (.field path) right).patterns settings.caseSensitive) := by
  by_cases hlike : op = .like
  · subst hlike
    cases right <;> cases hfits
    cases h
    exact valuesUnder_regexOperand _
  · obtain ⟨inner, hinner, hvalue⟩ := bind_eq_ok h
    have hsame : inner = value := by
      cases op <;> first | exact absurd rfl hlike | exact Except.ok.inj hvalue
    have hpatterns : (Expr.comparison op (.field path) right).patterns settings.caseSensitive =
        right.patterns settings.caseSensitive := by
      cases op <;> first | exact absurd rfl hlike | rfl
    rw [hpatterns, ← hsame]
    exact valuesUnder_operand hright hinner

theorem valuesUnder_pair_eq {key : String} {op : Connective} {left right : Expr}
    {leftDoc rightDoc : Json} (hkey : key ≠ "$regularExpression")
    (hleft : leftDoc.valuesUnder "$regularExpression" =
      regexBodies settings (left.patterns settings.caseSensitive))
    (hright : rightDoc.valuesUnder "$regularExpression" =
      regexBodies settings (right.patterns settings.caseSensitive)) :
    (pair key leftDoc rightDoc).valuesUnder "$regularExpression" =
      regexBodies settings ((Expr.logical op left right).patterns settings.caseSensitive) := by
  rw [valuesUnder_pair hkey, hleft, hright, Expr.patterns, regexBodies_append]

/--
The regular expressions of a document are those of the patterns that its tree
searches with, in the same order and whatever is negated.
-/
theorem Writes.valuesUnder_eq {positive : Bool} {tree : Expr} {doc : Json}
    (h : Writes settings positive tree doc) (htree : tree.isCondition = true)
    (hpaths : "$regularExpression" ∉ tree.fieldPaths) :
    doc.valuesUnder "$regularExpression" =
      regexBodies settings (tree.patterns settings.caseSensitive) := by
  induction h with
  | field path =>
      have hpath : path ≠ "$regularExpression" := by
        simpa [Expr.fieldPaths, eq_comm] using hpaths
      rw [valuesUnder_existence hpath]
      rfl
  | not _ ih =>
      rw [Expr.isCondition] at htree
      rw [Expr.fieldPaths] at hpaths
      rw [Expr.patterns]
      exact ih htree hpaths
  | comparison path hvalue | negatedComparison path hvalue =>
      simp only [Expr.isCondition, Bool.and_eq_true] at htree
      have hpath : path ≠ "$regularExpression" := by
        simp only [Expr.fieldPaths, List.mem_append, List.mem_singleton, not_or] at hpaths
        exact fun hsame => hpaths.1 hsame.symm
      simp only [valuesUnder_comparison hpath, valuesUnder_negatedComparison hpath]
      exact valuesUnder_comparand htree.1.2 htree.2 hvalue
  | logical _ _ ihLeft ihRight =>
      simp only [Expr.isCondition, Bool.and_eq_true] at htree
      simp only [Expr.fieldPaths, List.mem_append, not_or] at hpaths
      exact valuesUnder_pair_eq (connectiveKey_ne _) (ihLeft htree.1 hpaths.1)
        (ihRight htree.2 hpaths.2)
  | notBoth _ _ ihLeft ihRight | neither _ _ ihLeft ihRight =>
      simp only [Expr.isCondition, Bool.and_eq_true] at htree
      simp only [Expr.fieldPaths, List.mem_append, not_or] at hpaths
      exact valuesUnder_pair_eq (by decide) (ihLeft htree.1 hpaths.1) (ihRight htree.2 hpaths.2)

end

/--
The pattern texts in the document of a parsed query are the sources of the patterns
that are collected from it, and each is searched for with the case flag of the
collection.
-/
theorem valuesUnder_ofQuery {dialect : Dialect} {text : String} {tree : Expr}
    {settings : Settings} {cache : PatternCache} {doc : Json}
    (hparse : parse dialect text = .ok (some tree))
    (hpaths : "$regularExpression" ∉ tree.fieldPaths)
    (hcache : PatternCache.collect settings.caseSensitive tree = .ok cache)
    (hdoc : ofQuery settings (some tree) = .ok doc) :
    (∀ source, (∃ body ∈ doc.valuesUnder "$regularExpression",
        body.entry? "pattern" = some (.string source)) ↔
      ∃ entry ∈ cache.compiled, entry.1.source = source) ∧
    ∀ body ∈ doc.valuesUnder "$regularExpression", ∃ source flags,
      body.entry? "pattern" = some (.string source) ∧
      body.entry? "options" = some (.string flags) ∧
      (flags = "i" ↔ settings.caseSensitive = false) := by
  rw [(writes_of_ofQuery hdoc).valuesUnder_eq (isCondition_of_parse hparse) hpaths]
  constructor
  · intro source
    rw [exists_regexBody_iff]
    constructor
    · rintro ⟨pattern, hpattern, hsource⟩
      have hholds := (PatternCache.holds_collect_iff hcache).mpr hpattern
      obtain ⟨entry, hentry, rfl⟩ := PatternCache.holds_iff_exists_entry.mp hholds
      exact ⟨entry, hentry, hsource⟩
    · rintro ⟨entry, hentry, hsource⟩
      have hholds := PatternCache.holds_iff_exists_entry.mpr ⟨entry, hentry, rfl⟩
      exact ⟨entry.1, (PatternCache.holds_collect_iff hcache).mp hholds, hsource⟩
  · intro body hbody
    obtain ⟨pattern, -, rfl⟩ := List.mem_map.mp hbody
    refine ⟨pattern.source, if settings.caseSensitive then "" else "i", rfl, rfl, ?_⟩
    cases settings.caseSensitive <;> simp

/-- Without regard to case, a wildcard pattern and a literal in an array, negated together. -/
theorem valuesUnder_ofQuery_of_negation :
    ∃ tree cache doc, parse .extended "NOT (a LIKE 'X*' OR b IN [/Y/, NULL])" = .ok (some tree) ∧
      "$regularExpression" ∉ tree.fieldPaths ∧ PatternCache.collect false tree = .ok cache ∧
      ofQuery ⟨false, ⟨0, 0, 0⟩⟩ (some tree) = .ok doc ∧
      (∀ source, (∃ body ∈ doc.valuesUnder "$regularExpression",
          body.entry? "pattern" = some (.string source)) ↔
        ∃ entry ∈ cache.compiled, entry.1.source = source) ∧
      ∀ body ∈ doc.valuesUnder "$regularExpression", ∃ source flags,
        body.entry? "pattern" = some (.string source) ∧
        body.entry? "options" = some (.string flags) ∧ (flags = "i" ↔ false = false) := by
  have hparse : parse .extended "NOT (a LIKE 'X*' OR b IN [/Y/, NULL])" =
      .ok (some (.not (.logical .or (.comparison .like (.field "a") (.string "'X*'"))
        (.comparison .within (.field "b") (.array [.regexp "/Y/", .null]))))) := by cbv
  have hpaths : "$regularExpression" ∉ (Expr.not (.logical .or
      (.comparison .like (.field "a") (.string "'X*'"))
      (.comparison .within (.field "b") (.array [.regexp "/Y/", .null])))).fieldPaths := by
    simp [Expr.fieldPaths, Expr.itemFieldPaths]
  have hcollect : (PatternCache.collect false (.not (.logical .or
      (.comparison .like (.field "a") (.string "'X*'"))
      (.comparison .within (.field "b") (.array [.regexp "/Y/", .null]))))).isOk = true := by
    decide +kernel
  cases hcache : PatternCache.collect false (.not (.logical .or
      (.comparison .like (.field "a") (.string "'X*'"))
      (.comparison .within (.field "b") (.array [.regexp "/Y/", .null])))) with
  | error invalid =>
      rw [hcache] at hcollect
      cases hcollect
  | ok cache =>
      have h := @valuesUnder_ofQuery _ _ _ ⟨false, ⟨0, 0, 0⟩⟩ _ _ hparse hpaths hcache rfl
      exact ⟨_, cache, _, hparse, hpaths, hcache, rfl, h⟩

end FilterDocument

end RecordQuery
