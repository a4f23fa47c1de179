import RecordQuery.Query
import RecordQuery.Proofs.Evaluation.Steps
import RecordQuery.Proofs.Number.Mixed
import RecordQuery.Proofs.Syntax.PrintedTrees

/-! # Integers in query texts

An integer in a query is read as the binary number nearest to it, and integers
in a record are compared with that number exactly.  So an integer equals its own
numeral only if a binary number holds it.
-/

namespace RecordQuery

/-! ## Reading -/

section

variable {after : List Char} {op : Comparison} {n : Int}

theorem renders_integer (hn : n.natAbs < 2 ^ 64) (hafter : Delimited after) :
    Renders (toString n).toList [] after (IsLeaf .number (.number (Binary64.ofInt n))) := by
  obtain ⟨m, hm, htext, hvalue⟩ := Binary64.exists_numeral_ofInt hn
  have hfinite : m.toBinary64.isFinite = true := hvalue ▸ (Binary64.ofInt_spec hn).1
  rw [← htext, ← hvalue]
  exact renders_numeral hm hfinite hafter

def integerComparison (path : String) (op : Comparison) (n : Int) : String :=
  String.ofList ((Expr.field path).canonicalChars ++ ' ' :: op.symbol.toList ++
    ' ' :: (toString n).toList)

theorem parse_integerComparison (path : String) (htakes : op.takes .number = true)
    (hn : n.natAbs < 2 ^ 64) :
    parse .extended (integerComparison path op n) =
      .ok (some (.comparison op (.field path) (.number (Binary64.ofInt n)))) := by
  have hfield := @renders_field (' ' :: (op.symbol.toList ++ ' ' :: ((toString n).toList ++ [])))
    path (delimited_cons.mpr (Or.inl rfl))
  have hrenders := renders_compared op hfield (renders_integer hn delimited_nil)
  refine hrenders.parse_eq (List.forall_mem_nil _) ?_
  rintro us ⟨_, token, _, rfl, ⟨left, rfl, -, hleft⟩, htoken, right, rfl, hright, htree⟩
  have hop : Parse.comparison? token.kind = some op := htoken ▸ comparison?_kind op
  exact (Derives.positive (.single (.comparison (.leaf hleft) hop (.leaf htree)
    (hright ▸ htakes)))).query_of_unary

end

/-! ## Evaluation -/

/-- A text of a valid tree is tested by evaluating the tree. -/
theorem matchesText_of_parse {text : String} {tree : Expr} {patterns : PatternCache}
    (hparse : parse .extended text = .ok (some tree)) (hvalid : tree.validate = .ok ())
    (hpatterns : PatternCache.collect true tree = .ok patterns) (now : Timestamp)
    (record : Value) :
    matchesText now record text =
      ((⟨record, .default, true, patterns, now⟩ : Context).evaluate tree).mapError
        .evaluation := by
  have htree : Query.parseTree .extended text = .ok (some tree) := by
    rw [Query.parseTree, hparse]
    rfl
  have hcheck : Query.check .default (some tree) = .ok () := by
    change tree.validate.mapError QueryError.invalid = .ok ()
    rw [hvalid]
    rfl
  have hcollect : Query.collectPatterns true (some tree) = .ok patterns := by
    rw [Query.collectPatterns, hpatterns]
    rfl
  have hcompile : Query.compile .default text = .ok ⟨text, some tree, .default, patterns⟩ := by
    rw [Query.compile]
    change (Query.parseTree .extended text >>= _) = _
    rw [htree]
    change (Query.check .default (some tree) >>= _) = _
    rw [hcheck]
    change (Query.collectPatterns true (some tree) >>= _) = _
    rw [hcollect]
    rfl
  rw [matchesText, hcompile]
  rfl

/-- The values of a path are compared with the number nearest to the integer. -/
theorem matchesText_integerComparison {record : Value} {path : String} {vs : List Value}
    {op : Comparison} {n : Int} (hpath : Path.resolve? .default record path = some vs)
    (htakes : op.takes .number = true) (hn : n.natAbs < 2 ^ 64) (now : Timestamp) :
    matchesText now record (integerComparison path op n) =
      .ok (vs.any fun v => op.holds v (.float (Binary64.ofInt n))) := by
  have hmatches : op ≠ .matches := by
    rintro rfl
    cases htakes
  have hlike : op ≠ .like := by
    rintro rfl
    cases htakes
  have hvalid : (Expr.comparison op (.field path) (.number (Binary64.ofInt n))).validate =
      .ok () := rfl
  have hpatterns : PatternCache.collect true
      (.comparison op (.field path) (.number (Binary64.ofInt n))) = .ok (.empty true) := by
    simp only [PatternCache.collect, PatternCache.addTree, PatternCache.insertWildcard]
    rfl
  rw [matchesText_of_parse (parse_integerComparison path htakes hn) hvalid hpatterns,
    Context.evaluate_comparison hmatches hlike, Context.term_field, Context.fieldValues, hpath]
  -- where case counts, values are compared as they are
  have hfold : vs.map (Context.fold ⟨record, .default, true, .empty true, now⟩) = vs :=
    List.map_id vs
  simp only [hfold, Context.term]
  change Except.ok (Context.holdsBetween op vs [_]) = _
  simp [Context.holdsBetween]

/-! ## Integers and their own numerals -/

section

variable (now : Timestamp) (n : Int64)

/-- Only an integer that a binary number holds equals the number its numeral is read as. -/
theorem equal_holds_ofInt :
    Comparison.equal.holds (.integer n) (.float (Binary64.ofInt n.toInt)) =
      decide (Binary64.roundedInteger n.toInt.natAbs = n.toInt.natAbs) := by
  rw [Bool.eq_iff_iff, decide_eq_true_iff, ← Binary64.compareInt?_ofInt_self_eq_iff
    (natAbs_toInt_lt n)]
  simp [Comparison.holds, Value.looseEq, Value.compare?]

theorem integerComparison_f (op : Comparison) (n : Int) :
    integerComparison "f" op n =
      String.ofList ('f' :: ' ' :: (op.symbol.toList ++ ' ' :: (toString n).toList)) := rfl

theorem matchesText_f {op : Comparison} (htakes : op.takes .number = true) :
    matchesText now (.object [("f", .integer n)]) (integerComparison "f" op n.toInt) =
      .ok (op.holds (.integer n) (.float (Binary64.ofInt n.toInt))) := by
  have hpath : Path.resolve? .default (.object [("f", .integer n)]) "f" = some [.integer n] := rfl
  rw [matchesText_integerComparison hpath htakes (natAbs_toInt_lt n), List.any_cons,
    List.any_nil, Bool.or_false]

theorem matchesText_equal :
    matchesText now (.object [("f", .integer n)]) ("f == " ++ toString n.toInt) =
      .ok (decide (Binary64.roundedInteger n.toInt.natAbs = n.toInt.natAbs)) := by
  have htext : "f == " ++ toString n.toInt = integerComparison "f" .equal n.toInt := by
    rw [integerComparison_f, ← String.toList_inj]
    simp [Comparison.symbol]
  rw [htext, matchesText_f now n rfl, equal_holds_ofInt]

theorem matchesText_notEqual :
    matchesText now (.object [("f", .integer n)]) ("f != " ++ toString n.toInt) =
      .ok (!decide (Binary64.roundedInteger n.toInt.natAbs = n.toInt.natAbs)) := by
  have htext : "f != " ++ toString n.toInt = integerComparison "f" .notEqual n.toInt := by
    rw [integerComparison_f, ← String.toList_inj]
    simp [Comparison.symbol]
  rw [htext, matchesText_f now n rfl, ← equal_holds_ofInt]
  rfl

/--
The query for an integer finds it in a record exactly if a binary number holds
it, that is if its odd part has at most fifty-three bits.
-/
theorem matchesText_own_numeral :
    ∃ holds : Bool,
      matchesText now (.object [("f", .integer n)]) ("f == " ++ toString n.toInt) = .ok holds ∧
      matchesText now (.object [("f", .integer n)]) ("f != " ++ toString n.toInt) =
        .ok (!holds) ∧
      (holds = true ↔ ∃ m k, m < 2 ^ 53 ∧ n.toInt.natAbs = m * 2 ^ k) := by
  refine ⟨_, matchesText_equal now n, matchesText_notEqual now n, ?_⟩
  rw [decide_eq_true_iff, Binary64.roundedInteger_eq_self_iff]

end

/-- The first positive integer that no binary number holds is not found by its own numeral. -/
theorem matchesText_own_numeral_fails :
    matchesText ⟨0, 0, 0⟩ (.object [("f", .integer 9007199254740993)])
        ("f == " ++ toString (9007199254740993 : Int64).toInt) = .ok false ∧
      matchesText ⟨0, 0, 0⟩ (.object [("f", .integer 9007199254740993)])
        ("f != " ++ toString (9007199254740993 : Int64).toInt) = .ok true := by
  have hround : Binary64.roundedInteger (9007199254740993 : Int64).toInt.natAbs ≠
      (9007199254740993 : Int64).toInt.natAbs := by decide +kernel
  rw [matchesText_equal, matchesText_notEqual, decide_eq_false hround]
  exact ⟨rfl, rfl⟩

end RecordQuery
