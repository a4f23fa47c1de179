import RecordQuery.Proofs.Evaluation.LetterCase
import RecordQuery.Proofs.Time.LowerCase

/-! # Matches without regard to case

Values that are equal are equal in lower case, and what an array contains it
contains in lower case.  A part of a text is part of it in lower case unless a
sigma in it ends a word in only one of the two.  Keys of maps are never put in
lower case, so a key with capitals is not found without regard to case.
-/

namespace RecordQuery

/-! ## Equality -/

namespace Value

theorem toLowerItems_eq_map (items : List Value) : toLowerItems items = items.map toLower := by
  induction items with
  | nil => rfl
  | cons v vs ih => rw [toLowerItems, ih, List.map_cons]

theorem compare?_timestamp_toLower {t : Timestamp} {text : String} {order : Ordering}
    (h : compare? (.timestamp t) (.string text) = some order) :
    compare? (.timestamp t) (.string (Text.toLower text)) = some order := by
  obtain ⟨u, hu, rfl⟩ := Option.map_eq_some_iff.mp h
  rw [compare?, Timestamp.ofText?_toLower hu]
  rfl

theorem compare?_toLower_timestamp {t : Timestamp} {text : String} {order : Ordering}
    (h : compare? (.string text) (.timestamp t) = some order) :
    compare? (.string (Text.toLower text)) (.timestamp t) = some order := by
  obtain ⟨u, hu, rfl⟩ := Option.map_eq_some_iff.mp h
  rw [compare?, Timestamp.ofText?_toLower hu]
  rfl

mutual

/-- Equal values are equal in lower case. -/
theorem looseEq_toLower {a b : Value} (h : looseEq a b = true) :
    looseEq a.toLower b.toLower = true := by
  match a with
  | .null | .boolean _ | .float _ | .integer _ | .object _ | .entity .. =>
      cases b with
      | string _ | array _ => cases h
      | _ => exact h
  | .timestamp t =>
      cases b with
      | string text => exact beq_iff_eq.mpr (compare?_timestamp_toLower (beq_iff_eq.mp h))
      | array _ => cases h
      | _ => exact h
  | .string text =>
      cases b with
      | string other =>
          obtain rfl : text = other := by simpa [looseEq] using h
          simp [looseEq, toLower]
      | timestamp t => exact beq_iff_eq.mpr (compare?_toLower_timestamp (beq_iff_eq.mp h))
      | _ => cases h
  | .array items =>
      cases b with
      | array others => exact looseEqItems_toLower h
      | _ => cases h

theorem looseEqItems_toLower {as bs : List Value} (h : looseEqItems as bs = true) :
    looseEqItems (toLowerItems as) (toLowerItems bs) = true := by
  match as, bs with
  | [], [] => rfl
  | a :: as, b :: bs =>
      rw [looseEqItems, Bool.and_eq_true] at h
      rw [toLowerItems, toLowerItems, looseEqItems, looseEq_toLower h.1, looseEqItems_toLower h.2]
      rfl
  | [], _ :: _ => cases h
  | _ :: _, [] => cases h

end

/-! ## Membership -/

theorem isPartOf_iff (part text : List Char) : isPartOf part text = true ↔ part <:+: text := by
  induction text with
  | nil => simp [isPartOf]
  | cons c cs ih => simp [isPartOf, ih, List.infix_cons_iff]

/--
The item is in the container, but perhaps not in lower case: the container is a
map without the lower-case key, or the item is a part of a text and everywhere
lower-cased in another way than on its own.
-/
inductive Loses : Value → Value → Prop
  | key {container : Value} {key : String} (hshape : container.shape = .map)
      (h : container.field? (Text.toLower key) = none) : Loses container (.string key)
  | part {text part : String} (hsigma : 'Σ' ∈ part.toList)
      (h : ∀ before after, text.toList = before ++ part.toList ++ after →
        Text.lowerWithin before.reverse part.toList after ≠ (Text.toLower part).toList) :
      Loses (.string text) (.string part)

/-- One place at which a part is lower-cased as on its own is enough. -/
theorem isPartOf_toLower {text part : String} (h : isPartOf part.toList text.toList = true) :
    isPartOf (Text.toLower part).toList (Text.toLower text).toList = true ∨
      Loses (.string text) (.string part) := by
  by_cases hplace : ∃ before after, text.toList = before ++ part.toList ++ after ∧
      Text.lowerWithin before.reverse part.toList after = (Text.toLower part).toList
  · obtain ⟨before, after, htext, hsame⟩ := hplace
    rw [Text.toLower, String.toList_ofList] at hsame ⊢
    rw [Text.toLower, String.toList_ofList, isPartOf_iff]
    exact .inl (Text.isInfix_lowerFrom htext hsame)
  · push Not at hplace
    refine .inr (.part ?_ hplace)
    by_contra hsigma
    obtain ⟨before, after, htext⟩ := (isPartOf_iff _ _).mp h
    refine hplace before after htext.symm ?_
    rw [Text.toLower, String.toList_ofList]
    exact Text.lowerWithin_eq hsigma _ _

/-- What a value contains it contains in lower case, or ignoring case loses it. -/
theorem contains_toLower {v item : Value} (h : v.contains item = true) :
    v.toLower.contains item.toLower = true ∨ v.Loses item := by
  have hkey {key : String} (hshape : v.shape = .map) (hsame : v.toLower = v)
      (hcontains : v.contains (.string (Text.toLower key)) =
        (v.field? (Text.toLower key)).isSome) :
      v.toLower.contains (.string (Text.toLower key)) = true ∨ v.Loses (.string key) := by
    rw [hsame, hcontains]
    cases hfield : v.field? (Text.toLower key) with
    | some found => exact .inl rfl
    | none => exact .inr (.key hshape hfield)
  cases v with
  | array items =>
      simp only [toLower, contains, toLowerItems_eq_map, List.any_map, List.any_eq_true] at h ⊢
      obtain ⟨v, hv, hitem⟩ := h
      exact .inl ⟨v, hv, looseEq_toLower hitem⟩
  | string text =>
      cases item with
      | string part => exact isPartOf_toLower h
      | _ => cases h
  | object | entity =>
      cases item with
      | string key => exact hkey rfl rfl rfl
      | _ => cases h
  | null | boolean | float | integer | timestamp =>
      cases item with
      | string key => simp [contains, field?] at h
      | _ => cases h

end Value

/-! ## Operators -/

namespace Comparison

/-- Whether the operator holds perhaps only as long as case counts. -/
def Loses (op : Comparison) (left right : Value) : Prop :=
  match op with
  | .within => right.Loses left
  | .contains => left.Loses right
  | _ => False

/-- Equality, and membership in either direction. -/
def isMembership : Comparison → Bool
  | .equal | .within | .contains => true
  | _ => false

/-- What holds between two values holds in lower case, unless it is a membership that is lost. -/
theorem holds_toLower {op : Comparison} (hop : op.isMembership = true) {left right : Value}
    (h : op.holds left right = true) :
    op.holds left.toLower right.toLower = true ∨ op.Loses left right := by
  cases op with
  | equal => exact .inl (Value.looseEq_toLower h)
  | within => exact Value.contains_toLower h
  | contains => exact Value.contains_toLower h
  | _ => cases hop

end Comparison

/-! ## Evaluation -/

namespace Expr

def isString : Expr → Bool
  | .string _ => true
  | _ => false

/-- The values for which a field reference or a string literal stands, as they are written. -/
def sideValues (paths : PathOptions) (record : Value) : Expr → List Value
  | .field path => Path.lookup paths record path
  | .string raw => [.string (Literal.unquote raw)]
  | _ => []

end Expr

namespace Context

variable {ctx : Context} {op : Comparison} {left right tree : Expr}

/-- A side has its values, unless it leads nowhere on a strict path. -/
theorem side_eq_ok_iff (htree : tree.isField ∨ tree.isString) {vs : List Value} :
    (ctx.term tree >>= Term.toValues op) = .ok vs ↔
      ¬ (ctx.paths.strict ∧ tree.sideValues ctx.paths ctx.record = []) ∧
        (tree.sideValues ctx.paths ctx.record).map ctx.fold = vs := by
  cases tree with
  | field path =>
      have hvalues : (ctx.term (.field path) >>= Term.toValues op) = ctx.fieldValues path := by
        rw [term_field, bind_assoc]
        exact bind_pure _
      rw [hvalues, fieldValues_eq_lookup, Expr.sideValues]
      split <;> simp_all
  | string raw =>
      change Except.ok [ctx.fold (.string (Literal.unquote raw))] = .ok vs ↔ _
      simp [Expr.sideValues]
  | _ => simp [Expr.isField, Expr.isString] at htree

theorem holdsBetween_map_iff {f : Value → Value} {ls rs : List Value} :
    holdsBetween op (ls.map f) (rs.map f) = true ↔
      ∃ l ∈ ls, ∃ r ∈ rs, op.holds (f l) (f r) = true := by
  simp [holdsBetween]

theorem evaluate_sides (hop : op.isMembership = true) (hleft : left.isField ∨ left.isString)
    (hright : right.isField ∨ right.isString) {holds : Bool} :
    ctx.evaluate (.comparison op left right) = .ok holds ↔
      (∀ side ∈ [left, right],
        ¬ (ctx.paths.strict ∧ side.sideValues ctx.paths ctx.record = [])) ∧
      holdsBetween op ((left.sideValues ctx.paths ctx.record).map ctx.fold)
        ((right.sideValues ctx.paths ctx.record).map ctx.fold) = holds := by
  have hmatches : op ≠ .matches := by
    rintro rfl
    cases hop
  have hlike : op ≠ .like := by
    rintro rfl
    cases hop
  rw [evaluate_comparison hmatches hlike, List.forall_mem_cons, List.forall_mem_singleton]
  constructor
  · intro h
    obtain ⟨ls, hls, h⟩ := bind_eq_ok h
    obtain ⟨rs, hrs, h⟩ := bind_eq_ok h
    obtain ⟨hl, rfl⟩ := (side_eq_ok_iff hleft).mp hls
    obtain ⟨hr, rfl⟩ := (side_eq_ok_iff hright).mp hrs
    cases h
    exact ⟨⟨hl, hr⟩, rfl⟩
  · rintro ⟨⟨hl, hr⟩, rfl⟩
    rw [(side_eq_ok_iff hleft).mpr ⟨hl, rfl⟩, (side_eq_ok_iff hright).mpr ⟨hr, rfl⟩]
    rfl

end Context

namespace PatternCache

theorem addTree_side {cache : PatternCache} {tree : Expr} (htree : tree.isField ∨ tree.isString) :
    cache.addTree tree = .ok cache := by
  cases tree with
  | field | string => rfl
  | _ => simp [Expr.isField, Expr.isString] at htree

theorem collect_sides {op : Comparison} {left right : Expr} (hop : op.isMembership = true)
    (hleft : left.isField ∨ left.isString) (hright : right.isField ∨ right.isString)
    (caseSensitive : Bool) :
    collect caseSensitive (.comparison op left right) = .ok (.empty caseSensitive) := by
  have hwildcard (cache : PatternCache) : cache.insertWildcard op right = .ok cache := by
    cases op <;> first | rfl | cases hop
  rw [collect, addTree, hwildcard]
  change (addTree _ left >>= fun cache => cache.addTree right) = _
  rw [addTree_side hleft]
  exact addTree_side hright

end PatternCache

/-! ## Compiled queries -/

namespace Query

variable {options : QueryOptions} {text : String} {op : Comparison} {left right : Expr}

theorem matchesRecord_sides (options : QueryOptions) {now : Timestamp} {record : Value}
    {holds : Bool} (h : parse options.dialect text = .ok (some (.comparison op left right)))
    (hop : op.isMembership = true)
    (hleft : left.isField ∨ left.isString) (hright : right.isField ∨ right.isString) :
    (compile options text >>= fun query => query.matchesRecord now record) = .ok holds ↔
      check options (some (.comparison op left right)) = .ok () ∧
        Context.evaluate ⟨record, options.paths, options.caseSensitive,
          .empty options.caseSensitive, now⟩ (.comparison op left right) = .ok holds := by
  have hcollect : collectPatterns options.caseSensitive (some (.comparison op left right)) =
      .ok (.empty options.caseSensitive) := by
    rw [collectPatterns, PatternCache.collect_sides hop hleft hright]
    rfl
  rw [compile_matchesRecord h, hcollect]
  constructor
  · intro h
    obtain ⟨_, hcheck, h⟩ := bind_eq_ok h
    exact ⟨hcheck, mapError_eq_ok_iff.mp h⟩
  · rintro ⟨hcheck, h⟩
    rw [hcheck]
    exact mapError_eq_ok_iff.mpr h

/--
A comparison by equality or membership that matches a record still matches it
where case does not count, or else every pair of values between which it holds
is one that is lost: a map and a key that it has with capitals only, or a text
and a part of it with a sigma that changes its form.
-/
theorem matchesRecord_ignoringCase {now : Timestamp} {record : Value}
    (h : parse options.dialect text = .ok (some (.comparison op left right)))
    (hop : op.isMembership = true)
    (hleft : left.isField ∨ left.isString) (hright : right.isField ∨ right.isString)
    (hmatch : (compile { options with caseSensitive := true } text >>= fun query =>
      query.matchesRecord now record) = .ok true) :
    ∃ holds, (compile { options with caseSensitive := false } text >>= fun query =>
        query.matchesRecord now record) = .ok holds ∧
      (holds = false →
        (∃ l ∈ left.sideValues options.paths record, ∃ r ∈ right.sideValues options.paths record,
          op.holds l r = true) ∧
        ∀ l ∈ left.sideValues options.paths record, ∀ r ∈ right.sideValues options.paths record,
          op.holds l r = true → op.Loses l r) := by
  obtain ⟨hcheck, hmatch⟩ :=
    (matchesRecord_sides { options with caseSensitive := true } h hop hleft hright).mp hmatch
  obtain ⟨hsides, hmatch⟩ := (Context.evaluate_sides hop hleft hright).mp hmatch
  refine ⟨_, (matchesRecord_sides { options with caseSensitive := false } h hop hleft hright).mpr
    ⟨hcheck, (Context.evaluate_sides hop hleft hright).mpr ⟨hsides, rfl⟩⟩, fun hlost => ?_⟩
  rw [Context.holdsBetween_map_iff] at hmatch
  rw [← Bool.not_eq_true, Context.holdsBetween_map_iff] at hlost
  refine ⟨hmatch, fun l hl r hr hholds => ?_⟩
  rcases Comparison.holds_toLower hop hholds with hlower | hloses
  · exact absurd ⟨l, hl, r, hr, hlower⟩ hlost
  · exact hloses

/-- A part without a sigma is found in a text of other case. -/
theorem matchesRecord_ignoringCase_of_part :
    (compile { QueryOptions.default with caseSensitive := false } "'St' IN t" >>= fun query =>
      query.matchesRecord ⟨0, 0, 0⟩ (.object [("t", .string "Main St")])) = .ok true := by
  have hparse : parse QueryOptions.default.dialect "'St' IN t" =
      .ok (some (.comparison .within (.string "'St'") (.field "t"))) := by cbv
  have hmatch : (compile .default "'St' IN t" >>= fun query =>
      query.matchesRecord ⟨0, 0, 0⟩ (.object [("t", .string "Main St")])) = .ok true := by
    decide +kernel
  obtain ⟨holds, hresult, hlost⟩ := matchesRecord_ignoringCase hparse rfl
    (.inr rfl) (.inl rfl) hmatch
  cases holds with
  | true => exact hresult
  | false =>
      obtain ⟨⟨l, hl, r, hr, hholds⟩, hall⟩ := hlost rfl
      obtain rfl : l = .string "St" := by
        have hunquote : Literal.unquote "'St'" = "St" := by cbv
        simpa [Expr.sideValues, hunquote] using hl
      cases hall _ hl r hr hholds with
      | part hsigma => exact absurd hsigma (by decide)
      | key hshape =>
          have hlookup : Path.lookup .default (.object [("t", .string "Main St")]) "t" =
              [.string "Main St"] := by cbv
          rw [Expr.sideValues, show QueryOptions.default.paths = .default from rfl, hlookup,
            List.mem_singleton] at hr
          rw [hr] at hshape
          cases hshape

/-- A key with a capital and a part that ends with a sigma are found only as long as case counts. -/
theorem matchesRecord_ignoringCase_lost :
    (compile .default "m CONTAINS 'Key'" >>= fun query =>
        query.matchesRecord ⟨0, 0, 0⟩ (.object [("m", .object [("Key", .integer 1)])])) = .ok true ∧
      (compile { QueryOptions.default with caseSensitive := false } "m CONTAINS 'Key'" >>=
        fun query => query.matchesRecord ⟨0, 0, 0⟩
          (.object [("m", .object [("Key", .integer 1)])])) = .ok false ∧
      (compile .default "t CONTAINS 'ΑΣ'" >>= fun query =>
        query.matchesRecord ⟨0, 0, 0⟩ (.object [("t", .string "ΑΣΑ")])) = .ok true ∧
      (compile { QueryOptions.default with caseSensitive := false } "t CONTAINS 'ΑΣ'" >>=
        fun query => query.matchesRecord ⟨0, 0, 0⟩ (.object [("t", .string "ΑΣΑ")])) =
          .ok false := by
  decide +kernel

end Query

end RecordQuery
