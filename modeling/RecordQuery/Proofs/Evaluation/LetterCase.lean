import RecordQuery.Proofs.Evaluation.Steps
import RecordQuery.Proofs.Path.Walk
import RecordQuery.Proofs.Pattern.Collection
import RecordQuery.Proofs.Syntax.ParsedTrees
import RecordQuery.Proofs.Syntax.Validity
import RecordQuery.Query

/-! # Letter case

Where case does not count, every text is put in lower case before it is compared
or searched: string literals, wildcard patterns, and the values of field
references.  So texts that are the same in lower case can be exchanged in a tree
and in a record.  The texts inside maps are never put in lower case.
-/

namespace RecordQuery

/-! ## Recased values -/

namespace Value

mutual

/-- The values differ in strings only, which are the same in lower case. -/
inductive Recased : Value → Value → Prop
  | null : Recased .null .null
  | boolean (b : Bool) : Recased (.boolean b) (.boolean b)
  | float (x : Binary64) : Recased (.float x) (.float x)
  | integer (n : Int64) : Recased (.integer n) (.integer n)
  | timestamp (t : Timestamp) : Recased (.timestamp t) (.timestamp t)
  | string {text text' : String} (h : Text.toLower text = Text.toLower text') :
      Recased (.string text) (.string text')
  | array {items items' : List Value} (h : ItemsRecased items items') :
      Recased (.array items) (.array items')
  | object {entries entries' : List (String × Value)} (h : EntriesRecased entries entries') :
      Recased (.object entries) (.object entries')
  | entity (identity : Nat) (listed : Bool) (attributes : List (String × Value)) :
      Recased (.entity identity listed attributes) (.entity identity listed attributes)

inductive ItemsRecased : List Value → List Value → Prop
  | nil : ItemsRecased [] []
  | cons {v v' : Value} {vs vs' : List Value} (h : Recased v v') (hs : ItemsRecased vs vs') :
      ItemsRecased (v :: vs) (v' :: vs')

inductive EntriesRecased : List (String × Value) → List (String × Value) → Prop
  | nil : EntriesRecased [] []
  | cons {key : String} {v v' : Value} {entries entries' : List (String × Value)}
      (h : Recased v v') (hs : EntriesRecased entries entries') :
      EntriesRecased ((key, v) :: entries) ((key, v') :: entries')

end

mutual

theorem Recased.refl (v : Value) : Recased v v := by
  match v with
  | .null => exact .null
  | .boolean b => exact .boolean b
  | .float x => exact .float x
  | .integer n => exact .integer n
  | .timestamp t => exact .timestamp t
  | .string _ => exact .string rfl
  | .array items => exact .array (ItemsRecased.refl items)
  | .object entries => exact .object (EntriesRecased.refl entries)
  | .entity identity listed attributes => exact .entity identity listed attributes

theorem ItemsRecased.refl (items : List Value) : ItemsRecased items items := by
  match items with
  | [] => exact .nil
  | v :: vs => exact .cons (Recased.refl v) (ItemsRecased.refl vs)

theorem EntriesRecased.refl (entries : List (String × Value)) :
    EntriesRecased entries entries := by
  match entries with
  | [] => exact .nil
  | (_, v) :: entries => exact .cons (Recased.refl v) (EntriesRecased.refl entries)

end

mutual

/-- Whether the value is an object, or an array with an object in it at any depth. -/
def holdsObject : Value → Bool
  | .object _ => true
  | .array items => itemsHoldObject items
  | _ => false

def itemsHoldObject : List Value → Bool
  | [] => false
  | v :: vs => holdsObject v || itemsHoldObject vs

end

mutual

/-- Outside of maps, recased values are the same in lower case. -/
theorem Recased.toLower_eq {v v' : Value} (h : Recased v v') (hv : v.holdsObject = false) :
    v.toLower = v'.toLower := by
  match h with
  | .null | .boolean _ | .float _ | .integer _ | .timestamp _ | .entity .. => rfl
  | .string h => rw [toLower, toLower, h]
  | .array h => rw [toLower, toLower, h.toLowerItems_eq hv]
  | .object _ => cases hv

theorem ItemsRecased.toLowerItems_eq {vs vs' : List Value} (h : ItemsRecased vs vs')
    (hvs : itemsHoldObject vs = false) : toLowerItems vs = toLowerItems vs' := by
  match h with
  | .nil => rfl
  | .cons h hs =>
      obtain ⟨hv, hvs⟩ := Bool.or_eq_false_iff.mp hvs
      rw [toLowerItems, toLowerItems, h.toLower_eq hv, hs.toLowerItems_eq hvs]

end

theorem map_toLower_eq {vs vs' : List Value} (h : List.Forall₂ Recased vs vs')
    (hvs : ∀ v ∈ vs, v.holdsObject = false) : vs.map toLower = vs'.map toLower := by
  induction h with
  | nil => rfl
  | cons hv _ ih =>
      rw [List.forall_mem_cons] at hvs
      rw [List.map_cons, List.map_cons, hv.toLower_eq hvs.1, ih hvs.2]

theorem EntriesRecased.lookupEntry {entries entries' : List (String × Value)}
    (h : EntriesRecased entries entries') (key : String) :
    Option.Rel Recased (lookupEntry key entries) (lookupEntry key entries') := by
  induction entries generalizing entries' with
  | nil =>
      cases h
      exact .none
  | cons entry entries ih =>
      cases h with
      | cons h hs =>
          rw [RecordQuery.lookupEntry, RecordQuery.lookupEntry]
          split
          · exact .some h
          · exact ih hs

variable {v v' : Value}

theorem Recased.field? (h : Recased v v') (key : String) :
    Option.Rel Recased (v.field? key) (v'.field? key) := by
  cases h with
  | object h => exact h.lookupEntry key
  | entity _ _ attributes => exact (EntriesRecased.refl attributes).lookupEntry key
  | null | boolean | float | integer | timestamp | string | array => exact .none

theorem Recased.shape_eq (h : Recased v v') : v.shape = v'.shape := by
  cases h <;> rfl

end Value

/-! ## Recased records -/

namespace Path

open Value (Recased ItemsRecased)

theorem entries_array_recased {items items' : List Value} (h : ItemsRecased items items')
    (segment : String) :
    List.Forall₂ Recased (entries (.array items) segment) (entries (.array items') segment) := by
  induction items generalizing items' with
  | nil =>
      cases h
      exact .nil
  | cons v vs ih =>
      cases h with
      | @cons _ v' _ vs' h hs =>
          have hrest := ih hs
          have hfield := h.field? segment
          simp only [entries, List.filterMap_cons] at hrest ⊢
          generalize v.field? segment = found at hfield ⊢
          generalize v'.field? segment = found' at hfield ⊢
          cases hfield with
          | none => exact hrest
          | some h => exact .cons h hrest

theorem entries_recased {v v' : Value} (h : Recased v v') (segment : String) :
    List.Forall₂ Recased (entries v segment) (entries v' segment) := by
  have hsingle (hentries : entries v segment = (v.field? segment).toList)
      (hentries' : entries v' segment = (v'.field? segment).toList) :
      List.Forall₂ Recased (entries v segment) (entries v' segment) := by
    rw [hentries, hentries']
    have hfield := h.field? segment
    generalize v.field? segment = found at hfield ⊢
    generalize v'.field? segment = found' at hfield ⊢
    cases hfield with
    | none => exact .nil
    | some h => exact .cons h .nil
  cases h with
  | array h => exact entries_array_recased h segment
  | null | boolean | float | integer | timestamp | string | object | entity =>
      exact hsingle rfl rfl

theorem filter_shape_recased {vs vs' : List Value} (h : List.Forall₂ Recased vs vs') :
    List.Forall₂ Recased (vs.filter (·.shape ≠ .scalar)) (vs'.filter (·.shape ≠ .scalar)) := by
  induction h with
  | nil => exact .nil
  | cons h _ ih =>
      rw [List.filter_cons, List.filter_cons, h.shape_eq]
      split
      · exact .cons h ih
      · exact ih

/-- The same path leads to recased values from recased records. -/
theorem walk_recased {v v' : Value} (h : Recased v v') (segments : List String) :
    List.Forall₂ Recased (walk v segments) (walk v' segments) := by
  induction segments generalizing v v' with
  | nil => exact .nil
  | cons segment rest ih =>
      cases rest with
      | nil => exact entries_recased h segment
      | cons next rest =>
          rw [walk, walk]
          have hreached := filter_shape_recased (entries_recased h segment)
          generalize (entries v segment).filter (·.shape ≠ .scalar) = vs at hreached ⊢
          generalize (entries v' segment).filter (·.shape ≠ .scalar) = vs' at hreached ⊢
          induction hreached with
          | nil => exact .nil
          | cons h _ ihReached =>
              rw [List.flatMap_cons, List.flatMap_cons]
              exact List.rel_append (ih h) ihReached

theorem lookup_recased {record record' : Value} (h : Recased record record')
    (options : PathOptions) (path : String) :
    List.Forall₂ Recased (lookup options record path) (lookup options record' path) := by
  rw [lookup_eq_walk, lookup_eq_walk]
  exact walk_recased h _

end Path

/-! ## Recased trees -/

namespace Expr

mutual

/-- The trees differ in string literals only, whose texts are the same in lower case. -/
inductive Recased : Expr → Expr → Prop
  | number (x : Binary64) : Recased (.number x) (.number x)
  | boolean (b : Bool) : Recased (.boolean b) (.boolean b)
  | null : Recased .null .null
  | now : Recased .now .now
  | string {raw raw' : String}
      (h : Text.toLower (Literal.unquote raw) = Text.toLower (Literal.unquote raw')) :
      Recased (.string raw) (.string raw')
  | regexp (raw : String) : Recased (.regexp raw) (.regexp raw)
  | array {items items' : List Expr} (h : ItemsRecased items items') :
      Recased (.array items) (.array items')
  | field (path : String) : Recased (.field path) (.field path)
  | not {operand operand' : Expr} (h : Recased operand operand') :
      Recased (.not operand) (.not operand')
  | comparison (op : Comparison) {left left' right right' : Expr} (hleft : Recased left left')
      (hright : Recased right right') :
      Recased (.comparison op left right) (.comparison op left' right')
  | logical (op : Connective) {left left' right right' : Expr} (hleft : Recased left left')
      (hright : Recased right right') :
      Recased (.logical op left right) (.logical op left' right')

inductive ItemsRecased : List Expr → List Expr → Prop
  | nil : ItemsRecased [] []
  | cons {item item' : Expr} {items items' : List Expr} (h : Recased item item')
      (hs : ItemsRecased items items') : ItemsRecased (item :: items) (item' :: items')

end

theorem Recased.isLiteral_eq {tree tree' : Expr} (h : Recased tree tree') :
    tree.isLiteral = tree'.isLiteral := by
  cases h <;> rfl

theorem Recased.isField_eq {tree tree' : Expr} (h : Recased tree tree') :
    tree.isField = tree'.isField := by
  cases h <;> rfl

theorem Recased.validateParts_eq {tree tree' : Expr} (h : Recased tree tree') :
    tree.validateParts = tree'.validateParts := by
  match tree with
  | .number _ | .boolean _ | .null | .now | .string _ | .regexp _ | .array _ | .field _ =>
      cases h
      rfl
  | .not _ =>
      cases h with
      | not h => rw [validateParts, validateParts, h.isLiteral_eq, h.validateParts_eq]
  | .comparison _ _ _ =>
      cases h with
      | comparison _ hleft hright =>
          rw [validateParts, validateParts, hleft.isField_eq, hright.isField_eq]
  | .logical _ _ _ =>
      cases h with
      | logical _ hleft hright =>
          rw [validateParts, validateParts, hleft.isLiteral_eq, hleft.validateParts_eq,
            hright.isLiteral_eq, hright.validateParts_eq]

theorem Recased.validate_eq {tree tree' : Expr} (h : Recased tree tree') :
    tree.validate = tree'.validate := by
  rw [validate, validate, h.isLiteral_eq, h.validateParts_eq]

end Expr

/-! ## Patterns -/

namespace Expr

theorem Recased.wildcards_eq {right right' : Expr} (h : right.Recased right') (op : Comparison) :
    wildcards false op right = wildcards false op right' := by
  by_cases hlike : op = .like
  · subst hlike
    cases h with
    | string h => simp only [wildcards, PatternCache.wildcardOf, h, Bool.false_eq_true, if_false]
    | number | boolean | null | now | regexp | array | field | not | comparison | logical => rfl
  · have hnone (tree : Expr) : wildcards false op tree = [] := by
      unfold wildcards
      split
      · exact absurd rfl hlike
      · rfl
    rw [hnone, hnone]

mutual

/-- Without regard to case recased trees have the same patterns. -/
theorem Recased.patterns_eq {tree tree' : Expr} (h : tree.Recased tree') :
    tree.patterns false = tree'.patterns false := by
  match h with
  | .number _ | .boolean _ | .null | .now | .string _ | .regexp _ | .field _ => rfl
  | .array h => exact ItemsRecased.itemPatterns_eq h
  | .not h =>
      rw [patterns, patterns]
      exact Recased.patterns_eq h
  | .comparison op hleft hright =>
      rw [patterns, patterns, hright.wildcards_eq op, Recased.patterns_eq hleft,
        Recased.patterns_eq hright]
  | .logical _ hleft hright =>
      rw [patterns, patterns, Recased.patterns_eq hleft, Recased.patterns_eq hright]

theorem ItemsRecased.itemPatterns_eq {items items' : List Expr} (h : ItemsRecased items items') :
    itemPatterns false items = itemPatterns false items' := by
  match h with
  | .nil => rfl
  | .cons h hs =>
      rw [itemPatterns, itemPatterns, Recased.patterns_eq h, ItemsRecased.itemPatterns_eq hs]

end

end Expr

namespace PatternCache

theorem addTree_recased {cache : PatternCache} (hcase : cache.caseSensitive = false)
    {tree tree' : Expr} (h : tree.Recased tree') : cache.addTree tree = cache.addTree tree' := by
  rw [addTree_eq_foldlM, addTree_eq_foldlM, hcase, h.patterns_eq]

end PatternCache

/-! ## Evaluation -/

namespace Context

/-- Contexts without regard to case, of which the records are recased. -/
structure Recased (ctx ctx' : Context) : Prop where
  same : ctx' = { ctx with record := ctx'.record }
  caseSensitive : ctx.caseSensitive = false
  record : ctx.record.Recased ctx'.record

/-- The path leads to no object, and to no array with an object in it. -/
def AvoidsObjects (ctx : Context) (path : String) : Prop :=
  ∀ v ∈ Path.lookup ctx.paths ctx.record path, v.holdsObject = false

namespace Recased

variable {ctx ctx' : Context}

theorem fold_eq_toLower (h : Recased ctx ctx') : ctx.fold = Value.toLower := by
  funext v
  simp only [fold, h.caseSensitive, Bool.false_eq_true, if_false]

theorem fold_eq (h : Recased ctx ctx') : ctx'.fold = ctx.fold := by
  rw [h.same]
  rfl

theorem regex_eq (h : Recased ctx ctx') : ctx'.regex = ctx.regex := by
  rw [h.same]
  rfl

theorem searchWildcard_eq (h : Recased ctx ctx') : ctx'.searchWildcard = ctx.searchWildcard := by
  rw [h.same]
  rfl

theorem fieldValues_eq (h : Recased ctx ctx') {path : String} (hpath : ctx.AvoidsObjects path) :
    ctx.fieldValues path = ctx'.fieldValues path := by
  have hlookup := Path.lookup_recased h.record ctx.paths path
  have hpathsEq : ctx'.paths = ctx.paths := by rw [h.same]
  have hmap := Value.map_toLower_eq hlookup hpath
  rw [fieldValues_eq_lookup, fieldValues_eq_lookup, h.fold_eq, h.fold_eq_toLower, hpathsEq, hmap]
  have hempty : Path.lookup ctx.paths ctx.record path = [] ↔
      Path.lookup ctx.paths ctx'.record path = [] := by
    rw [← List.length_eq_zero_iff, hlookup.length_eq, List.length_eq_zero_iff]
  simp only [hempty]

mutual

/-- A tree has the same meaning when it and the record are recased. -/
theorem term_eq (h : Recased ctx ctx') {tree tree' : Expr} (htree : tree.Recased tree')
    (hpaths : ∀ path ∈ tree.fieldPaths, ctx.AvoidsObjects path) :
    ctx.term tree = ctx'.term tree' := by
  match htree with
  | .number _ | .boolean _ | .null => rfl
  | .now => rw [h.same]; rfl
  | .string hraw =>
      rw [term, term, h.fold_eq, h.fold_eq_toLower, Value.toLower, Value.toLower, hraw]
  | .regexp raw => rw [term_regexp, term_regexp, h.regex_eq]
  | .array hitems => rw [term_array, term_array, h.itemValues_eq hitems hpaths]
  | .field path =>
      rw [term_field, term_field, h.fieldValues_eq (hpaths path (List.mem_singleton_self _))]
  | .not hoperand =>
      rw [Expr.fieldPaths] at hpaths
      rw [term_not, term_not, h.term_eq hoperand hpaths]
  | .logical op hleft hright =>
      rw [Expr.fieldPaths, List.forall_mem_append] at hpaths
      rw [term_logical, term_logical, h.term_eq hleft hpaths.1, h.term_eq hright hpaths.2]
  | .comparison op hleft hright =>
      rw [Expr.fieldPaths, List.forall_mem_append] at hpaths
      have ihLeft := h.term_eq hleft hpaths.1
      have ihRight := h.term_eq hright hpaths.2
      by_cases hmatches : op = .matches
      · subst hmatches
        rw [term_matches, term_matches, ihLeft, ihRight]
      by_cases hlike : op = .like
      · subst hlike
        rw [term_like, term_like, ihLeft, ihRight, h.searchWildcard_eq]
      rw [term_comparison hmatches hlike, term_comparison hmatches hlike, ihLeft, ihRight]

theorem itemValues_eq (h : Recased ctx ctx') {items items' : List Expr}
    (hitems : Expr.ItemsRecased items items')
    (hpaths : ∀ path ∈ Expr.itemFieldPaths items, ctx.AvoidsObjects path) :
    ctx.itemValues items = ctx'.itemValues items' := by
  match hitems with
  | .nil => rfl
  | .cons hitem hitems =>
      rw [Expr.itemFieldPaths, List.forall_mem_append] at hpaths
      rw [itemValues_cons, itemValues_cons, h.term_eq hitem hpaths.1,
        h.itemValues_eq hitems hpaths.2]

end

theorem evaluate_eq (h : Recased ctx ctx') {tree tree' : Expr} (htree : tree.Recased tree')
    (hpaths : ∀ path ∈ tree.fieldPaths, ctx.AvoidsObjects path) :
    ctx.evaluate tree = ctx'.evaluate tree' := by
  rw [evaluate, evaluate, h.term_eq htree hpaths]

end Recased

end Context

/-! ## Compiled queries -/

namespace Query

/-- Compiling a text and testing a record, one step behind the other. -/
theorem compile_matchesRecord {options : QueryOptions} {text : String} {tree : Expr}
    (h : parse options.dialect text = .ok (some tree)) (now : Timestamp) (record : Value) :
    (compile options text >>= fun query => query.matchesRecord now record) =
      (check options (some tree) >>= fun _ =>
        collectPatterns options.caseSensitive (some tree) >>= fun patterns =>
          (Context.evaluate ⟨record, options.paths, options.caseSensitive, patterns, now⟩
            tree).mapError .evaluation) := by
  have hparse : parseTree options.dialect text = .ok (some tree) := mapError_eq_ok_iff.mpr h
  rw [compile, hparse]
  simp only [bind_assoc]
  rfl

variable {options : QueryOptions} {text text' : String} {tree tree' : Expr}
  {record record' : Value}

/--
Evaluation without regard to case cannot tell case apart.  Recased trees give the
same answer or the same failure on recased records, if no path of the tree leads
to texts inside an object.
-/
theorem matchesRecord_recased (hcase : options.caseSensitive = false)
    (h : parse options.dialect text = .ok (some tree))
    (h' : parse options.dialect text' = .ok (some tree')) (htree : tree.Recased tree')
    (hrecord : record.Recased record')
    (hpaths : ∀ path ∈ tree.fieldPaths, ∀ v ∈ Path.lookup options.paths record path,
      v.holdsObject = false) (now : Timestamp) :
    (compile options text >>= fun query => query.matchesRecord now record) =
      (compile options text' >>= fun query => query.matchesRecord now record') := by
  have hcheck : check options (some tree) = check options (some tree') := by
    unfold check
    cases options.validate with
    | false => rfl
    | true => exact congrArg (Except.mapError QueryError.invalid) htree.validate_eq
  have hcollect : collectPatterns options.caseSensitive (some tree) =
      collectPatterns options.caseSensitive (some tree') := by
    have hempty : (PatternCache.empty options.caseSensitive).caseSensitive = false := hcase
    rw [collectPatterns, collectPatterns, PatternCache.collect, PatternCache.collect,
      PatternCache.addTree_recased hempty htree]
  rw [compile_matchesRecord h, compile_matchesRecord h', hcheck, hcollect]
  congr 1
  funext _
  congr 1
  funext patterns
  have hctx : Context.Recased ⟨record, options.paths, options.caseSensitive, patterns, now⟩
      ⟨record', options.paths, options.caseSensitive, patterns, now⟩ := ⟨rfl, hcase, hrecord⟩
  rw [hctx.evaluate_eq htree hpaths]

/-- A wildcard pattern, an item of an array and the texts of the record are exchanged. -/
theorem matchesRecord_recased_of_pattern :
    (compile ⟨.default, false, true, .extended⟩ "a.b LIKE 'Ä*' AND c IN ['Y', d]" >>= fun query =>
        query.matchesRecord ⟨0, 0, 0⟩ (.object [("a", .array [.object [("b", .string "äB")]]),
          ("c", .string "y"), ("d", .integer 1)])) =
      (compile ⟨.default, false, true, .extended⟩ "a.b LIKE 'ä*' AND c IN ['y', d]" >>= fun query =>
        query.matchesRecord ⟨0, 0, 0⟩ (.object [("a", .array [.object [("b", .string "ÄB")]]),
          ("c", .string "Y"), ("d", .integer 1)])) := by
  have hparse : parse .extended "a.b LIKE 'Ä*' AND c IN ['Y', d]" =
      .ok (some (.logical .and (.comparison .like (.field "a.b") (.string "'Ä*'"))
        (.comparison .within (.field "c") (.array [.string "'Y'", .field "d"])))) := by cbv
  have hparse' : parse .extended "a.b LIKE 'ä*' AND c IN ['y', d]" =
      .ok (some (.logical .and (.comparison .like (.field "a.b") (.string "'ä*'"))
        (.comparison .within (.field "c") (.array [.string "'y'", .field "d"])))) := by cbv
  have hpattern : Text.toLower (Literal.unquote "'Ä*'") =
      Text.toLower (Literal.unquote "'ä*'") := by
    decide +kernel
  have hitem : Text.toLower (Literal.unquote "'Y'") = Text.toLower (Literal.unquote "'y'") := by
    decide +kernel
  have hnested : Text.toLower "äB" = Text.toLower "ÄB" := by decide +kernel
  have hplain : Text.toLower "y" = Text.toLower "Y" := by decide +kernel
  refine @matchesRecord_recased ⟨.default, false, true, .extended⟩ _ _ _ _ _ _ rfl hparse hparse'
    ?tree ?record ?paths ⟨0, 0, 0⟩
  case tree =>
    exact .logical .and (.comparison .like (.field _) (.string hpattern))
      (.comparison .within (.field _) (.array (.cons (.string hitem) (.cons (.field _) .nil))))
  case record =>
    exact .object (.cons (.array (.cons (.object (.cons (.string hnested) .nil)) .nil))
      (.cons (.string hplain) (.cons (.integer 1) .nil)))
  case paths =>
    have hfields : (Expr.logical .and (.comparison .like (.field "a.b") (.string "'Ä*'"))
        (.comparison .within (.field "c") (.array [.string "'Y'", .field "d"]))).fieldPaths =
          ["a.b", "c", "d"] := by
      simp [Expr.fieldPaths, Expr.itemFieldPaths]
    have hlookups : (["a.b", "c", "d"].all fun path =>
        (Path.lookup .default (.object [("a", .array [.object [("b", .string "äB")]]),
          ("c", .string "y"), ("d", .integer 1)]) path).all fun v => !v.holdsObject) = true := by
      cbv
    simpa [hfields, List.all_eq_true] using hlookups

end Query

end RecordQuery
