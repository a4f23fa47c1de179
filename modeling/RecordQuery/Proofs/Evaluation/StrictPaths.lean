import RecordQuery.Proofs.Evaluation.Steps
import RecordQuery.Proofs.Pattern.Transparency

/-! # Strict paths

Evaluation with strict paths and evaluation without go the same way up to the
first field reference that leads nowhere.  There the strict one fails, so it
gives the other's result or names a missing key, and never another result.
-/

namespace RecordQuery

namespace Context

def withStrict (ctx : Context) (strict : Bool) : Context :=
  { ctx with paths := { ctx.paths with strict } }

/-- The tree has a reference to the path, and the path leads nowhere. -/
def Lacks (ctx : Context) (tree : Expr) (path : String) : Prop :=
  Expr.Occurs (.field path) tree ∧
    Path.resolve? (ctx.withStrict false).paths ctx.record path = some []

/-! ## Two runs in lock step -/

/-- The first result is the second one, or names one of the missing keys. -/
def Sharpens {α : Type} (missing : String → Prop) (strict lenient : Except EvaluationError α) :
    Prop :=
  strict = lenient ∨ ∃ path, missing path ∧ strict = .error (.keyNotFound path)

namespace Sharpens

variable {α β : Type} {missing missing' : String → Prop} {x x' : Except EvaluationError α}
  {f f' : α → Except EvaluationError β}

theorem refl (x : Except EvaluationError α) : Sharpens missing x x :=
  Or.inl rfl

theorem mono (h : Sharpens missing x x') (himp : ∀ path, missing path → missing' path) :
    Sharpens missing' x x' := by
  rcases h with rfl | ⟨path, hpath, rfl⟩
  · exact refl x
  · exact Or.inr ⟨path, himp path hpath, rfl⟩

/-- Later steps run in lock step where the earlier ones did not fail. -/
theorem bind (h : Sharpens missing x x') (h' : ∀ a, Sharpens missing (f a) (f' a)) :
    Sharpens missing (x >>= f) (x' >>= f') := by
  rcases h with rfl | ⟨path, hpath, rfl⟩
  · cases x with
    | error error => exact refl _
    | ok a => exact h' a
  · exact Or.inr ⟨path, hpath, rfl⟩

theorem bind_same (h : Sharpens missing x x') (f : α → Except EvaluationError β) :
    Sharpens missing (x >>= f) (x' >>= f) :=
  h.bind fun a => refl (f a)

end Sharpens

/-! ## Trees -/

section

variable {ctx : Context}

/-- What a part of a tree lacks, the tree lacks. -/
theorem Sharpens.within {α : Type} {x x' : Except EvaluationError α} {part tree : Expr}
    (h : Sharpens (ctx.Lacks part) x x')
    (himp : ∀ {inner}, Expr.Occurs inner part → Expr.Occurs inner tree) :
    Sharpens (ctx.Lacks tree) x x' :=
  h.mono fun _ hlacks => ⟨himp hlacks.1, hlacks.2⟩

theorem Lacks.array_cons {item : Expr} {items : List Expr} {path : String}
    (h : ctx.Lacks (.array items) path) : ctx.Lacks (.array (item :: items)) path := by
  obtain ⟨hoccurs, hpath⟩ := h
  cases hoccurs with
  | item hmem hinner => exact ⟨.item (List.mem_cons_of_mem _ hmem) hinner, hpath⟩

/-- What a path leads to does not depend on strictness; that nothing is an error does. -/
theorem resolve?_withStrict (strict : Bool) (path : String) :
    Path.resolve? (ctx.withStrict strict).paths ctx.record path =
      if strict ∧ Path.lookup ctx.paths ctx.record path = [] then none
      else some (Path.lookup ctx.paths ctx.record path) := by
  have hlookup : Path.lookup (ctx.withStrict strict).paths ctx.record path =
      Path.lookup ctx.paths ctx.record path := rfl
  rw [Path.resolve?, hlookup]
  simp only [List.isEmpty_iff, withStrict]

theorem fieldValues_withStrict (strict : Bool) (path : String) :
    (ctx.withStrict strict).fieldValues path =
      if strict ∧ Path.lookup ctx.paths ctx.record path = [] then .error (.keyNotFound path)
      else .ok ((Path.lookup ctx.paths ctx.record path).map ctx.fold) := by
  rw [fieldValues_eq_lookup]
  rfl

theorem sharpens_fieldValues (path : String) :
    Sharpens (ctx.Lacks (.field path)) ((ctx.withStrict true).fieldValues path)
      ((ctx.withStrict false).fieldValues path) := by
  rw [fieldValues_withStrict, fieldValues_withStrict]
  by_cases hempty : Path.lookup ctx.paths ctx.record path = []
  · have hlacks : ctx.Lacks (.field path) path :=
      ⟨.self, by rw [resolve?_withStrict, hempty]; rfl⟩
    exact Or.inr ⟨path, hlacks, if_pos ⟨rfl, hempty⟩⟩
  · rw [if_neg fun h => hempty h.2, if_neg fun h => hempty h.2]
    exact .refl _

mutual

/-- Both runs give a tree the same meaning, up to a missing key. -/
theorem sharpens_term (ctx : Context) (tree : Expr) :
    Sharpens (ctx.Lacks tree) ((ctx.withStrict true).term tree)
      ((ctx.withStrict false).term tree) := by
  match tree with
  | .number _ | .boolean _ | .null | .now | .string _ => exact .refl _
  | .regexp raw =>
      rw [term_regexp, term_regexp]
      exact .refl _
  | .array items =>
      rw [term_array, term_array]
      exact (sharpens_itemValues ctx items).bind_same _
  | .field path =>
      rw [term_field, term_field]
      exact (sharpens_fieldValues path).bind_same _
  | .not operand =>
      have hoperand : Sharpens (ctx.Lacks (.not operand)) _ _ :=
        (sharpens_term ctx operand).within .operand
      rw [term_not, term_not]
      exact (hoperand.bind_same _).bind_same _
  | .logical op left right =>
      have hleft : Sharpens (ctx.Lacks (.logical op left right)) _ _ :=
        (sharpens_term ctx left).within .logicalLeft
      have hright : Sharpens (ctx.Lacks (.logical op left right)) _ _ :=
        (sharpens_term ctx right).within .logicalRight
      rw [term_logical, term_logical]
      refine (hleft.bind_same _).bind fun holds => ?_
      -- where the left operand settles it neither run goes on to the right one
      split
      · exact .refl _
      · exact (hright.bind_same _).bind_same _
  | .comparison op left right =>
      have hleft : Sharpens (ctx.Lacks (.comparison op left right)) _ _ :=
        (sharpens_term ctx left).within .comparisonLeft
      have hright : Sharpens (ctx.Lacks (.comparison op left right)) _ _ :=
        (sharpens_term ctx right).within .comparisonRight
      by_cases hmatches : op = .matches
      · subst hmatches
        rw [term_matches, term_matches]
        exact hleft.bind fun l => hright.bind_same _
      by_cases hlike : op = .like
      · subst hlike
        rw [term_like, term_like]
        exact hleft.bind fun l => hright.bind_same _
      rw [term_comparison hmatches hlike, term_comparison hmatches hlike]
      exact (hleft.bind_same _).bind fun ls => (hright.bind_same _).bind_same _

theorem sharpens_itemValues (ctx : Context) (items : List Expr) :
    Sharpens (ctx.Lacks (.array items)) ((ctx.withStrict true).itemValues items)
      ((ctx.withStrict false).itemValues items) := by
  match items with
  | [] => exact .refl _
  | item :: items =>
      have hitem : Sharpens (ctx.Lacks (.array (item :: items))) _ _ :=
        (sharpens_term ctx item).within (.item List.mem_cons_self)
      have hitems : Sharpens (ctx.Lacks (.array (item :: items))) _ _ :=
        (sharpens_itemValues ctx items).mono fun _ h => h.array_cons
      rw [itemValues_cons, itemValues_cons]
      exact (hitem.bind_same _).bind fun first => hitems.bind_same _

end

/--
Strictness changes no answer.  Strict evaluation gives the result of the lenient
one, or it names a path of the tree that leads nowhere.
-/
theorem evaluate_withStrict (ctx : Context) (tree : Expr) :
    (∀ holds, (ctx.withStrict true).evaluate tree = .ok holds →
      (ctx.withStrict false).evaluate tree = .ok holds) ∧
    ((ctx.withStrict true).evaluate tree = (ctx.withStrict false).evaluate tree ∨
      ∃ path, Expr.Occurs (.field path) tree ∧
        Path.resolve? (ctx.withStrict false).paths ctx.record path = some [] ∧
        (ctx.withStrict true).evaluate tree = .error (.keyNotFound path)) := by
  have hsharpens : Sharpens (ctx.Lacks tree) ((ctx.withStrict true).evaluate tree)
      ((ctx.withStrict false).evaluate tree) := (sharpens_term ctx tree).bind_same _
  constructor
  · intro holds hstrict
    rcases hsharpens with hsame | ⟨path, -, herror⟩
    · exact hsame ▸ hstrict
    · cases herror.symm.trans hstrict
  · rcases hsharpens with hsame | ⟨path, ⟨hoccurs, hpath⟩, herror⟩
    · exact Or.inl hsame
    · exact Or.inr ⟨path, hoccurs, hpath, herror⟩

/-- A missing key behind a connective that is settled already changes nothing. -/
theorem evaluate_withStrict_of_settled :
    (Context.withStrict ⟨.object [("a", .boolean true)], .default, true, .empty true, ⟨0, 0, 0⟩⟩
        true).evaluate (.logical .or (.field "a") (.field "b")) = .ok true ∧
      (Context.withStrict ⟨.object [("a", .boolean true)], .default, true, .empty true,
        ⟨0, 0, 0⟩⟩ false).evaluate (.logical .or (.field "a") (.field "b")) = .ok true := by
  have hstrict : (Context.withStrict ⟨.object [("a", .boolean true)], .default, true,
      .empty true, ⟨0, 0, 0⟩⟩ true).evaluate (.logical .or (.field "a") (.field "b")) =
        .ok true := by cbv
  exact ⟨hstrict, (evaluate_withStrict _ _).1 true hstrict⟩

end

end Context

end RecordQuery
