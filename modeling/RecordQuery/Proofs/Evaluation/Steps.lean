import RecordQuery.Evaluation
import RecordQuery.Proofs.Results

/-! # Evaluation as steps in sequence

What the evaluation of each kind of tree does, one step behind the other.
Negations, comparisons and connectives stand for their truth.
-/

namespace RecordQuery

namespace Context

variable {ctx : Context}

theorem term_regexp (raw : String) :
    ctx.term (.regexp raw) =
      (ctx.regex (.regexp (Literal.regexpSource raw)) >>= fun regex => .ok (.pattern regex)) := by
  rw [term]
  rfl

theorem term_array (items : List Expr) :
    ctx.term (.array items) =
      (ctx.itemValues items >>= fun vs => .ok (.literal (.array vs))) := by
  rw [term]
  rfl

theorem itemValues_cons (item : Expr) (items : List Expr) :
    ctx.itemValues (item :: items) =
      ((ctx.term item >>= Term.toItems) >>= fun first =>
        ctx.itemValues items >>= fun rest => .ok (first ++ rest)) := by
  rw [itemValues, bind_assoc]
  rfl

theorem term_field (path : String) :
    ctx.term (.field path) = (ctx.fieldValues path >>= fun vs => .ok (.values vs)) := by
  rw [term]
  rfl

/-- A field reference fails only if its path is strict and leads nowhere. -/
theorem fieldValues_eq_lookup (path : String) :
    ctx.fieldValues path =
      if ctx.paths.strict ∧ Path.lookup ctx.paths ctx.record path = [] then
        .error (.keyNotFound path)
      else .ok ((Path.lookup ctx.paths ctx.record path).map ctx.fold) := by
  rw [fieldValues, Path.resolve?]
  simp only [List.isEmpty_iff]
  split_ifs <;> rfl

theorem term_not (operand : Expr) :
    ctx.term (.not operand) =
      ((ctx.term operand >>= Term.toTruth) >>= fun holds => .ok (.truth !holds)) := by
  rw [term, bind_assoc]
  rfl

theorem term_matches (left right : Expr) :
    ctx.term (.comparison .matches left right) =
      (ctx.term left >>= fun l => ctx.term right >>= searchRegexp l) := by
  rw [term]

theorem term_like (left right : Expr) :
    ctx.term (.comparison .like left right) =
      (ctx.term left >>= fun l => ctx.term right >>= ctx.searchWildcard l) := by
  rw [term]

/-- Operators other than those of patterns compare the values of both sides. -/
theorem term_comparison {op : Comparison} (hmatches : op ≠ .matches) (hlike : op ≠ .like)
    (left right : Expr) :
    ctx.term (.comparison op left right) =
      ((ctx.term left >>= Term.toValues op) >>= fun ls =>
        (ctx.term right >>= Term.toValues op) >>= fun rs =>
          .ok (.truth (holdsBetween op ls rs))) := by
  rw [bind_assoc]
  cases op <;> first | exact absurd rfl hmatches | exact absurd rfl hlike | skip
  all_goals
    rw [term]
    · simp only [bind_assoc]
      rfl
    all_goals simp

theorem term_logical (op : Connective) (left right : Expr) :
    ctx.term (.logical op left right) =
      ((ctx.term left >>= Term.toTruth) >>= fun holds =>
        if settles op holds then .ok (.truth holds)
        else (ctx.term right >>= Term.toTruth) >>= fun holds => .ok (.truth holds)) := by
  rw [term, bind_assoc]
  simp only [bind_assoc]
  rfl

/-! ## Conditions stand for their truth -/

theorem truth_of_search {op : Comparison} {left t : Term} {regex : Regex}
    (h : search op left regex = .ok t) : ∃ holds, t = .truth holds := by
  obtain ⟨vs, -, hvs⟩ := bind_eq_ok h
  cases hvs
  exact ⟨_, rfl⟩

theorem truth_of_comparison {op : Comparison} {left right : Expr} {t : Term}
    (h : ctx.term (.comparison op left right) = .ok t) : ∃ holds, t = .truth holds := by
  by_cases hmatches : op = .matches
  · subst hmatches
    rw [term_matches] at h
    obtain ⟨l, -, h⟩ := bind_eq_ok h
    obtain ⟨r, -, h⟩ := bind_eq_ok h
    unfold searchRegexp at h
    split at h
    · exact truth_of_search h
    · cases h
  by_cases hlike : op = .like
  · subst hlike
    rw [term_like] at h
    obtain ⟨l, -, h⟩ := bind_eq_ok h
    obtain ⟨r, -, h⟩ := bind_eq_ok h
    unfold searchWildcard at h
    split at h
    · obtain ⟨regex, -, h⟩ := bind_eq_ok h
      exact truth_of_search h
    · cases h
  rw [term_comparison hmatches hlike] at h
  obtain ⟨ls, -, h⟩ := bind_eq_ok h
  obtain ⟨rs, -, h⟩ := bind_eq_ok h
  cases h
  exact ⟨_, rfl⟩

theorem truth_of_not {operand : Expr} {t : Term} (h : ctx.term (.not operand) = .ok t) :
    ∃ holds, t = .truth holds := by
  rw [term_not] at h
  obtain ⟨holds, -, h⟩ := bind_eq_ok h
  cases h
  exact ⟨_, rfl⟩

theorem truth_of_logical {op : Connective} {left right : Expr} {t : Term}
    (h : ctx.term (.logical op left right) = .ok t) : ∃ holds, t = .truth holds := by
  rw [term_logical] at h
  obtain ⟨holds, -, h⟩ := bind_eq_ok h
  split at h
  · cases h
    exact ⟨_, rfl⟩
  · obtain ⟨holds, -, h⟩ := bind_eq_ok h
    cases h
    exact ⟨_, rfl⟩

theorem evaluate_comparison {op : Comparison} (hmatches : op ≠ .matches) (hlike : op ≠ .like)
    (left right : Expr) :
    ctx.evaluate (.comparison op left right) =
      ((ctx.term left >>= Term.toValues op) >>= fun ls =>
        (ctx.term right >>= Term.toValues op) >>= fun rs => .ok (holdsBetween op ls rs)) := by
  rw [evaluate, term_comparison hmatches hlike, bind_assoc]
  congr 1
  funext ls
  rw [bind_assoc]
  rfl

end Context

end RecordQuery
