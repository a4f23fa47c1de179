import RecordQuery.Proofs.FilterDocument.Reading

/-! # Field references as operands

A field reference among the operands of a comparison is written as its path, and
so is the string literal that spells the path.  The two documents are the same
unless case does not count: then the text of the literal is put in lower case,
and the path is not.
-/

namespace RecordQuery

namespace Expr

/-- A field reference in an operand is replaced by a string literal. -/
inductive OperandRespelled (path raw : String) : Expr → Expr → Prop
  | field : OperandRespelled path raw (.field path) (.string raw)
  | item {before after : List Expr} {item item' : Expr} (h : OperandRespelled path raw item item') :
      OperandRespelled path raw (.array (before ++ item :: after))
        (.array (before ++ item' :: after))

/-- A field reference on the right of a comparison is replaced by a string literal. -/
inductive Respelled (path raw : String) : Expr → Expr → Prop
  | right {op : Comparison} {left right right' : Expr}
      (h : OperandRespelled path raw right right') :
      Respelled path raw (.comparison op left right) (.comparison op left right')
  | operand {operand operand' : Expr} (h : Respelled path raw operand operand') :
      Respelled path raw (.not operand) (.not operand')
  | logicalLeft {op : Connective} {left left' right : Expr} (h : Respelled path raw left left') :
      Respelled path raw (.logical op left right) (.logical op left' right)
  | logicalRight {op : Connective} {left right right' : Expr}
      (h : Respelled path raw right right') :
      Respelled path raw (.logical op left right) (.logical op left right')

/-- What is behind LIKE and MATCH has no field reference in it. -/
theorem OperandRespelled.ne_of_fits {path raw : String} {op : Comparison} {right right' : Expr}
    (h : OperandRespelled path raw right right') (hfits : op.fits right = true) :
    op ≠ .like ∧ op ≠ .matches := by
  constructor
  · rintro rfl
    cases h <;> cases hfits
  · rintro rfl
    cases h <;> cases hfits

end Expr

namespace FilterDocument

/-- A path is written as the string literal that spells it is. -/
def SpelledAlike (settings : Settings) (path : String) : Prop :=
  settings.caseSensitive = true ∨ Text.toLower path = path

/-- The second is written whenever the first is, and alike under the condition only. -/
def Follows {α : Type} (alike : Prop) (first second : Except DocumentError α) : Prop :=
  ∀ a, first = .ok a → ∃ b, second = .ok b ∧ (b = a ↔ alike)

namespace Follows

variable {α β γ : Type} {alike : Prop} {x x' : Except DocumentError α}

/-- What is written first, in both, does not count. -/
theorem after (first : Except DocumentError β) {next next' : β → Except DocumentError γ}
    (h : ∀ b, Follows alike (next b) (next' b)) :
    Follows alike (first >>= next) (first >>= next') := by
  intro c hc
  obtain ⟨b, hfirst, hc⟩ := bind_eq_ok hc
  obtain ⟨c', hc', hiff⟩ := h b c hc
  refine ⟨c', ?_, hiff⟩
  rw [hfirst]
  exact hc'

/-- Nor does what is written behind, in both, if the whole tells the parts apart. -/
theorem before (h : Follows alike x x') (second : Except DocumentError β) (join : α → β → γ)
    (hjoin : ∀ a a' b, join a' b = join a b ↔ a' = a) :
    Follows alike (x >>= fun a => second >>= fun b => .ok (join a b))
      (x' >>= fun a => second >>= fun b => .ok (join a b)) := by
  intro c hc
  obtain ⟨a, hx, hc⟩ := bind_eq_ok hc
  obtain ⟨b, hsecond, hc⟩ := bind_eq_ok hc
  cases hc
  obtain ⟨a', hx', hiff⟩ := h a hx
  refine ⟨join a' b, ?_, (hjoin a a' b).trans hiff⟩
  rw [hx', hsecond]
  rfl

theorem map (h : Follows alike x x') (write : α → γ)
    (hwrite : ∀ a a', write a' = write a ↔ a' = a) :
    Follows alike (x >>= fun a => .ok (write a)) (x' >>= fun a => .ok (write a)) :=
  h.before (.ok ()) (fun a _ => write a) fun a a' _ => hwrite a a'

end Follows

section

variable {settings : Settings} {path raw : String}

theorem operands_append_cons (before after : List Expr) (item : Expr) :
    operands settings (before ++ item :: after) =
      (operands settings before >>= fun bs => operand settings item >>= fun value =>
        operands settings after >>= fun as => .ok (bs ++ value :: as)) := by
  rw [operands_append, operands]
  simp only [bind_assoc]
  rfl

theorem follows_operand (hraw : Literal.unquote raw = path) {tree tree' : Expr}
    (h : Expr.OperandRespelled path raw tree tree') :
    Follows (SpelledAlike settings path) (operand settings tree) (operand settings tree') := by
  induction h with
  | field =>
      intro value hvalue
      cases hvalue
      refine ⟨_, rfl, ?_⟩
      rw [stringOperand, hraw, SpelledAlike]
      cases settings.caseSensitive <;> simp
  | @item before after item item' _ ih =>
      have hitems : Follows (SpelledAlike settings path)
          (operands settings (before ++ item :: after))
          (operands settings (before ++ item' :: after)) := by
        rw [operands_append_cons, operands_append_cons]
        exact .after _ fun bs =>
          ih.before _ (fun value as => bs ++ value :: as) fun value value' as => by simp
      rw [operand, operand]
      exact hitems.map Json.array fun values values' => by simp

/-- The documents of two comparisons differ where their operands do. -/
theorem follows_comparison (hraw : Literal.unquote raw = path) {op : Comparison}
    {left right right' : Expr} (h : Expr.OperandRespelled path raw right right')
    (hfits : op.fits right = true) {write : String → Json → Json}
    (hwrite : ∀ key value value', write key value' = write key value ↔ value' = value) :
    Follows (SpelledAlike settings path)
      (do
        let path ← leftPath op left
        let value ← comparand settings op (← operand settings right)
        return write path value)
      (do
        let path ← leftPath op left
        let value ← comparand settings op (← operand settings right')
        return write path value) := by
  have hcomparand (value : Json) : comparand settings op value = .ok value := by
    cases op <;> first | rfl | exact absurd rfl (h.ne_of_fits hfits).1
  simp only [hcomparand]
  exact Follows.after _ fun key => (follows_operand hraw h).map (write key) (hwrite key)

theorem pair_inj {key : String} {left left' right right' : Json} :
    pair key left' right' = pair key left right ↔ left' = left ∧ right' = right := by
  simp [pair, single]

theorem follows_pair_left {alike : Prop} {first first' : Except DocumentError Json}
    (h : Follows alike first first') (second : Except DocumentError Json) (key : String) :
    Follows alike
      (do
        let left ← first
        let right ← second
        return pair key left right)
      (do
        let left ← first'
        let right ← second
        return pair key left right) :=
  h.before second (pair key) fun left left' right => by simp [pair_inj]

theorem follows_pair_right {alike : Prop} {second second' : Except DocumentError Json}
    (first : Except DocumentError Json) (h : Follows alike second second') (key : String) :
    Follows alike
      (do
        let left ← first
        let right ← second
        return pair key left right)
      (do
        let left ← first
        let right ← second'
        return pair key left right) :=
  .after first fun left => h.map (pair key left) fun right right' => by simp [pair_inj]

theorem negatedComparison_inj {op : Comparison} (hlike : op ≠ .like) (hmatches : op ≠ .matches)
    (key : String) (value value' : Json) :
    negatedComparison op key value' = negatedComparison op key value ↔ value' = value := by
  cases op <;> first | exact absurd rfl hlike | exact absurd rfl hmatches | skip
  all_goals simp [negatedComparison, single]

/-- Negation is pushed down to the same comparison in both trees. -/
theorem follows_condition (hraw : Literal.unquote raw = path) {tree tree' : Expr}
    (h : Expr.Respelled path raw tree tree') (htree : tree.isCondition = true) :
    Follows (SpelledAlike settings path) (condition settings tree) (condition settings tree') ∧
      Follows (SpelledAlike settings path) (negation settings tree) (negation settings tree') := by
  induction h with
  | @right op left right right' h =>
      simp only [Expr.isCondition, Bool.and_eq_true] at htree
      have hfits := htree.2
      obtain ⟨hlike, hmatches⟩ := h.ne_of_fits hfits
      constructor
      · rw [condition, condition]
        exact follows_comparison hraw h hfits fun key value value' => by
          simp [comparison, single]
      · rw [negation, negation]
        exact follows_comparison hraw h hfits (negatedComparison_inj hlike hmatches)
  | @operand inner inner' _ ih =>
      -- the two statements change places
      rw [Expr.isCondition] at htree
      have hinner := ih htree
      constructor
      · rw [condition, condition]
        exact hinner.2
      · rw [negation, negation]
        exact hinner.1
  | @logicalLeft op left left' right _ ih =>
      simp only [Expr.isCondition, Bool.and_eq_true] at htree
      have hleft := ih htree.1
      constructor
      · rw [condition, condition]
        exact follows_pair_left hleft.1 _ _
      · cases op with
        | and =>
            rw [negation, negation]
            exact follows_pair_left hleft.2 _ _
        | or =>
            rw [negation, negation]
            exact follows_pair_left hleft.1 _ _
  | @logicalRight op left right right' _ ih =>
      simp only [Expr.isCondition, Bool.and_eq_true] at htree
      have hright := ih htree.2
      constructor
      · rw [condition, condition]
        exact follows_pair_right _ hright.1 _
      · cases op with
        | and =>
            rw [negation, negation]
            exact follows_pair_right _ hright.2 _
        | or =>
            rw [negation, negation]
            exact follows_pair_right _ hright.1 _

end

/--
Where a field reference stands on the right of a comparison, also in an array,
the string literal that spells its path gives the same document.  The documents
differ only where case does not count and lower-casing changes the path.
-/
theorem ofQuery_respelled {dialect : Dialect} {text path raw : String} {tree tree' : Expr}
    {settings : Settings} {doc : Json} (hparse : parse dialect text = .ok (some tree))
    (hraw : Literal.unquote raw = path) (h : Expr.Respelled path raw tree tree')
    (hdoc : ofQuery settings (some tree) = .ok doc) :
    ∃ doc', ofQuery settings (some tree') = .ok doc' ∧
      (doc' = doc ↔ settings.caseSensitive = true ∨ Text.toLower path = path) :=
  (follows_condition hraw h (isCondition_of_parse hparse)).1 doc hdoc

/-- In a nested array, a path with a capital is told from the string where case is ignored. -/
theorem ofQuery_respelled_of_nested_item :
    ∃ tree tree' doc doc', parse .extended "NOT (c OR a IN [NULL, [B]])" = .ok (some tree) ∧
      Literal.unquote "'B'" = "B" ∧ Expr.Respelled "B" "'B'" tree tree' ∧
      ofQuery ⟨false, ⟨0, 0, 0⟩⟩ (some tree) = .ok doc ∧
      ofQuery ⟨false, ⟨0, 0, 0⟩⟩ (some tree') = .ok doc' ∧ doc' ≠ doc := by
  have hparse : parse .extended "NOT (c OR a IN [NULL, [B]])" =
      .ok (some (.not (.logical .or (.field "c")
        (.comparison .within (.field "a") (.array [.null, .array [.field "B"]]))))) := by cbv
  have hraw : Literal.unquote "'B'" = "B" := by cbv
  have hinner : Expr.OperandRespelled "B" "'B'" (.array ([] ++ [.field "B"]))
      (.array ([] ++ [.string "'B'"])) := .item .field
  have hitem : Expr.OperandRespelled "B" "'B'" (.array ([.null] ++ [.array [.field "B"]]))
      (.array ([.null] ++ [.array [.string "'B'"]])) := .item hinner
  have h : Expr.Respelled "B" "'B'"
      (.not (.logical .or (.field "c")
        (.comparison .within (.field "a") (.array [.null, .array [.field "B"]]))))
      (.not (.logical .or (.field "c")
        (.comparison .within (.field "a") (.array [.null, .array [.string "'B'"]])))) :=
    .operand (.logicalRight (.right hitem))
  obtain ⟨doc', hdoc', hiff⟩ :=
    @ofQuery_respelled _ _ _ _ _ _ ⟨false, ⟨0, 0, 0⟩⟩ _ hparse hraw h rfl
  have hlower : ¬ ((false = true) ∨ Text.toLower "B" = "B") := by decide +kernel
  exact ⟨_, _, _, doc', hparse, hraw, h, rfl, hdoc', fun hsame => hlower (hiff.mp hsame)⟩

/-- A comparison of two fields has the document of a comparison with a string. -/
theorem ofQuery_field_as_string :
    ∃ tree tree' doc, parse .extended "a == b" = .ok (some tree) ∧
      parse .extended "a == 'b'" = .ok (some tree') ∧
      Expr.Respelled "b" "'b'" tree tree' ∧ Literal.unquote "'b'" = "b" ∧
      ofQuery ⟨true, ⟨0, 0, 0⟩⟩ (some tree) = .ok doc ∧
      ofQuery ⟨true, ⟨0, 0, 0⟩⟩ (some tree') = .ok doc := by
  have hparse : parse .extended "a == b" =
      .ok (some (.comparison .equal (.field "a") (.field "b"))) := by cbv
  have hparse' : parse .extended "a == 'b'" =
      .ok (some (.comparison .equal (.field "a") (.string "'b'"))) := by cbv
  have hraw : Literal.unquote "'b'" = "b" := by cbv
  have hdoc' : ofQuery ⟨true, ⟨0, 0, 0⟩⟩ (some (.comparison .equal (.field "a") (.string "'b'"))) =
      .ok (comparison .equal "a" (.string "b")) := by
    rw [← hraw]
    rfl
  exact ⟨_, _, _, hparse, hparse', .right .field, hraw, rfl, hdoc'⟩

end FilterDocument

end RecordQuery
