import RecordQuery.Proofs.Evaluation.IgnoringCase
import RecordQuery.Proofs.Evaluation.Steps
import RecordQuery.Proofs.Path.Walk
import RecordQuery.Proofs.Records.Filtering
import RecordQuery.Proofs.Value.Objects

/-! # Objects in evaluation

Objects have their keys in order when they are read, and paths, letter case and
arrays keep it.  So all values that evaluation compares have it, and comparing
objects entry by entry is the same as looking up the keys of one in the other.
-/

namespace RecordQuery

/-! ## Records that are read -/

theorem Value.ordered_ofJson {document : Json} (h : document.Readable) :
    (ofJson document).Ordered := by
  induction h with
  | null | boolean | float | string => exact .scalar rfl
  | integer =>
      rw [ofJson, ofInt]
      split <;> exact .scalar rfl
  | array _ ih =>
      rw [ofJson, ofJsonItems_eq_map]
      exact .array (List.forall_mem_map.mpr ih)
  | object hkeys _ ih =>
      rw [ofJson, ofJsonEntries_eq_map]
      exact .object (List.pairwise_map.mpr hkeys) (List.forall_mem_map.mpr ih)

theorem Records.ordered_of_ofText {text : String} {records : List Value}
    (h : ofText text = .ok records) : ∀ record ∈ records, record.Ordered := by
  obtain ⟨documents, hdocuments, rfl⟩ := ofText_eq_ok h
  rw [List.forall_mem_map]
  exact fun part hpart => Value.ordered_ofJson
    (readable_of_mem_parts (Json.readable_of_mem_documents hdocuments) part hpart)

/-! ## Values that paths lead to -/

namespace Path

theorem ordered_of_mem_entries {v w : Value} {segment : String} (hv : v.Ordered)
    (hw : w ∈ entries v segment) : w.Ordered := by
  have hentry (hentries : entries v segment = (v.field? segment).toList) : w.Ordered := by
    rw [hentries] at hw
    exact hv.field? (Option.mem_toList.mp hw)
  cases v with
  | array items =>
      cases hv with
      | scalar hshape => cases hshape
      | array hitems =>
          obtain ⟨item, hitem, hw⟩ := List.mem_filterMap.mp hw
          exact (hitems item hitem).field? hw
  | null | boolean | float | integer | string | timestamp | object | entity => exact hentry rfl

theorem ordered_of_mem_walk {v w : Value} {segments : List String} (hv : v.Ordered)
    (hw : w ∈ walk v segments) : w.Ordered := by
  induction segments generalizing v with
  | nil => cases hw
  | cons segment rest ih =>
      cases rest with
      | nil => exact ordered_of_mem_entries hv hw
      | cons next rest =>
          obtain ⟨reached, hreached, hw⟩ := List.mem_flatMap.mp hw
          exact ih (ordered_of_mem_entries hv (List.mem_filter.mp hreached).1) hw

end Path

theorem Value.Ordered.toLower {v : Value} (hv : v.Ordered) : v.toLower.Ordered := by
  induction hv with
  | @scalar v hshape => cases v <;> first | exact .scalar rfl | cases hshape
  | array _ ih =>
      rw [Value.toLower, toLowerItems_eq_map]
      exact .array (List.forall_mem_map.mpr ih)
  | object hkeys hentries => exact .object hkeys hentries
  | entity hattributes => exact .entity hattributes

/-! ## Values that trees stand for -/

def Term.Ordered : Term → Prop
  | .values vs => ∀ v ∈ vs, v.Ordered
  | .literal v => v.Ordered
  | .pattern _ | .truth _ => True

theorem Term.Ordered.toValues {t : Term} {op : Comparison} {vs : List Value} (ht : t.Ordered)
    (h : t.toValues op = .ok vs) : ∀ v ∈ vs, v.Ordered := by
  cases t with
  | values =>
      cases h
      exact ht
  | literal =>
      cases h
      exact List.forall_mem_singleton.mpr ht
  | pattern | truth => cases h

theorem Term.Ordered.toItems {t : Term} {vs : List Value} (ht : t.Ordered)
    (h : t.toItems = .ok vs) : ∀ v ∈ vs, v.Ordered := by
  cases t with
  | values =>
      cases h
      exact ht
  | literal =>
      cases h
      exact List.forall_mem_singleton.mpr ht
  | truth =>
      cases h
      exact List.forall_mem_singleton.mpr (.scalar rfl)
  | pattern => cases h

namespace Context

variable {ctx : Context}

theorem ordered_fold {v : Value} (hv : v.Ordered) : (ctx.fold v).Ordered := by
  rw [fold]
  split
  · exact hv
  · exact hv.toLower

theorem ordered_of_fieldValues {path : String} {vs : List Value} (hrecord : ctx.record.Ordered)
    (h : ctx.fieldValues path = .ok vs) : ∀ v ∈ vs, v.Ordered := by
  rw [fieldValues_eq_lookup] at h
  split at h
  · cases h
  · cases h
    rw [Path.lookup_eq_walk, List.forall_mem_map]
    exact fun v hv => ordered_fold (Path.ordered_of_mem_walk hrecord hv)

mutual

/-- For a record in order, trees stand for values in order. -/
theorem ordered_of_term {tree : Expr} {t : Term} (hrecord : ctx.record.Ordered)
    (h : ctx.term tree = .ok t) : t.Ordered := by
  match tree with
  | .number _ | .boolean _ | .null | .now =>
      cases h
      exact .scalar rfl
  | .string _ =>
      cases h
      exact ordered_fold (.scalar rfl)
  | .regexp _ =>
      rw [term_regexp] at h
      obtain ⟨regex, -, h⟩ := bind_eq_ok h
      cases h
      exact trivial
  | .array items =>
      rw [term_array] at h
      obtain ⟨vs, hvs, h⟩ := bind_eq_ok h
      cases h
      exact .array (ordered_of_itemValues hrecord hvs)
  | .field path =>
      rw [term_field] at h
      obtain ⟨vs, hvs, h⟩ := bind_eq_ok h
      cases h
      exact ordered_of_fieldValues hrecord hvs
  | .not _ =>
      obtain ⟨holds, rfl⟩ := truth_of_not h
      exact trivial
  | .comparison _ _ _ =>
      obtain ⟨holds, rfl⟩ := truth_of_comparison h
      exact trivial
  | .logical _ _ _ =>
      obtain ⟨holds, rfl⟩ := truth_of_logical h
      exact trivial

theorem ordered_of_itemValues {items : List Expr} {vs : List Value}
    (hrecord : ctx.record.Ordered) (h : ctx.itemValues items = .ok vs) :
    ∀ v ∈ vs, v.Ordered := by
  match items with
  | [] =>
      cases h
      exact List.forall_mem_nil _
  | item :: items =>
      rw [itemValues_cons] at h
      obtain ⟨first, hfirst, h⟩ := bind_eq_ok h
      obtain ⟨rest, hrest, h⟩ := bind_eq_ok h
      cases h
      obtain ⟨t, ht, hfirst⟩ := bind_eq_ok hfirst
      rw [List.forall_mem_append]
      exact ⟨(ordered_of_term hrecord ht).toItems hfirst, ordered_of_itemValues hrecord hrest⟩

end

end Context

/-! ## Comparisons by look-up -/

theorem any_congr_mem {α : Type} {p q : α → Bool} {as : List α} (h : ∀ a ∈ as, p a = q a) :
    as.any p = as.any q := by
  induction as with
  | nil => rfl
  | cons a as ih =>
      rw [List.forall_mem_cons] at h
      rw [List.any_cons, List.any_cons, h.1, ih h.2]

namespace Comparison

/-- Whether an operator holds between two values, objects being compared by look-up. -/
def holdsByKey (op : Comparison) (left right : Value) : Bool :=
  match op, left, right with
  | .equal, left, right => Value.byKey Value.looseEq left right
  | .notEqual, left, right => !Value.byKey Value.looseEq left right
  | .within, left, .array items => items.any (Value.byKey Value.looseEq · left)
  | .contains, .array items, right => items.any (Value.byKey Value.looseEq · right)
  | op, left, right => op.holds left right

theorem holdsByKey_eq (op : Comparison) {left right : Value} (hleft : left.Ordered)
    (hright : right.Ordered) : op.holdsByKey left right = op.holds left right := by
  have hsame {v w : Value} (hv : v.Ordered) (hw : w.Ordered) :
      Value.byKey Value.looseEq v w = v.looseEq w := Value.byKey_eq Value.partByPart_looseEq hv hw
  have hany {items : List Value} {v : Value} (hitems : ∀ item ∈ items, item.Ordered)
      (hv : v.Ordered) : items.any (Value.byKey Value.looseEq · v) = items.any (·.looseEq v) :=
    any_congr_mem fun item hitem => hsame (hitems item hitem) hv
  cases op with
  | equal => exact hsame hleft hright
  | notEqual => exact congrArg not (hsame hleft hright)
  | within =>
      cases hright with
      | scalar hshape => cases right <;> first | rfl | cases hshape
      | array hitems => exact hany hitems hleft
      | object | entity => rfl
  | contains =>
      cases hleft with
      | scalar hshape => cases left <;> first | rfl | cases hshape
      | array hitems => exact hany hitems hright
      | object | entity => rfl
  | less | lessEqual | greater | greaterEqual | like | «matches» => rfl

end Comparison

namespace Context

variable {ctx : Context}

/-- For a record in order, what is compared may as well be compared by look-up. -/
theorem evaluate_byKey {op : Comparison} (hmatches : op ≠ .matches) (hlike : op ≠ .like)
    (hrecord : ctx.record.Ordered) (left right : Expr) :
    ctx.evaluate (.comparison op left right) =
      ((ctx.term left >>= Term.toValues op) >>= fun ls =>
        (ctx.term right >>= Term.toValues op) >>= fun rs =>
          .ok (ls.any fun l => rs.any fun r => op.holdsByKey l r)) := by
  rw [evaluate_comparison hmatches hlike]
  refine bind_congr_ok fun ls hls => bind_congr_ok fun rs hrs => congrArg Except.ok ?_
  obtain ⟨l, hl, hls⟩ := bind_eq_ok hls
  obtain ⟨r, hr, hrs⟩ := bind_eq_ok hrs
  have hleft := (ordered_of_term hrecord hl).toValues hls
  have hright := (ordered_of_term hrecord hr).toValues hrs
  exact any_congr_mem fun v hv => any_congr_mem fun w hw =>
    (Comparison.holdsByKey_eq op (hleft v hv) (hright w hw)).symm

end Context

end RecordQuery
