import RecordQuery.Proofs.Value.Objects

/-! # Notions of sameness

Values that compare at all are loosely equal exactly if they compare as equal.
Equality of kind and value implies loose equality, and a value is loosely equal
to itself unless a NaN stands in it.
-/

namespace RecordQuery

namespace Binary64

/-- Every number but a NaN has a place on the line, and equals itself. -/
theorem compare?_self {x : Binary64} (hx : x.isNaN = false) : x.compare? x = some .eq := by
  have hposition : x.position ≠ .nowhere := by
    rw [position]
    split_ifs <;> simp_all
  rw [compare?]
  cases hcase : x.position with
  | «at» m => exact congrArg some (compare_eq_iff_eq.mpr rfl)
  | nowhere => exact absurd hcase hposition
  | below | above => rfl

end Binary64

namespace Value

/-! ## Loose equality and order -/

theorem compare_beq_eq {α : Type} [Ord α] [BEq α] [LawfulBEq α] [Std.LawfulEqOrd α] (a b : α) :
    (compare a b == .eq) = (a == b) := by
  rw [Bool.eq_iff_iff, beq_iff_eq, beq_iff_eq, Std.compare_eq_iff_eq]

mutual

/-- Where two values have an order, loose equality says whether it is equality. -/
theorem looseEq_of_compare? {a b : Value} {o : Ordering} (h : compare? a b = some o) :
    looseEq a b = (o == .eq) := by
  match a with
  | .integer _ | .float _ | .timestamp _ =>
      cases b <;> exact congrArg (· == some Ordering.eq) h
  | .string text =>
      cases b with
      | string other =>
          obtain rfl : compare text other = o := Option.some_inj.mp h
          exact (compare_beq_eq text other).symm
      | _ => exact congrArg (· == some Ordering.eq) h
  | .boolean p =>
      cases b with
      | boolean q =>
          obtain rfl : compare p q = o := Option.some_inj.mp h
          exact (compare_beq_eq p q).symm
      | _ => cases h
  | .array items =>
      cases b with
      | array others => exact looseEqItems_of_compareItems? h
      | _ => cases h
  | .null | .object _ | .entity .. => cases b <;> cases h

theorem looseEqItems_of_compareItems? {as bs : List Value} {o : Ordering}
    (h : compareItems? as bs = some o) : looseEqItems as bs = (o == .eq) := by
  match as, bs with
  | [], [] | [], _ :: _ | _ :: _, [] =>
      cases h
      rfl
  | a :: as, b :: bs =>
      rw [compareItems?] at h
      rw [looseEqItems]
      rcases hfirst : compare? a b with _ | _ | _ | _
      · rw [hfirst] at h
        cases h
      · rw [hfirst] at h
        cases h
        rw [looseEq_of_compare? hfirst]
        rfl
      · rw [hfirst] at h
        rw [looseEq_of_compare? hfirst, looseEqItems_of_compareItems? h]
        rfl
      · rw [hfirst] at h
        cases h
        rw [looseEq_of_compare? hfirst]
        rfl

end

/-! ## Equality of kind and value -/

mutual

/-- Values of one kind that are equal are loosely equal. -/
theorem looseEq_of_beq {a b : Value} (h : beq a b = true) : looseEq a b = true := by
  match a with
  | .integer m =>
      cases b with
      | integer n =>
          obtain rfl : m = n := beq_iff_eq.mp h
          exact beq_iff_eq.mpr (congrArg some (compare_eq_iff_eq.mpr rfl))
      | _ => cases h
  | .array items =>
      cases b with
      | array others => exact looseEqItems_of_beqItems h
      | _ => cases h
  | .object entries =>
      cases b with
      | object others => exact looseEqEntries_of_beqEntries h
      | _ => cases h
  | .timestamp t =>
      cases b with
      | timestamp u => exact beq_iff_eq.mpr (congrArg some (beq_iff_eq.mp h))
      | _ => cases h
  | .null | .boolean _ | .float _ | .string _ | .entity .. =>
      cases b <;> first | exact h | cases h

theorem looseEqItems_of_beqItems {as bs : List Value} (h : beqItems as bs = true) :
    looseEqItems as bs = true := by
  match as, bs with
  | [], [] => rfl
  | [], _ :: _ | _ :: _, [] => cases h
  | a :: as, b :: bs =>
      rw [beqItems, Bool.and_eq_true] at h
      rw [looseEqItems, looseEq_of_beq h.1, looseEqItems_of_beqItems h.2]
      rfl

theorem looseEqEntries_of_beqEntries {as bs : List (String × Value)}
    (h : beqEntries as bs = true) : looseEqEntries as bs = true := by
  match as, bs with
  | [], [] => rfl
  | [], _ :: _ | _ :: _, [] => cases h
  | (k, a) :: as, (l, b) :: bs =>
      rw [beqEntries, Bool.and_eq_true, Bool.and_eq_true] at h
      rw [looseEqEntries, h.1.1, looseEq_of_beq h.1.2, looseEqEntries_of_beqEntries h.2]
      rfl

end

/-! ## Values that equal themselves -/

mutual

/-- Whether a NaN stands in a value; an entity equals itself whatever its attributes are. -/
def hasNaN : Value → Bool
  | .float x => x.isNaN
  | .array items => hasNaNItems items
  | .object entries => hasNaNEntries entries
  | _ => false

def hasNaNItems : List Value → Bool
  | [] => false
  | v :: vs => hasNaN v || hasNaNItems vs

def hasNaNEntries : List (String × Value) → Bool
  | [] => false
  | (_, v) :: entries => hasNaN v || hasNaNEntries entries

end

mutual

/-- A value without NaN is loosely equal to itself. -/
theorem looseEq_self {a : Value} (h : a.hasNaN = false) : looseEq a a = true := by
  match a with
  | .null => rfl
  | .boolean _ | .string _ | .entity .. => exact beq_self_eq_true _
  | .integer _ | .timestamp _ =>
      exact beq_iff_eq.mpr (congrArg some (compare_eq_iff_eq.mpr rfl))
  | .float _ => exact beq_iff_eq.mpr (Binary64.compare?_self h)
  | .array items => exact looseEqItems_self h
  | .object entries => exact looseEqEntries_self h

theorem looseEqItems_self {items : List Value} (h : hasNaNItems items = false) :
    looseEqItems items items = true := by
  match items with
  | [] => rfl
  | v :: vs =>
      rw [hasNaNItems, Bool.or_eq_false_iff] at h
      rw [looseEqItems, looseEq_self h.1, looseEqItems_self h.2]
      rfl

theorem looseEqEntries_self {entries : List (String × Value)}
    (h : hasNaNEntries entries = false) : looseEqEntries entries entries = true := by
  match entries with
  | [] => rfl
  | (k, v) :: entries =>
      rw [hasNaNEntries, Bool.or_eq_false_iff] at h
      rw [looseEqEntries, beq_self_eq_true, looseEq_self h.1, looseEqEntries_self h.2]
      rfl

end

/--
The notions of sameness agree: where two values compare, they are loosely equal
exactly if they compare as equal; equal values of one kind are loosely equal;
and a value without NaN is loosely equal to itself.
-/
theorem sameness_coherent (a b : Value) :
    (∀ o, compare? a b = some o → (looseEq a b = true ↔ o = .eq)) ∧
      ((a == b) = true → looseEq a b = true) ∧
        (a.hasNaN = false → looseEq a a = true) :=
  ⟨fun _ h => by rw [looseEq_of_compare? h, beq_iff_eq], looseEq_of_beq, looseEq_self⟩

/-- A number next to one and a half, which stands with a text in an array of its own. -/
def nextToOneAndHalf (number : Value) : Value :=
  .array [number, .array [.float ⟨0x3FF8000000000000⟩, .string "x"]]

/-- One as an integer is one as a float; an object of such arrays equals a copy, and itself. -/
theorem sameness_coherent_of_ones :
    compare? (nextToOneAndHalf (.integer 1)) (nextToOneAndHalf (.float ⟨0x3FF0000000000000⟩)) =
        some .eq ∧
      looseEq (nextToOneAndHalf (.integer 1)) (nextToOneAndHalf (.float ⟨0x3FF0000000000000⟩)) =
        true ∧
      looseEq (.object [("k", nextToOneAndHalf .null)]) (.object [("k", nextToOneAndHalf .null)]) =
        true ∧
      looseEq (nextToOneAndHalf (.entity 0 true [])) (nextToOneAndHalf (.entity 0 true [])) =
        true := by
  have hcompare : compare? (nextToOneAndHalf (.integer 1))
      (nextToOneAndHalf (.float ⟨0x3FF0000000000000⟩)) = some .eq := by decide +kernel
  exact ⟨hcompare, ((sameness_coherent _ _).1 _ hcompare).mpr rfl,
    (sameness_coherent _ _).2.1 (by decide +kernel),
    (sameness_coherent _ .null).2.2 (by decide +kernel)⟩

/-- The notions of sameness agree also where the entries of objects are looked up. -/
theorem byKey_coherent {a b : Value} (ha : a.Ordered) (hb : b.Ordered) :
    (∀ o, compare? a b = some o → (byKey looseEq a b = true ↔ o = .eq)) ∧
      (byKey beq a b = true → byKey looseEq a b = true) ∧
        (a.hasNaN = false → byKey looseEq a a = true) := by
  rw [byKey_eq partByPart_looseEq ha hb, byKey_eq partByPart_looseEq ha ha,
    byKey_eq partByPart_beq ha hb]
  exact ⟨fun _ h => by rw [looseEq_of_compare? h, beq_iff_eq], looseEq_of_beq, looseEq_self⟩

end Value

end RecordQuery
