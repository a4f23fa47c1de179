import RecordQuery.Proofs.Json.Entries
import RecordQuery.Value.Comparison

/-! # Objects by look-up

Comparing two objects entry by entry is the same as looking up each key of one in
the other, once both have equally many entries.  That takes entries in ascending
order of their keys, which every object has that is made of sorted entries, and
which its parts inherit.
-/

namespace RecordQuery

namespace Value

/-! ## Order inside values -/

/-- In every object of the value the keys ascend, also in those that its entities hold. -/
inductive Ordered : Value → Prop
  | scalar {v : Value} (h : v.shape = .scalar) : Ordered v
  | array {items : List Value} (h : ∀ item ∈ items, Ordered item) : Ordered (.array items)
  | object {entries : List (String × Value)} (hkeys : Ascending entries)
      (h : ∀ entry ∈ entries, Ordered entry.2) : Ordered (.object entries)
  | entity {identity : Nat} {listed : Bool} {attributes : List (String × Value)}
      (h : ∀ entry ∈ attributes, Ordered entry.2) :
      Ordered (.entity identity listed attributes)

theorem ordered_ofEntries {entries : List (String × Value)}
    (h : ∀ entry ∈ entries, entry.2.Ordered) : (ofEntries entries).Ordered :=
  .object (ascending_sortEntries entries) fun entry hentry => h entry (mem_sortEntries hentry)

theorem Ordered.field? {v w : Value} {key : String} (hv : v.Ordered)
    (h : v.field? key = some w) : w.Ordered := by
  cases hv with
  | scalar hshape => cases v <;> first | cases h | cases hshape
  | array => cases h
  | object _ hparts | entity hparts => exact hparts _ (mem_of_lookupEntry h)

/-! ## Sameness of objects -/

/-- Containers are the same if their parts are, one by one. -/
structure PartByPart (same : Value → Value → Bool) : Prop where
  array (as bs : List Value) :
    same (.array as) (.array bs) = true ↔ List.Forall₂ (fun v w => same v w = true) as bs
  object (as bs : List (String × Value)) :
    same (.object as) (.object bs) = true ↔
      List.Forall₂ (fun e f => e.1 = f.1 ∧ same e.2 f.2 = true) as bs

/-- A function that compares two lists item by item and fails where one is longer. -/
theorem forall₂_iff_of_cons {α : Type} {r : α → α → Prop} {f : List α → List α → Bool}
    (hnil : f [] [] = true) (hleft : ∀ a as, f (a :: as) [] = false)
    (hright : ∀ b bs, f [] (b :: bs) = false)
    (hcons : ∀ a as b bs, f (a :: as) (b :: bs) = true ↔ r a b ∧ f as bs = true)
    (as bs : List α) : f as bs = true ↔ List.Forall₂ r as bs := by
  induction as generalizing bs with
  | nil => cases bs <;> simp [hnil, hright]
  | cons a as ih =>
      cases bs with
      | nil => simp [hleft]
      | cons b bs => rw [hcons, ih, List.forall₂_cons]

theorem partByPart_looseEq : PartByPart looseEq where
  array := forall₂_iff_of_cons (f := looseEqItems) rfl (fun _ _ => rfl) (fun _ _ => rfl)
    fun _ _ _ _ => by simp [looseEqItems]
  object := forall₂_iff_of_cons (f := looseEqEntries) rfl (fun _ _ => rfl) (fun _ _ => rfl)
    fun _ _ _ _ => by simp [looseEqEntries]

theorem partByPart_beq : PartByPart beq where
  array := forall₂_iff_of_cons (f := beqItems) rfl (fun _ _ => rfl) (fun _ _ => rfl)
    fun _ _ _ _ => by simp [beqItems]
  object := forall₂_iff_of_cons (f := beqEntries) rfl (fun _ _ => rfl) (fun _ _ => rfl)
    fun _ _ _ _ => by simp [beqEntries]

section

variable {same : Value → Value → Bool} {as bs : List (String × Value)}

theorem PartByPart.object_iff (hsame : PartByPart same) (has : Ascending as)
    (hbs : Ascending bs) :
    same (.object as) (.object bs) = true ↔
      as.length = bs.length ∧
        ∀ e ∈ as, ∃ v, (Value.object bs).field? e.1 = some v ∧ same e.2 v = true :=
  (hsame.object as bs).trans (has.forall₂_iff (r := fun v w => same v w = true) hbs)

/-- Objects are loosely equal if they are of one size and the second has what the first has. -/
theorem looseEq_object_iff (has : Ascending as) (hbs : Ascending bs) :
    looseEq (.object as) (.object bs) = true ↔
      as.length = bs.length ∧
        ∀ e ∈ as, ∃ v, (object bs).field? e.1 = some v ∧ looseEq e.2 v = true :=
  partByPart_looseEq.object_iff has hbs

/-- Objects are equal if they are of one size and the second has what the first has. -/
theorem beq_object_iff (has : Ascending as) (hbs : Ascending bs) :
    (object as == object bs) = true ↔
      as.length = bs.length ∧
        ∀ e ∈ as, ∃ v, (object bs).field? e.1 = some v ∧ (e.2 == v) = true :=
  partByPart_beq.object_iff has hbs

end

mutual

/--
A notion of sameness with look-ups at every depth: objects are of one size, and each
key of the first is looked up in the second.
-/
def byKey (same : Value → Value → Bool) : Value → Value → Bool
  | .array as, .array bs => byKeyItems same as bs
  | .object as, .object bs => as.length == bs.length && byKeyEntries same as bs
  | a, b => same a b

def byKeyItems (same : Value → Value → Bool) : List Value → List Value → Bool
  | [], [] => true
  | a :: as, b :: bs => byKey same a b && byKeyItems same as bs
  | _, _ => false

def byKeyEntries (same : Value → Value → Bool) :
    List (String × Value) → List (String × Value) → Bool
  | [], _ => true
  | (key, a) :: as, bs =>
      (match lookupEntry key bs with
        | some b => byKey same a b
        | none => false) && byKeyEntries same as bs

end

section

variable {same : Value → Value → Bool}

theorem byKeyItems_iff (as bs : List Value) :
    byKeyItems same as bs = true ↔ List.Forall₂ (fun v w => byKey same v w = true) as bs :=
  forall₂_iff_of_cons rfl (fun _ _ => rfl) (fun _ _ => rfl)
    (fun _ _ _ _ => by simp [byKeyItems]) as bs

theorem byKeyEntries_iff (as bs : List (String × Value)) :
    byKeyEntries same as bs = true ↔
      ∀ e ∈ as, ∃ v, (object bs).field? e.1 = some v ∧ byKey same e.2 v = true := by
  induction as with
  | nil => simp [byKeyEntries]
  | cons e as ih =>
      rw [byKeyEntries, Bool.and_eq_true, ih, List.forall_mem_cons, field?]
      cases lookupEntry e.1 bs <;> simp

/-- With keys in order it makes no difference whether entries are compared or looked up. -/
theorem byKey_eq (hsame : PartByPart same) {a b : Value} (ha : a.Ordered) (hb : b.Ordered) :
    byKey same a b = same a b := by
  -- only two arrays or two objects are compared in another way than by `same`
  induction ha generalizing b with
  | @scalar a hshape => cases a <;> first | rfl | cases hshape
  | array _ ih =>
      cases hb with
      | scalar hshape => cases b <;> first | rfl | cases hshape
      | array hitems =>
          rw [byKey, Bool.eq_iff_iff, byKeyItems_iff, hsame.array]
          simp only [List.forall₂_iff_get, List.get_eq_getElem]
          refine and_congr_right fun _ => forall₃_congr fun i hi hi' => ?_
          rw [ih _ (List.getElem_mem hi) (hitems _ (List.getElem_mem hi'))]
      | object | entity => rfl
  | object hkeys _ ih =>
      cases hb with
      | scalar hshape => cases b <;> first | rfl | cases hshape
      | object hkeys' hentries =>
          rw [byKey, Bool.eq_iff_iff, Bool.and_eq_true, beq_iff_eq, byKeyEntries_iff,
            hsame.object_iff hkeys hkeys']
          refine and_congr_right fun _ => forall₂_congr fun e he => exists_congr fun v =>
            and_congr_right fun hv => ?_
          rw [ih e he (hentries _ (mem_of_lookupEntry hv))]
      | array | entity => rfl
  | entity => rfl

end

end Value

end RecordQuery
