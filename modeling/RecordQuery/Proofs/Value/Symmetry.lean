import RecordQuery.Proofs.Value.Objects

/-! # Comparison from the other side

Exchanging two values reverses their order and keeps their loose equality,
whatever kinds of values they are.
-/

namespace RecordQuery

theorem map_swap_map_swap (o : Option Ordering) :
    (o.map Ordering.swap).map Ordering.swap = o := by
  rw [Option.map_map]
  cases o with
  | none => rfl
  | some o => exact congrArg some Ordering.swap_swap

theorem map_swap_beq (o : Option Ordering) (p : Ordering) :
    (o.map Ordering.swap == some p) = (o == some p.swap) := by
  rcases o with _ | _ | _ | _ <;> cases p <;> rfl

theorem Binary64.compare?_swap (x y : Binary64) :
    y.compare? x = (x.compare? y).map Ordering.swap := by
  rw [Binary64.compare?, Binary64.compare?]
  cases x.position with
  | «at» m =>
      cases y.position with
      | «at» n => exact congrArg some (Int.compare_swap m n).symm
      | _ => rfl
  | _ => cases y.position <;> rfl

theorem Timestamp.order_swap (t u : Timestamp) : u.order t = (t.order u).swap :=
  (Int.compare_swap t.instant u.instant).symm

namespace Value

mutual

/-- The order of two values the other way round is the reverse, or there is none. -/
theorem compare?_swap (a b : Value) : compare? b a = (compare? a b).map Ordering.swap := by
  match a with
  | .integer m =>
      cases b with
      | integer n => exact congrArg some (Int.compare_swap m.toInt n.toInt).symm
      | _ => rfl
  | .float x =>
      cases b with
      | integer n => exact (map_swap_map_swap (Binary64.compareInt? n.toInt x)).symm
      | float y => exact x.compare?_swap y
      | _ => rfl
  | .string text =>
      cases b with
      | string other => exact congrArg some Std.OrientedOrd.eq_swap
      | timestamp t =>
          simp only [compare?, Option.map_map]
          exact congrArg (Option.map · _) (funext fun u => u.order_swap t)
      | _ => rfl
  | .boolean p =>
      cases b with
      | boolean q => exact congrArg some Std.OrientedOrd.eq_swap
      | _ => rfl
  | .timestamp t =>
      cases b with
      | timestamp u => exact congrArg some (t.order_swap u)
      | string text =>
          simp only [compare?, Option.map_map]
          exact congrArg (Option.map · _) (funext fun u => t.order_swap u)
      | _ => rfl
  | .array items =>
      cases b with
      | array others => exact compareItems?_swap items others
      | _ => rfl
  | .null | .object _ | .entity .. => cases b <;> rfl

theorem compareItems?_swap (as bs : List Value) :
    compareItems? bs as = (compareItems? as bs).map Ordering.swap := by
  match as, bs with
  | [], [] | [], _ :: _ | _ :: _, [] => rfl
  | a :: as, b :: bs =>
      rw [compareItems?, compareItems?, compare?_swap a b]
      -- only equal items hand the question on to the rest
      rcases compare? a b with _ | _ | _ | _
      · rfl
      · rfl
      · exact compareItems?_swap as bs
      · rfl

end

mutual

theorem looseEq_comm (a b : Value) : looseEq a b = looseEq b a := by
  have hcompare : (compare? a b == some .eq) = (compare? b a == some .eq) := by
    rw [compare?_swap a b, map_swap_beq]
    rfl
  match a with
  | .null => cases b <;> rfl
  | .boolean p =>
      cases b with
      | boolean q => exact Bool.beq_comm
      | _ => exact hcompare
  | .string text =>
      cases b with
      | string other => exact BEq.comm
      | _ => exact hcompare
  | .array items =>
      cases b with
      | array others => exact looseEqItems_comm items others
      | _ => exact hcompare
  | .object entries =>
      cases b with
      | object others => exact looseEqEntries_comm entries others
      | _ => exact hcompare
  | .entity identity _ _ =>
      cases b with
      | entity other _ _ => exact BEq.comm
      | _ => exact hcompare
  | .integer _ | .float _ | .timestamp _ => cases b <;> exact hcompare

theorem looseEqItems_comm (as bs : List Value) : looseEqItems as bs = looseEqItems bs as := by
  match as, bs with
  | [], [] | [], _ :: _ | _ :: _, [] => rfl
  | a :: as, b :: bs =>
      rw [looseEqItems, looseEqItems, looseEq_comm a b, looseEqItems_comm as bs]

theorem looseEqEntries_comm (as bs : List (String × Value)) :
    looseEqEntries as bs = looseEqEntries bs as := by
  match as, bs with
  | [], [] | [], _ :: _ | _ :: _, [] => rfl
  | (k, a) :: as, (l, b) :: bs =>
      have hkeys : (k == l) = (l == k) := BEq.comm
      rw [looseEqEntries, looseEqEntries, hkeys, looseEq_comm a b, looseEqEntries_comm as bs]

end

/--
Whichever of two values comes first: their order is reversed, or there is none
either way, and their loose equality is the same.
-/
theorem comparison_symmetric (a b : Value) :
    compare? b a = (compare? a b).map Ordering.swap ∧ looseEq a b = looseEq b a :=
  ⟨compare?_swap a b, looseEq_comm a b⟩

/-- It makes no difference which of two objects is searched for the keys of the other. -/
theorem byKey_looseEq_comm {a b : Value} (ha : a.Ordered) (hb : b.Ordered) :
    byKey looseEq a b = byKey looseEq b a := by
  rw [byKey_eq partByPart_looseEq ha hb, byKey_eq partByPart_looseEq hb ha, looseEq_comm]

end Value

end RecordQuery
