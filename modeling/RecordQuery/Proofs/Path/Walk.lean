import Mathlib
import RecordQuery.Evaluation

/-! # Field paths as walks

A path is cut at every occurrence of its separator that is found from left to
right, and the segments are walked by recursion on their list.  The work list
finds the values of the walk, in the order of the document and as often as the
walk comes to them: every step replaces a pending value by smaller ones, so its
fuel is never used up.
-/

namespace RecordQuery

/-! ## Sizes of values -/

namespace Value

theorem size_le_of_lookupEntry {key : String} {entries : List (String × Value)} {v : Value}
    (h : lookupEntry key entries = some v) : v.size ≤ sizeEntries entries := by
  induction entries with
  | nil => cases h
  | cons entry entries ih =>
      obtain ⟨k, w⟩ := entry
      rw [lookupEntry] at h
      rw [sizeEntries]
      split at h
      · cases h
        exact Nat.le_add_right _ _
      · exact Nat.le_trans (ih h) (Nat.le_add_left _ _)

/-- The entry of a map is smaller than the map. -/
theorem size_lt_of_field? {key : String} {v w : Value} (h : v.field? key = some w) :
    w.size < v.size := by
  cases v with
  | object entries | entity _ _ entries =>
      have hle : w.size ≤ sizeEntries entries := size_le_of_lookupEntry h
      rw [size]
      omega
  | null | boolean | float | integer | string | timestamp | array => cases h

end Value

namespace Path

/-! ## Walks -/

/--
The values that one segment leads to: the entry of a map or an entity, or the
entries of the maps and entities in an array.
-/
def entries (v : Value) (segment : String) : List Value :=
  match v with
  | .array items => items.filterMap (·.field? segment)
  | v => (v.field? segment).toList

/-- The values at the end of a walk, which goes on in containers only. -/
def walk (v : Value) : List String → List Value
  | [] => []
  | [segment] => entries v segment
  | segment :: next :: rest =>
      ((entries v segment).filter (·.shape ≠ .scalar)).flatMap (walk · (next :: rest))

theorem valueAt?_eq_field? (key : String) (v : Value) : valueAt? key v = v.field? key := by
  cases v <;> rfl

theorem step_eq_entries (v : Value) (segment : String) : step v segment = entries v segment := by
  have hvalueAt : valueAt? segment = (·.field? segment) := funext (valueAt?_eq_field? segment)
  cases v <;> simp only [step, entries, hvalueAt]

theorem goesOn_eq (v : Value) : goesOn v = decide (v.shape ≠ .scalar) := by
  rw [goesOn, decide_not]
  rfl

theorem sum_size_filterMap_le (segment : String) (items : List Value) :
    ((items.filterMap (·.field? segment)).map Value.size).sum ≤ Value.sizeItems items := by
  induction items with
  | nil => simp
  | cons item items ih =>
      rw [Value.sizeItems]
      cases hfield : item.field? segment with
      | none =>
          have hskip : (item :: items).filterMap (·.field? segment) =
              items.filterMap (·.field? segment) := List.filterMap_cons_none hfield
          rw [hskip]
          omega
      | some v =>
          have hlt := Value.size_lt_of_field? hfield
          have hkeep : (item :: items).filterMap (·.field? segment) =
              v :: items.filterMap (·.field? segment) := List.filterMap_cons_some hfield
          rw [hkeep, List.map_cons, List.sum_cons]
          omega

/-- What a segment leads to is smaller, taken together, than the value it starts from. -/
theorem sum_size_entries_lt (v : Value) (segment : String) :
    ((entries v segment).map Value.size).sum < v.size := by
  have hsingle (hentries : entries v segment = (v.field? segment).toList) (hpos : 0 < v.size) :
      ((entries v segment).map Value.size).sum < v.size := by
    rw [hentries]
    cases hfield : v.field? segment with
    | none => simpa using hpos
    | some w => simpa using Value.size_lt_of_field? hfield
  cases v with
  | array items =>
      rw [Value.size]
      exact Nat.lt_succ_of_le (sum_size_filterMap_le segment items)
  | object | entity => exact hsingle rfl (by rw [Value.size]; omega)
  | null | boolean | float | integer | string | timestamp => exact hsingle rfl Nat.one_pos

theorem sum_size_filter_le (p : Value → Bool) (vs : List Value) :
    ((vs.filter p).map Value.size).sum ≤ (vs.map Value.size).sum :=
  (List.filter_sublist.map Value.size).sum_le_sum fun _ _ => Nat.zero_le _

/-- With fuel for the size of the pending values, these are walked one behind the other. -/
theorem follow_eq_flatMap_walk {fuel : Nat} {pending : List Pending}
    (h : (pending.map (·.value.size)).sum < fuel) :
    follow fuel pending = pending.flatMap fun p => walk p.value (p.segment :: p.rest) := by
  induction fuel generalizing pending with
  | zero => cases h
  | succ fuel ih =>
      cases pending with
      | nil => rfl
      | cons p pending =>
          obtain ⟨v, segment, rest⟩ := p
          have hlt := sum_size_entries_lt v segment
          rw [List.map_cons, List.sum_cons] at h
          dsimp only at h
          rw [follow, step_eq_entries, List.flatMap_cons]
          cases rest with
          | nil =>
              have hpending : (pending.map (·.value.size)).sum < fuel := by omega
              dsimp only
              rw [ih hpending, walk]
          | cons next rest =>
              have hchildren := sum_size_filter_le goesOn (entries v segment)
              -- the values that take the place of `v` are smaller, taken together
              have hpending : (((entries v segment).filter goesOn).map
                  (fun c => (⟨c, next, rest⟩ : Pending)) ++ pending |>.map
                    (·.value.size)).sum < fuel := by
                simp only [List.map_append, List.map_map, List.sum_append]
                have hsizes : ((fun p : Pending => p.value.size) ∘
                    fun c => (⟨c, next, rest⟩ : Pending)) = Value.size := rfl
                rw [hsizes]
                omega
              dsimp only
              have hgoesOn : goesOn = fun c => decide (c.shape ≠ .scalar) := funext goesOn_eq
              rw [ih hpending, List.flatMap_append, List.flatMap_map, walk, hgoesOn]

/-- The values that a path leads to are those of the walk along its segments. -/
theorem lookup_eq_walk (options : PathOptions) (record : Value) (path : String) :
    lookup options record path =
      walk record ((segments options path).1 :: (segments options path).2) := by
  rw [lookup]
  dsimp only
  rw [follow_eq_flatMap_walk (by simp), List.flatMap_singleton]

/-! ## Segments -/

/--
The pieces of a text between the occurrences of a separator.  A cut is made at
the first occurrence, and the text behind it is cut in the same way.
-/
inductive Splits (separator : List Char) : List Char → List (List Char) → Prop
  | whole {text : List Char} (habsent : ¬ separator <:+: text) : Splits separator text [text]
  | cut {piece rest : List Char} {pieces : List (List Char)}
      (hfirst : ∀ before after, piece ++ (separator ++ rest) = before ++ (separator ++ after) →
        piece.length ≤ before.length)
      (hrest : Splits separator rest pieces) :
      Splits separator (piece ++ (separator ++ rest)) (piece :: pieces)

namespace Splits

variable {separator text : List Char} {pieces pieces' : List (List Char)}

/-- A text is cut in one way only. -/
theorem unique (h : Splits separator text pieces) (h' : Splits separator text pieces') :
    pieces = pieces' := by
  induction h generalizing pieces' with
  | whole habsent =>
      cases h' with
      | whole => rfl
      | cut => exact absurd ⟨_, _, List.append_assoc _ _ _⟩ habsent
  | @cut piece rest pieces hfirst hrest ih =>
      generalize htext : piece ++ (separator ++ rest) = text at h'
      cases h' with
      | whole habsent => exact absurd ⟨_, _, (List.append_assoc _ _ _).trans htext⟩ habsent
      | @cut piece' rest' pieces' hfirst' hrest' =>
          have hlength : piece.length = piece'.length :=
            Nat.le_antisymm (hfirst _ _ htext) (hfirst' _ _ htext.symm)
          obtain ⟨rfl, hbehind⟩ := List.append_inj htext hlength
          cases List.append_cancel_left hbehind
          rw [ih hrest']

/-- A character in front at which no separator starts belongs to the first piece. -/
theorem cons {c : Char} {piece : List Char} (h : Splits separator text (piece :: pieces))
    (hc : ¬ separator <+: c :: text) : Splits separator (c :: text) ((c :: piece) :: pieces) := by
  cases h with
  | whole habsent =>
      refine .whole fun hinfix => ?_
      rcases List.infix_cons_iff.mp hinfix with hprefix | hinfix
      · exact hc hprefix
      · exact habsent hinfix
  | cut hfirst hrest =>
      rw [← List.cons_append]
      refine .cut (fun before after heq => ?_) hrest
      cases before with
      | nil => exact absurd ⟨after, heq.symm⟩ hc
      | cons b before => exact Nat.succ_le_succ (hfirst before after (List.cons.inj heq).2)

end Splits

theorem splitFrom_eq_drop (separator : List Char) (skip : Nat) (cs : List Char) :
    splitFrom separator skip cs = splitFrom separator 0 (cs.drop skip) := by
  induction cs generalizing skip with
  | nil => simp [splitFrom]
  | cons c cs ih =>
      cases skip with
      | zero => rfl
      | succ skip => rw [splitFrom, ih, List.drop_succ_cons]

theorem splits_splitFrom {separator : List Char} (hseparator : separator ≠ []) (cs : List Char) :
    Splits separator cs
      ((splitFrom separator 0 cs).1 :: (splitFrom separator 0 cs).2) := by
  induction hlength : cs.length using Nat.strongRecOn generalizing cs with
  | ind n ih =>
      cases cs with
      | nil => exact .whole fun h => hseparator (List.infix_nil.mp h)
      | cons c cs =>
          rw [List.length_cons] at hlength
          rw [splitFrom]
          by_cases hc : separator.isPrefixOf (c :: cs) = true
          · obtain ⟨rest, hrest⟩ := List.isPrefixOf_iff_prefix.mp hc
            have hpos := List.length_pos_iff.mpr hseparator
            have hlengths := congrArg List.length hrest
            rw [List.length_append, List.length_cons] at hlengths
            have hdrop : cs.drop (separator.length - 1) = rest := by
              rw [← List.drop_succ_cons (a := c), Nat.sub_add_cancel hpos, ← hrest, List.drop_left]
            have hsplits := ih rest.length (by omega) rest rfl
            rw [if_pos hc, splitFrom_eq_drop, hdrop, ← hrest]
            exact @Splits.cut separator [] rest _ (fun _ _ _ => Nat.zero_le _) hsplits
          · rw [if_neg hc]
            exact (ih cs.length (by omega) cs rfl).cons
              fun hprefix => hc (List.isPrefixOf_iff_prefix.mpr hprefix)

/-- The segments that a path is cut into, or the whole path where it is not cut. -/
def IsSegments (options : PathOptions) (path : String) (segments : List String) : Prop :=
  if options.nested ∧ options.separator ≠ "" then
    Splits options.separator.toList path.toList (segments.map String.toList)
  else segments = [path]

theorem isSegments_iff (options : PathOptions) (path : String) (others : List String) :
    IsSegments options path others ↔
      others = (segments options path).1 :: (segments options path).2 := by
  by_cases hnested : options.nested = true ∧ options.separator ≠ ""
  · have hseparator : options.separator.toList ≠ [] := by simpa using hnested.2
    have hsplits := splits_splitFrom hseparator path.toList
    rw [IsSegments, segments, if_pos hnested, if_pos hnested]
    dsimp only
    generalize splitFrom options.separator.toList 0 path.toList = found at hsplits
    have hmap : (String.ofList found.1 :: found.2.map String.ofList).map String.toList =
        found.1 :: found.2 := by
      simp [Function.comp_def]
    constructor
    · intro h
      have htoList : Function.Injective String.toList := fun _ _ => String.toList_inj.mp
      apply List.map_injective_iff.mpr htoList
      rw [hmap]
      exact h.unique hsplits
    · rintro rfl
      rw [hmap]
      exact hsplits
  · rw [IsSegments, segments, if_neg hnested, if_neg hnested]

/-! ## Resolution -/

/--
A path leads to the values of the walk along its segments.  A strict path that
leads nowhere is a missing key, and no other path is.
-/
theorem resolve?_eq_walk (ctx : Context) (path : String) : ∃ segments,
    (∀ others, IsSegments ctx.paths path others ↔ others = segments) ∧
    resolve? ctx.paths ctx.record path =
      (if ctx.paths.strict ∧ walk ctx.record segments = [] then none
        else some (walk ctx.record segments)) ∧
    ctx.fieldValues path =
      (if ctx.paths.strict ∧ walk ctx.record segments = [] then .error (.keyNotFound path)
        else .ok ((walk ctx.record segments).map ctx.fold)) := by
  have hresolve := resolve?.eq_1 ctx.paths ctx.record path
  rw [lookup_eq_walk] at hresolve
  simp only [List.isEmpty_iff] at hresolve
  refine ⟨_, isSegments_iff ctx.paths path, hresolve, ?_⟩
  rw [Context.fieldValues, hresolve]
  split_ifs <;> rfl

end Path

end RecordQuery
