import Mathlib
import RecordQuery.Regex.Basic

/-! # Matches between places

An expression relates the places of a text at which a match may start to those
at which it may end.  The search moves sets of marks along this relation.  For a
repetition without a bound it stops after as many rounds as there are places,
and has come to a set that no further round adds to.
-/

namespace RecordQuery

namespace Regex

/-- A number of steps along a relation, one behind the other. -/
def Steps (R : Nat → Nat → Prop) : Nat → Nat → Nat → Prop
  | 0, i, j => i = j
  | n + 1, i, k => ∃ j, R i j ∧ Steps R n j k

def before? (text : List Char) : Nat → Option Char
  | 0 => none
  | i + 1 => text[i]?

/-- A match of the expression may start at the one place and end at the other. -/
def Matches (text : List Char) : Regex → Nat → Nat → Prop
  | .empty, i, j => i = j
  | .chars s, i, j => j = i + 1 ∧ ∃ c, text[i]? = some c ∧ s.mem c = true
  | .look assertion, i, j => i = j ∧ assertion.holds (before? text i) text[i]? = true
  | .seq first second, i, k => ∃ j, Matches text first i j ∧ Matches text second j k
  | .alt first second, i, j => Matches text first i j ∨ Matches text second i j
  | .repeated inner min max, i, j =>
      ∃ n, (∀ m ∈ max, n ≤ m - min) ∧ Steps (Matches text inner) (min + n) i j

/-- Of three parts of a way the first two may be put together, or the last two. -/
theorem exists_between_assoc {P : Nat → Prop} {Q : Nat → Nat → Prop} {R : Nat → Prop} :
    (∃ j, P j ∧ ∃ k, Q j k ∧ R k) ↔ ∃ k, (∃ j, P j ∧ Q j k) ∧ R k := by
  constructor
  · rintro ⟨j, hj, k, hjk, hk⟩
    exact ⟨k, ⟨j, hj, hjk⟩, hk⟩
  · rintro ⟨k, ⟨j, hj, hjk⟩, hk⟩
    exact ⟨j, hj, k, hjk, hk⟩

theorem steps_add (R : Nat → Nat → Prop) (m n i k : Nat) :
    Steps R (m + n) i k ↔ ∃ j, Steps R m i j ∧ Steps R n j k := by
  induction m generalizing i with
  | zero => simp [Steps]
  | succ m ih =>
      rw [Nat.succ_add]
      simp only [Steps, ih]
      exact exists_between_assoc

theorem steps_le {R : Nat → Nat → Prop} {bound : Nat}
    (hstep : ∀ i j, i ≤ bound → R i j → j ≤ bound) {n i j : Nat} (hi : i ≤ bound)
    (h : Steps R n i j) : j ≤ bound := by
  induction n generalizing i with
  | zero => exact h ▸ hi
  | succ n ih =>
      obtain ⟨k, hk, hsteps⟩ := h
      exact ih (hstep i k hi hk) hsteps

/-- No match ends behind the text. -/
theorem matches_le {text : List Char} {r : Regex} {i j : Nat} (hi : i ≤ text.length)
    (h : Matches text r i j) : j ≤ text.length := by
  induction r generalizing i j with
  | empty => exact h ▸ hi
  | chars s =>
      obtain ⟨rfl, c, hc, -⟩ := h
      exact (List.getElem?_eq_some_iff.mp hc).1
  | look assertion => exact h.1 ▸ hi
  | seq first second ihFirst ihSecond =>
      obtain ⟨k, hfirst, hsecond⟩ := h
      exact ihSecond (ihFirst hi hfirst) hsecond
  | alt first second ihFirst ihSecond => exact h.elim (ihFirst hi) (ihSecond hi)
  | repeated inner min max ih =>
      obtain ⟨n, -, hsteps⟩ := h
      exact steps_le (fun i j hi hij => ih hi hij) hi hsteps

/-! ## Marks -/

def Marked (marks : Marks) (i : Nat) : Prop :=
  marks[i]? = some true

theorem marked_join {a b : Marks} (hlength : a.length = b.length) (i : Nat) :
    Marked (join a b) i ↔ Marked a i ∨ Marked b i := by
  unfold Marked join
  rw [List.getElem?_zipWith]
  by_cases hi : i < a.length
  · rw [List.getElem?_eq_getElem hi, List.getElem?_eq_getElem (hlength ▸ hi)]
    simp
  · rw [List.getElem?_eq_none (Nat.le_of_not_lt hi),
      List.getElem?_eq_none (hlength ▸ Nat.le_of_not_lt hi)]
    simp

theorem length_join {a b : Marks} (hlength : a.length = b.length) :
    (join a b).length = a.length := by
  rw [join, List.length_zipWith, hlength, Nat.min_self]

/-- Joining either adds nothing or leaves fewer places unmarked. -/
theorem join_eq_or_count_lt {a b : Marks} (hlength : a.length = b.length) :
    join a b = a ∨ (join a b).count false < a.count false := by
  induction a generalizing b with
  | nil => exact Or.inl rfl
  | cons x a ih =>
      cases b with
      | nil => cases hlength
      | cons y b =>
          have hcons : join (x :: a) (y :: b) = (x || y) :: join a b := rfl
          have htail : a.length = b.length := Nat.succ.inj hlength
          rw [hcons]
          cases x with
          | true =>
              rcases ih htail with hsame | hlt
              · exact Or.inl (by rw [hsame, Bool.true_or])
              · exact Or.inr (by simpa using hlt)
          | false =>
              have hle : (join a b).count false ≤ a.count false := by
                rcases ih htail with hsame | hlt
                · rw [hsame]
                · omega
              cases y with
              | true =>
                  refine Or.inr ?_
                  simp only [Bool.false_or, List.count_cons]
                  simpa using Nat.lt_succ_of_le hle
              | false =>
                  rcases ih htail with hsame | hlt
                  · exact Or.inl (by rw [hsame, Bool.false_or])
                  · exact Or.inr (by simpa [List.count_cons] using hlt)

/-! ## Moving marks along a relation -/

/-- On sets of `size` places, `step` goes from the marks to the places that they are related to. -/
def Moves (size : Nat) (R : Nat → Nat → Prop) (step : Marks → Marks) : Prop :=
  ∀ marks : Marks, marks.length = size →
    (step marks).length = size ∧ ∀ j, Marked (step marks) j ↔ ∃ i, Marked marks i ∧ R i j

namespace Moves

variable {size : Nat} {R S : Nat → Nat → Prop} {step next : Marks → Marks}

theorem congr (h : Moves size R step) (hiff : ∀ i j, S i j ↔ R i j) : Moves size S step := by
  intro marks hmarks
  obtain ⟨hlength, hstep⟩ := h marks hmarks
  exact ⟨hlength, fun j => by simp only [hstep, hiff]⟩

theorem comp (h : Moves size R step) (h' : Moves size S next) :
    Moves size (fun i k => ∃ j, R i j ∧ S j k) (fun marks => next (step marks)) := by
  intro marks hmarks
  obtain ⟨hlength, hstep⟩ := h marks hmarks
  obtain ⟨hlength', hnext⟩ := h' (step marks) hlength
  refine ⟨hlength', fun k => ?_⟩
  simp only [hnext, hstep]
  exact exists_between_assoc.symm

theorem join (h : Moves size R step) (h' : Moves size S next) :
    Moves size (fun i j => R i j ∨ S i j) (fun marks => Regex.join (step marks) (next marks)) := by
  intro marks hmarks
  obtain ⟨hlength, hstep⟩ := h marks hmarks
  obtain ⟨hlength', hnext⟩ := h' marks hmarks
  have hsame := hlength.trans hlength'.symm
  refine ⟨(length_join hsame).trans hlength, fun j => ?_⟩
  rw [marked_join hsame, hstep, hnext, ← exists_or]
  simp only [and_or_left]

/-- The first of several steps may be taken in advance. -/
theorem exists_steps_succ (h : Moves size R step) {marks : Marks} (hmarks : marks.length = size)
    (n k : Nat) :
    (∃ i, Marked marks i ∧ Steps R (n + 1) i k) ↔
      ∃ j, Marked (step marks) j ∧ Steps R n j k := by
  simp only [(h marks hmarks).2, Steps]
  exact exists_between_assoc

theorem exactly (h : Moves size R step) (n : Nat) :
    Moves size (Steps R n) (Regex.exactly step n) := by
  intro marks hmarks
  induction n generalizing marks with
  | zero => exact ⟨hmarks, fun j => by simp [Regex.exactly, Steps]⟩
  | succ n ih =>
      have hlength := (h marks hmarks).1
      rw [Regex.exactly]
      split
      · rename_i hfix
        -- a step that changes nothing may be taken any number of times
        have hstay (m j : Nat) : (∃ i, Marked marks i ∧ Steps R m i j) ↔ Marked marks j := by
          induction m with
          | zero => simp [Steps]
          | succ m ihm => rw [h.exists_steps_succ hmarks, hfix, ihm]
        exact ⟨hmarks, fun j => (hstay _ j).symm⟩
      · refine ⟨(ih _ hlength).1, fun j => ?_⟩
        rw [(ih _ hlength).2, h.exists_steps_succ hmarks]

/-- Nothing that is related to a mark is left unmarked. -/
theorem marked_of_steps (h : Moves size R step) {marks : Marks} (hmarks : marks.length = size)
    (hfix : Regex.join marks (step marks) = marks) {n i j : Nat} (hi : Marked marks i)
    (hsteps : Steps R n i j) : Marked marks j := by
  induction n generalizing i with
  | zero => exact hsteps ▸ hi
  | succ n ih =>
      obtain ⟨k, hk, hsteps⟩ := hsteps
      obtain ⟨hlength, hstep⟩ := h marks hmarks
      refine ih ?_ hsteps
      rw [← hfix, marked_join (hmarks.trans hlength.symm)]
      exact Or.inr ((hstep k).mpr ⟨i, hi, hk⟩)

theorem atMost (h : Moves size R step) (n : Nat) :
    Moves size (fun i j => ∃ m, m ≤ n ∧ Steps R m i j) (Regex.atMost step n) := by
  intro marks hmarks
  induction n generalizing marks with
  | zero => exact ⟨hmarks, fun j => by simp [Regex.atMost, Steps]⟩
  | succ n ih =>
      obtain ⟨hlength, hstep⟩ := h marks hmarks
      have hsame := hmarks.trans hlength.symm
      rw [Regex.atMost]
      dsimp only
      split
      · rename_i hfix
        refine ⟨hmarks, fun j => ⟨fun hj => ⟨j, hj, 0, Nat.zero_le _, rfl⟩, ?_⟩⟩
        rintro ⟨i, hi, m, -, hsteps⟩
        exact h.marked_of_steps hmarks hfix hi hsteps
      · have hnext := ih _ ((length_join hsame).trans hmarks)
        refine ⟨hnext.1, fun k => (hnext.2 k).trans ?_⟩
        simp only [marked_join hsame]
        -- a mark of the next round was there before, or is one step from one that was
        constructor
        · rintro ⟨j, hj | hj, m, hm, hsteps⟩
          · exact ⟨j, hj, m, Nat.le_succ_of_le hm, hsteps⟩
          · obtain ⟨i, hi, hij⟩ := (hstep j).mp hj
            exact ⟨i, hi, m + 1, Nat.succ_le_succ hm, j, hij, hsteps⟩
        · rintro ⟨i, hi, m, hm, hsteps⟩
          cases m with
          | zero => exact ⟨i, Or.inl hi, 0, Nat.zero_le _, hsteps⟩
          | succ m =>
              obtain ⟨j, hij, hsteps⟩ := hsteps
              exact ⟨j, Or.inr ((hstep j).mpr ⟨i, hi, hij⟩), m, Nat.le_of_succ_le_succ hm, hsteps⟩

/-- Every round marks another place until nothing is left to mark. -/
theorem join_atMost (h : Moves size R step) {n : Nat} {marks : Marks} (hmarks : marks.length = size)
    (hcount : marks.count false ≤ n) :
    Regex.join (Regex.atMost step n marks) (step (Regex.atMost step n marks)) =
      Regex.atMost step n marks := by
  induction n generalizing marks with
  | zero =>
      have hsame := hmarks.trans (h marks hmarks).1.symm
      rcases join_eq_or_count_lt hsame with hfix | hlt
      · exact hfix
      · omega
  | succ n ih =>
      have hsame := hmarks.trans (h marks hmarks).1.symm
      rw [Regex.atMost]
      split
      · assumption
      · rename_i hchanged
        rcases join_eq_or_count_lt hsame with hfix | hlt
        · exact absurd hfix hchanged
        · exact ih ((length_join hsame).trans hmarks) (by omega)

/-- As many rounds as there are places stand for any number of them. -/
theorem star (h : Moves size R step) :
    Moves size (fun i j => ∃ n, Steps R n i j) (Regex.atMost step size) := by
  intro marks hmarks
  obtain ⟨hlength, hatMost⟩ := h.atMost size marks hmarks
  refine ⟨hlength, fun j => ⟨fun hj => ?_, ?_⟩⟩
  · obtain ⟨i, hi, n, -, hsteps⟩ := (hatMost j).mp hj
    exact ⟨i, hi, n, hsteps⟩
  · rintro ⟨i, hi, n, hsteps⟩
    have hfix := h.join_atMost hmarks (hmarks ▸ List.count_le_length)
    have hstart := (hatMost i).mpr ⟨i, hi, 0, Nat.zero_le _, rfl⟩
    exact h.marked_of_steps hlength hfix hstart hsteps

end Moves

/-! ## The search -/

theorem moves_shiftOver (text : List Char) (s : CharSet) :
    Moves (text.length + 1) (Matches text (.chars s)) (shiftOver s text) := by
  intro marks hmarks
  constructor
  · rw [shiftOver, List.length_cons, List.length_zipWith, hmarks]
    omega
  · intro j
    unfold Marked shiftOver Matches
    cases j with
    | zero => simp
    | succ i =>
        rw [List.getElem?_cons_succ, List.getElem?_zipWith]
        cases hmark : marks[i]? with
        | none => simp [hmark]
        | some mark =>
            cases hc : text[i]? with
            | none => simp [hc]
            | some c => cases mark <;> simp [hmark, hc]

theorem getElem?_assertionMarks (assertion : Assertion) (text : List Char) (before : Option Char)
    {i : Nat} (hi : i ≤ text.length) :
    (assertionMarks assertion before text)[i]? =
      some (assertion.holds (if i = 0 then before else before? text i) text[i]?) := by
  induction text generalizing before i with
  | nil =>
      cases Nat.le_zero.mp hi
      rfl
  | cons c cs ih =>
      cases i with
      | zero => rfl
      | succ i =>
          rw [assertionMarks, List.getElem?_cons_succ, ih _ (Nat.le_of_succ_le_succ hi)]
          cases i <;> rfl

theorem length_assertionMarks (assertion : Assertion) (text : List Char) (before : Option Char) :
    (assertionMarks assertion before text).length = text.length + 1 := by
  induction text generalizing before with
  | nil => rfl
  | cons c cs ih => rw [assertionMarks, List.length_cons, ih, List.length_cons]

theorem moves_look (text : List Char) (assertion : Assertion) :
    Moves (text.length + 1) (Matches text (.look assertion))
      (fun marks => List.zipWith (· && ·) marks (assertionMarks assertion none text)) := by
  intro marks hmarks
  constructor
  · rw [List.length_zipWith, hmarks, length_assertionMarks, Nat.min_self]
  · intro j
    have hnone (i : Nat) : (if i = 0 then none else before? text i) = before? text i := by
      cases i <;> rfl
    unfold Marked Matches
    rw [List.getElem?_zipWith]
    by_cases hj : j ≤ text.length
    · rw [getElem?_assertionMarks assertion text none hj, hnone]
      cases hmark : marks[j]? with
      | none => simp [hmark]
      | some mark => cases mark <;> simp [hmark]
    · have hmark : marks[j]? = none := List.getElem?_eq_none (by omega)
      simp [hmark]

/-- The search for an expression moves marks along its matches. -/
theorem moves_ends (text : List Char) (r : Regex) :
    Moves (text.length + 1) (Matches text r) (ends text r) := by
  induction r with
  | empty => exact fun marks hmarks => ⟨hmarks, fun j => by simp [ends, Matches]⟩
  | chars s => exact moves_shiftOver text s
  | look assertion => exact moves_look text assertion
  | seq first second ihFirst ihSecond => exact ihFirst.comp ihSecond
  | alt first second ihFirst ihSecond => exact ihFirst.join ihSecond
  | repeated inner min max ih =>
      cases max with
      | none =>
          refine ((ih.exactly min).comp ih.star).congr fun i k => ?_
          simp only [Matches, steps_add]
          constructor
          · rintro ⟨n, -, j, hj, hk⟩
            exact ⟨j, hj, n, hk⟩
          · rintro ⟨j, hj, n, hk⟩
            exact ⟨n, by simp, j, hj, hk⟩
      | some max =>
          refine ((ih.exactly min).comp (ih.atMost (max - min))).congr fun i k => ?_
          simp only [Matches, steps_add, Option.mem_some_iff, forall_eq']
          constructor
          · rintro ⟨n, hn, j, hj, hk⟩
            exact ⟨j, hj, n, hn, hk⟩
          · rintro ⟨j, hj, n, hn, hk⟩
            exact ⟨n, hn, j, hj, hk⟩

/-- A text is found to match exactly if there is a match between two of its places. -/
theorem isMatch_iff (r : Regex) (text : String) :
    r.isMatch text = true ↔ ∃ i j, i ≤ text.toList.length ∧ Matches text.toList r i j := by
  have hmoves := (moves_ends text.toList r
    (List.replicate (text.toList.length + 1) true) List.length_replicate).2
  have hstart (i : Nat) : Marked (List.replicate (text.toList.length + 1) true) i ↔
      i ≤ text.toList.length := by
    simp [Marked, List.getElem?_replicate]
  rw [isMatch]
  simp only [List.any_eq_true, id, exists_eq_right, List.mem_iff_getElem?]
  constructor
  · rintro ⟨j, hj⟩
    obtain ⟨i, hi, hmatch⟩ := (hmoves j).mp hj
    exact ⟨i, j, (hstart i).mp hi, hmatch⟩
  · rintro ⟨i, j, hi, hmatch⟩
    exact ⟨j, (hmoves j).mpr ⟨i, (hstart i).mpr hi, hmatch⟩⟩

end Regex

end RecordQuery
