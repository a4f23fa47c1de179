import Mathlib
import RecordQuery.Proofs.Pattern.WildcardFit
import RecordQuery.Proofs.Pattern.WildcardSource
import RecordQuery.Proofs.Regex.Matching

/-! # The regular expression of a wildcard pattern

Read again, the source of a pattern is the sequence of its items between the
start and the end of the text.  Where letter case counts it matches the texts
that fit the pattern.
-/

namespace RecordQuery

namespace Regex

section

variable {text : List Char}

/-- The expressions match one behind the other. -/
def Chain (text : List Char) : List Regex → Nat → Nat → Prop
  | [], i, j => i = j
  | r :: rs, i, k => ∃ j, Matches text r i j ∧ Chain text rs j k

theorem chain_concat (rs : List Regex) (r : Regex) (i k : Nat) :
    Chain text (rs ++ [r]) i k ↔ ∃ j, Chain text rs i j ∧ Matches text r j k := by
  induction rs generalizing i with
  | nil => simp [Chain]
  | cons first rs ih =>
      simp only [List.cons_append, Chain, ih]
      exact exists_between_assoc

/-- The expressions of the items, which are in reverse, in front of what stands behind them. -/
theorem matches_foldl_iff (items : List Item) (behind : Nested) (i k : Nat) :
    Matches text (items.foldl (fun behind item =>
      (⟨.seq item.nested.regex behind.regex, max (item.nested.depth + 1) behind.depth⟩ : Nested))
      behind).regex i k ↔
      ∃ j, Chain text (items.reverse.map fun item => item.nested.regex) i j ∧
        Matches text behind.regex j k := by
  induction items generalizing behind with
  | nil => simp [Chain]
  | cons item items ih =>
      rw [List.foldl_cons, ih, List.reverse_cons, List.map_append]
      simp only [List.map_cons, List.map_nil, chain_concat, Matches]
      exact exists_between_assoc

theorem matches_sequence_iff (items : List Item) (i j : Nat) :
    Matches text (sequence items).regex i j ↔
      Chain text (items.reverse.map fun item => item.nested.regex) i j := by
  match items with
  | [] => exact Iff.rfl
  | [item] => simp [sequence, Chain]
  | last :: item :: items =>
      rw [List.reverse_cons, List.map_append]
      exact (matches_foldl_iff (item :: items) _ i j).trans (chain_concat _ _ i j).symm

theorem steps_full_iff {n i j : Nat} (hi : i ≤ text.length) :
    Steps (Matches text (.chars .full)) n i j ↔ j = i + n ∧ j ≤ text.length := by
  induction n generalizing i with
  | zero =>
      show i = j ↔ _
      omega
  | succ n ih =>
      constructor
      · rintro ⟨_, ⟨rfl, c, hc, -⟩, hj⟩
        have hlt : i < text.length := (List.getElem?_eq_some_iff.mp hc).1
        have hend := (ih hlt).mp hj
        omega
      · rintro ⟨rfl, hle⟩
        have hlt : i < text.length := by omega
        have hend := (@ih (i + 1) hlt).mpr (by omega)
        exact ⟨i + 1, ⟨rfl, text[i], List.getElem?_eq_getElem hlt, rfl⟩, hend⟩

theorem matches_anyText_iff {i j : Nat} (hi : i ≤ text.length) :
    Matches text (.repeated (.chars .full) 0 none) i j ↔ i ≤ j ∧ j ≤ text.length := by
  show (∃ n, _ ∧ Steps (Matches text (.chars .full)) (0 + n) i j) ↔ _
  simp only [Nat.zero_add, steps_full_iff hi]
  constructor
  · rintro ⟨n, -, rfl, hle⟩
    exact ⟨Nat.le_add_right i n, hle⟩
  · rintro ⟨hle, hj⟩
    exact ⟨j - i, fun m hm => (by cases hm), (Nat.add_sub_cancel' hle).symm, hj⟩

end

end Regex

namespace Wildcard

open Regex

/-! ## Sets -/

theorem mem_single_iff (c d : Char) : (CharSet.single d).mem c = true ↔ c = d := by
  simp only [CharSet.single, CharSet.mem, Bool.and_eq_true, decide_eq_true_eq]
  exact ⟨fun h => le_antisymm h.2 h.1, fun h => ⟨h.ge, h.le⟩⟩

theorem mem_union_iff (parts : List ClassPart) (c : Char) :
    (ClassPart.union parts).set.mem c = true ↔ ∃ part ∈ parts, part.set.mem c = true := by
  have hfold (parts : List ClassPart) (whole : ClassPart) :
      (parts.foldl (fun whole part => (⟨.union whole.set part.set,
        max whole.depth (part.depth + 1)⟩ : ClassPart)) whole).set.mem c = true ↔
        whole.set.mem c = true ∨ ∃ part ∈ parts, part.set.mem c = true := by
    induction parts generalizing whole with
    | nil => simp
    | cons part parts ih => simp [ih, CharSet.mem, or_assoc]
  match parts with
  | [] => simp [ClassPart.union, CharSet.mem]
  | [part] => simp [ClassPart.union]
  | first :: part :: parts =>
      rw [List.exists_mem_cons_iff]
      exact hfold (part :: parts) _

theorem mem_classOf_iff (negated : Bool) (sets : List CharSet) (c : Char) :
    (classOf false negated sets).set.mem c = true ↔
      ((∃ s ∈ sets, s.mem c = true) ↔ negated = false) := by
  have hunion : (ClassPart.union (sets.map fun s => ⟨s, 0⟩).reverse).set.mem c = true ↔
      ∃ s ∈ sets, s.mem c = true := by
    simp [mem_union_iff]
  rw [← hunion]
  cases negated <;> simp [classOf, caseSet, CharSet.mem]

/-- Every character lies in the range that the class without members leaves out. -/
theorem mem_all (c : Char) : (CharSet.range '\x00' (Char.ofNat 0x10FFFF)).mem c = true := by
  have hlast : c ≤ Char.ofNat 0x10FFFF := Char.toNat_le_max c
  have hfirst : '\x00' ≤ c := Nat.zero_le c.toNat
  simp [CharSet.mem, hfirst, hlast]

theorem exists_chars_setNested (negated : Bool) (sets : List CharSet) :
    ∃ s, (setNested false negated sets).regex = .chars s ∧
      ∀ c, s.mem c = true ↔ ((∃ s ∈ sets, s.mem c = true) ↔ negated = false) := by
  match negated, sets with
  | true, [] => exact ⟨.full, rfl, fun c => by simp [CharSet.mem]⟩
  | false, [] =>
      refine ⟨_, rfl, fun c => (mem_classOf_iff true _ c).trans ?_⟩
      simp [mem_all]
  | true, s :: sets => exact ⟨_, rfl, mem_classOf_iff true (s :: sets)⟩
  | false, s :: sets => exact ⟨_, rfl, mem_classOf_iff false (s :: sets)⟩

theorem exists_charSet_iff (members : List Member) (c : Char) :
    (∃ s ∈ members.filterMap Member.charSet?, s.mem c = true) ↔
      ∃ member ∈ members, member.Holds c := by
  have hmember (member : Member) :
      (∃ s, member.charSet? = some s ∧ s.mem c = true) ↔ member.Holds c := by
    cases member with
    | single d =>
        simp only [Member.charSet?, Option.some.injEq, exists_eq_left', mem_single_iff,
          Member.Holds]
    | range first last =>
        rw [Member.charSet?]
        split
        · simp [Member.Holds, CharSet.mem]
        · rename_i hlt
          simp only [reduceCtorEq, false_and, exists_false, false_iff, Member.Holds]
          exact fun h => hlt (h.1.trans h.2)
  simp only [List.mem_filterMap, ← hmember]
  constructor
  · rintro ⟨s, ⟨member, hmem, hs⟩, hc⟩
    exact ⟨member, hmem, s, hs, hc⟩
  · rintro ⟨member, hmem, s, hs, hc⟩
    exact ⟨s, ⟨member, hmem, hs⟩, hc⟩

/-! ## Items -/

/-- Every item but a star is read as a set: the characters that it takes. -/
theorem exists_chars_nested {item : Item} (h : item ≠ .anyText) :
    ∃ s, (item.nested false).regex = .chars s ∧ ∀ c, s.mem c = true ↔ item.Takes c := by
  cases item with
  | anyText => exact absurd rfl h
  | anyChar => exact ⟨.full, rfl, fun c => by simp [CharSet.mem, Item.Takes]⟩
  | set negated members =>
      obtain ⟨s, hs, hmem⟩ :=
        exists_chars_setNested negated (members.filterMap Member.charSet?)
      refine ⟨s, hs, fun c => (hmem c).trans ?_⟩
      rw [exists_charSet_iff]
      exact Iff.rfl
  | literal d => exact ⟨.single d, rfl, fun c => mem_single_iff c d⟩

theorem covers_cons_iff {item : Item} (h : item ≠ .anyText) (items : List Item)
    (text : List Char) :
    Covers (item :: items) text ↔
      ∃ c rest, text = c :: rest ∧ item.Takes c ∧ Covers items rest := by
  cases item with
  | anyText => exact absurd rfl h
  | _ => exact Iff.rfl

theorem chain_nested_iff (text : List Char) (items : List Item) {i : Nat} (hi : i ≤ text.length) :
    Chain text (items.map fun item => (item.nested false).regex) i text.length ↔
      Covers items (text.drop i) := by
  induction items generalizing i with
  | nil =>
      show i = text.length ↔ text.drop i = []
      rw [List.drop_eq_nil_iff]
      omega
  | cons item items ih =>
      rw [List.map_cons]
      by_cases hstar : item = .anyText
      · -- the place where the run ends is the one where the rest begins
        subst hstar
        show (∃ j, Matches text (.repeated (.chars .full) 0 none) i j ∧ _) ↔
          ∃ run rest, text.drop i = run ++ rest ∧ Covers items rest
        simp only [matches_anyText_iff hi]
        constructor
        · rintro ⟨j, ⟨hle, hj⟩, hrest⟩
          refine ⟨(text.drop i).take (j - i), text.drop j, ?_, (ih hj).mp hrest⟩
          have hsplit := List.take_append_drop (j - i) (text.drop i)
          rw [List.drop_drop, Nat.add_sub_cancel' hle] at hsplit
          exact hsplit.symm
        · rintro ⟨run, rest, hsplit, hrest⟩
          have hlength := congrArg List.length hsplit
          rw [List.length_drop, List.length_append] at hlength
          have hj : i + run.length ≤ text.length := by omega
          have hdrop : text.drop (i + run.length) = rest := by
            rw [← List.drop_drop, hsplit, List.drop_left]
          exact ⟨i + run.length, ⟨Nat.le_add_right i _, hj⟩, (ih hj).mpr (hdrop ▸ hrest)⟩
      · obtain ⟨s, hs, hmem⟩ := exists_chars_nested hstar
        rw [covers_cons_iff hstar, hs]
        constructor
        · rintro ⟨_, ⟨rfl, c, hc, hin⟩, hrest⟩
          obtain ⟨hlt, rfl⟩ := List.getElem?_eq_some_iff.mp hc
          exact ⟨text[i], text.drop (i + 1), List.drop_eq_getElem_cons hlt, (hmem _).mp hin,
            (ih hlt).mp hrest⟩
        · rintro ⟨c, rest, hsplit, htakes, hrest⟩
          have hlength := congrArg List.length hsplit
          rw [List.length_drop, List.length_cons] at hlength
          have hlt : i < text.length := by omega
          rw [List.drop_eq_getElem_cons hlt] at hsplit
          cases hsplit
          exact ⟨i + 1, ⟨rfl, text[i], List.getElem?_eq_getElem hlt, (hmem _).mpr htakes⟩,
            (ih hlt).mpr hrest⟩

/-! ## Whole patterns -/

theorem matches_sequenceOf_iff (text : List Char) (items : List Item) :
    Matches text (sequenceOf false items).regex 0 text.length ↔ Covers items text := by
  rw [sequenceOf, matches_sequence_iff, List.reverse_reverse, List.map_map]
  exact chain_nested_iff text items (Nat.zero_le _)

/-- Between the assertions a match has to run from the start of the text to its end. -/
theorem isMatch_anchored_iff (r : Regex) (text : String) :
    (Regex.seq (.look .textStart) (.seq r (.look .textEnd))).isMatch text = true ↔
      Matches text.toList r 0 text.toList.length := by
  have hbehind (i : Nat) (h : text.toList[i]?.isNone = true) : text.toList.length ≤ i :=
    List.getElem?_eq_none_iff.mp (Option.isNone_iff_eq_none.mp h)
  rw [isMatch_iff]
  constructor
  · rintro ⟨i, _, hi, _, ⟨rfl, hstart⟩, k, hmatch, rfl, hend⟩
    have hfirst : i = 0 := by
      cases i with
      | zero => rfl
      | succ i => exact absurd (hbehind i hstart) (Nat.not_le.mpr hi)
    have hlast : k = text.toList.length :=
      Nat.le_antisymm (matches_le hi hmatch) (hbehind k hend)
    rw [← hlast, ← hfirst]
    exact hmatch
  · intro h
    refine ⟨0, text.toList.length, Nat.zero_le _, 0, ⟨rfl, rfl⟩, text.toList.length, h, rfl, ?_⟩
    rw [List.getElem?_eq_none (Nat.le_refl _)]
    rfl

end Wildcard

namespace Pattern

/-- The source of the pattern is read as the expression, which compiles unless it is too large. -/
def Compiles (caseSensitive : Bool) (pattern : Pattern) (regex : Regex) : Prop :=
  Regex.parse? (!caseSensitive) pattern.source.toList = some regex ∧
    pattern.compile caseSensitive =
      if regex.states ≤ Regex.stateLimit then .ok regex else .error ⟨pattern.source⟩

theorem compiles_of_parse? {caseSensitive : Bool} {pattern : Pattern} {regex : Regex}
    (h : Regex.parse? (!caseSensitive) pattern.source.toList = some regex) :
    Compiles caseSensitive pattern regex := by
  refine ⟨h, ?_⟩
  have hcompile : Regex.compile? (!caseSensitive) pattern.source =
      if regex.states ≤ Regex.stateLimit then some regex else none := by
    rw [Regex.compile?, h]
    rfl
  unfold Pattern.compile
  rw [hcompile]
  by_cases hsize : regex.states ≤ Regex.stateLimit
  · rw [if_pos hsize, if_pos hsize]
  · rw [if_neg hsize, if_neg hsize]

/--
A wildcard pattern compiles, whether or not letter case counts, unless its
expression is too large.  Where letter case counts the expression matches
exactly the texts that fit the pattern as a whole.
-/
theorem compiles_wildcard (pattern : String) :
    (∃ regex, Compiles true (.wildcard pattern) regex ∧
      ∀ text : String, regex.isMatch text = true ↔
        Wildcard.Fits pattern.toList text.toList) ∧
    ∃ regex, Compiles false (.wildcard pattern) regex := by
  refine ⟨⟨_, compiles_of_parse? (Wildcard.parse?_regexSource pattern), fun text => ?_⟩,
    ⟨_, compiles_of_parse? (Wildcard.parse?_regexSource pattern)⟩⟩
  rw [Wildcard.isMatch_anchored_iff]
  exact (Wildcard.matches_sequenceOf_iff _ _).trans Wildcard.covers_items_iff

end Pattern

end RecordQuery
