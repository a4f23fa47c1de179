import Mathlib
import RecordQuery.Pattern.Wildcard

/-! # Texts that fit a wildcard pattern

Whether a text fits is told from the characters of the pattern alone: a star
takes any run, a question mark any character, a closed set a character that is
in it or not, and everything else itself.  The items of a pattern say the same.
-/

namespace RecordQuery

namespace Wildcard

/-- The character is in the set that is written between brackets. -/
def InSet (c : Char) : List Char → Prop
  | [] => False
  | first :: '-' :: last :: inside => (first ≤ c ∧ c ≤ last) ∨ InSet c inside
  | member :: inside => c = member ∨ InSet c inside

/--
What may stand between the brackets of a set.  A closing bracket is a member in
front only, and an exclamation mark in front of the members negates the set.
-/
def IsInside (negated : Bool) : List Char → Prop
  | [] => False
  | first :: others => (negated = false → first ≠ '!') ∧ ']' ∉ others

/-- What follows an opening bracket is a closed set and then the rest. -/
def ClosedSet (negated : Bool) (inside rest behind : List Char) : Prop :=
  IsInside negated inside ∧
    behind = (if negated then ['!'] else []) ++ (inside ++ ']' :: rest)

/-- The whole text fits the pattern. -/
inductive Fits : List Char → List Char → Prop
  | nil : Fits [] []
  | star {pattern text : List Char} (run : List Char) (h : Fits pattern text) :
      Fits ('*' :: pattern) (run ++ text)
  | anyChar {pattern text : List Char} (c : Char) (h : Fits pattern text) :
      Fits ('?' :: pattern) (c :: text)
  | set {negated : Bool} {inside pattern behind text : List Char} {c : Char}
      (hset : ClosedSet negated inside pattern behind) (hc : InSet c inside ↔ negated = false)
      (h : Fits pattern text) : Fits ('[' :: behind) (c :: text)
  | bracket {pattern text : List Char}
      (hopen : ∀ negated inside rest, ¬ ClosedSet negated inside rest pattern)
      (h : Fits pattern text) : Fits ('[' :: pattern) ('[' :: text)
  | literal {pattern text : List Char} {c : Char} (hstar : c ≠ '*') (hmark : c ≠ '?')
      (hbracket : c ≠ '[') (h : Fits pattern text) : Fits (c :: pattern) (c :: text)

/-! ## Sets -/

theorem splitAtBracket?_eq_some_iff {cs inside rest : List Char} :
    splitAtBracket? cs = some (inside, rest) ↔ cs = inside ++ ']' :: rest ∧ ']' ∉ inside := by
  induction cs generalizing inside rest with
  | nil => simp [splitAtBracket?]
  | cons c cs ih =>
      rw [splitAtBracket?]
      by_cases hc : c = ']'
      · subst hc
        rw [if_pos rfl]
        cases inside with
        | nil => simp
        | cons first inside =>
            constructor
            · intro h
              cases h
            · intro h
              exact absurd ((List.cons.inj h.1).1 ▸ List.mem_cons_self) h.2
      · rw [if_neg hc]
        cases inside with
        | nil => simp [hc]
        | cons first inside =>
            rw [Option.map_eq_some_iff]
            constructor
            · rintro ⟨⟨others, behind⟩, hsplit, hparts⟩
              obtain ⟨rfl, hothers⟩ := ih.mp hsplit
              cases hparts
              exact ⟨rfl, fun hmem => (List.mem_cons.mp hmem).elim (fun h => hc h.symm) hothers⟩
            · rintro ⟨hcs, hmem⟩
              obtain ⟨rfl, rfl⟩ := List.cons.inj hcs
              exact ⟨(inside, rest), ih.mpr ⟨rfl, fun h => hmem (List.mem_cons_of_mem _ h)⟩, rfl⟩

theorem splitMembers?_cons (first : Char) (cs : List Char) :
    splitMembers? (first :: cs) =
      (splitAtBracket? cs).map fun parts => (first :: parts.1, parts.2) := by
  by_cases hfirst : first = ']'
  · subst hfirst
    rfl
  · unfold splitMembers?
    split
    · rename_i h
      exact absurd (List.cons.inj h).1 hfirst
    · rw [splitAtBracket?, if_neg hfirst]

theorem splitMembers?_eq_some_iff {cs inside rest : List Char} :
    splitMembers? cs = some (inside, rest) ↔
      IsInside true inside ∧ cs = inside ++ ']' :: rest := by
  cases cs with
  | nil => simp [splitMembers?, splitAtBracket?]
  | cons first cs =>
      rw [splitMembers?_cons, Option.map_eq_some_iff]
      constructor
      · rintro ⟨⟨others, behind⟩, hsplit, hparts⟩
        obtain ⟨rfl, hothers⟩ := splitAtBracket?_eq_some_iff.mp hsplit
        cases hparts
        exact ⟨⟨fun h => absurd h (by decide), hothers⟩, rfl⟩
      · rintro ⟨hinside, hcs⟩
        cases inside with
        | nil => cases hinside
        | cons member others =>
            obtain ⟨rfl, rfl⟩ := List.cons.inj hcs
            exact ⟨(others, rest), splitAtBracket?_eq_some_iff.mpr ⟨rfl, hinside.2⟩, rfl⟩

theorem isInside_false_iff {inside : List Char} :
    IsInside false inside ↔ IsInside true inside ∧ inside.head? ≠ some '!' := by
  cases inside with
  | nil => simp [IsInside]
  | cons first others => simp [IsInside, and_comm]

theorem splitSet?_eq_some_iff {behind inside rest : List Char} {negated : Bool} :
    splitSet? behind = some ((negated, inside), rest) ↔ ClosedSet negated inside rest behind := by
  by_cases hbang : ∃ cs, behind = '!' :: cs
  · obtain ⟨cs, rfl⟩ := hbang
    rw [splitSet?, Option.map_eq_some_iff]
    constructor
    · rintro ⟨⟨members, behind⟩, hsplit, hparts⟩
      cases hparts
      obtain ⟨hinside, rfl⟩ := splitMembers?_eq_some_iff.mp hsplit
      exact ⟨hinside, rfl⟩
    · rintro ⟨hinside, hcs⟩
      cases negated with
      | false =>
          -- without negation the exclamation mark would be the first member
          have hhead := congrArg List.head? hcs
          cases inside with
          | nil => cases hinside
          | cons first others => exact absurd (Option.some.inj hhead).symm (hinside.1 rfl)
      | true =>
          cases hcs
          exact ⟨(inside, rest), splitMembers?_eq_some_iff.mpr ⟨hinside, rfl⟩, rfl⟩
  · have hsplit : splitSet? behind =
        (splitMembers? behind).map fun parts => ((false, parts.1), parts.2) := by
      unfold splitSet?
      split
      · exact absurd ⟨_, rfl⟩ hbang
      · rfl
    rw [hsplit, Option.map_eq_some_iff]
    constructor
    · rintro ⟨⟨members, behind⟩, hsplit, hparts⟩
      cases hparts
      obtain ⟨hinside, rfl⟩ := splitMembers?_eq_some_iff.mp hsplit
      refine ⟨isInside_false_iff.mpr ⟨hinside, fun hhead => hbang ?_⟩, rfl⟩
      cases members with
      | nil => cases hinside
      | cons first others =>
          cases hhead
          exact ⟨_, rfl⟩
    · rintro ⟨hinside, hcs⟩
      cases negated with
      | true => exact absurd ⟨_, hcs⟩ hbang
      | false =>
          exact ⟨(inside, rest), splitMembers?_eq_some_iff.mpr
            ⟨(isInside_false_iff.mp hinside).1, hcs⟩, rfl⟩

theorem ClosedSet.length_lt {negated : Bool} {inside rest behind : List Char}
    (h : ClosedSet negated inside rest behind) : rest.length < behind.length := by
  rw [h.2]
  simp only [List.length_append, List.length_cons]
  omega

/-! ## Members and items -/

def Member.Holds (c : Char) : Member → Prop
  | .single d => c = d
  | .range first last => first ≤ c ∧ c ≤ last

theorem exists_mem_members_iff {c : Char} {inside : List Char} :
    (∃ member ∈ members inside, member.Holds c) ↔ InSet c inside := by
  induction inside using members.induct with
  | case1 => simp [members, InSet]
  | case2 first last inside ih =>
      simp only [members, List.mem_cons, exists_eq_or_imp, ih, InSet]
      exact Iff.rfl
  | case3 member inside hrange ih =>
      rw [members, InSet]
      · simp only [List.mem_cons, exists_eq_or_imp, ih]
        exact Iff.rfl
      all_goals exact hrange

/-- The character is one that the item takes; a star takes none by itself. -/
def Item.Takes (c : Char) : Item → Prop
  | .anyText => False
  | .anyChar => True
  | .set negated members => (∃ member ∈ members, member.Holds c) ↔ negated = false
  | .literal d => c = d

/-- The items take the text one behind the other, a star any run of it. -/
def Covers : List Item → List Char → Prop
  | [], text => text = []
  | .anyText :: items, text => ∃ run rest, text = run ++ rest ∧ Covers items rest
  | item :: items, text => ∃ c rest, text = c :: rest ∧ item.Takes c ∧ Covers items rest

section

variable {pattern text : List Char}

theorem fits_nil_iff : Fits [] text ↔ text = [] := by
  constructor
  · rintro ⟨⟩
    rfl
  · rintro rfl
    exact .nil

theorem fits_star_iff :
    Fits ('*' :: pattern) text ↔ ∃ run rest, text = run ++ rest ∧ Fits pattern rest := by
  constructor
  · intro h
    cases h with
    | star run h => exact ⟨run, _, rfl, h⟩
    | literal hstar => exact absurd rfl hstar
  · rintro ⟨run, rest, rfl, h⟩
    exact .star run h

theorem fits_anyChar_iff :
    Fits ('?' :: pattern) text ↔ ∃ c rest, text = c :: rest ∧ Fits pattern rest := by
  constructor
  · intro h
    cases h with
    | anyChar c h => exact ⟨c, _, rfl, h⟩
    | literal _ hmark => exact absurd rfl hmark
  · rintro ⟨c, rest, rfl, h⟩
    exact .anyChar c h

/-- A closed set is so in one way only. -/
theorem fits_set_iff {negated : Bool} {inside behind : List Char}
    (hset : ClosedSet negated inside pattern behind) :
    Fits ('[' :: behind) text ↔ ∃ c rest, text = c :: rest ∧ (InSet c inside ↔ negated = false) ∧
      Fits pattern rest := by
  constructor
  · intro h
    cases h with
    | set hset' hc h =>
        have hsame := (splitSet?_eq_some_iff.mpr hset').symm.trans (splitSet?_eq_some_iff.mpr hset)
        cases hsame
        exact ⟨_, _, rfl, hc, h⟩
    | bracket hopen => exact absurd hset (hopen _ _ _)
    | literal _ _ hbracket => exact absurd rfl hbracket
  · rintro ⟨c, rest, rfl, hc, h⟩
    exact .set hset hc h

theorem fits_literal_iff {c : Char} (hstar : c ≠ '*') (hmark : c ≠ '?')
    (hbracket : c = '[' → ∀ negated inside rest, ¬ ClosedSet negated inside rest pattern) :
    Fits (c :: pattern) text ↔ ∃ d rest, text = d :: rest ∧ d = c ∧ Fits pattern rest := by
  constructor
  · intro h
    cases h with
    | star => exact absurd rfl hstar
    | anyChar => exact absurd rfl hmark
    | set hset => exact absurd hset (hbracket rfl _ _ _)
    | bracket _ h => exact ⟨_, _, rfl, rfl, h⟩
    | literal _ _ _ h => exact ⟨_, _, rfl, rfl, h⟩
  · rintro ⟨d, rest, rfl, rfl, h⟩
    by_cases hopen : d = '['
    · subst hopen
      exact .bracket (hbracket rfl) h
    · exact .literal hstar hmark hopen h

end

/-- Reading a pattern into items loses nothing, as long as there are characters left for them. -/
theorem covers_itemsWithin_iff {fuel : Nat} {pattern text : List Char}
    (h : pattern.length ≤ fuel) : Covers (itemsWithin fuel pattern) text ↔ Fits pattern text := by
  induction fuel generalizing pattern text with
  | zero =>
      cases List.length_eq_zero_iff.mp (Nat.le_zero.mp h)
      exact fits_nil_iff.symm
  | succ fuel ih =>
      cases pattern with
      | nil => exact fits_nil_iff.symm
      | cons c pattern =>
          have hpattern : pattern.length ≤ fuel := Nat.le_of_succ_le_succ h
          -- the cases of `itemsWithin`, each with the inversion of `Fits` for it
          by_cases hstar : c = '*'
          · subst hstar
            rw [fits_star_iff]
            simp only [itemsWithin, Covers, ih hpattern]
          by_cases hmark : c = '?'
          · subst hmark
            rw [fits_anyChar_iff]
            simp only [itemsWithin, Covers, Item.Takes, true_and, ih hpattern]
          by_cases hbracket : c = '['
          · subst hbracket
            cases hsplit : splitSet? pattern with
            | none =>
                have hopen (negated : Bool) (inside rest : List Char) :
                    ¬ ClosedSet negated inside rest pattern := fun hset => by
                  cases (splitSet?_eq_some_iff.mpr hset).symm.trans hsplit
                rw [fits_literal_iff hstar hmark fun _ => hopen]
                simp only [itemsWithin, hsplit, Covers, Item.Takes, ih hpattern]
            | some parts =>
                obtain ⟨⟨negated, inside⟩, rest⟩ := parts
                have hset := splitSet?_eq_some_iff.mp hsplit
                have hrest : rest.length ≤ fuel := by
                  have hlt := hset.length_lt
                  omega
                rw [fits_set_iff hset]
                simp only [itemsWithin, hsplit, Covers, Item.Takes, exists_mem_members_iff,
                  ih hrest]
          · rw [fits_literal_iff hstar hmark fun hc => absurd hc hbracket]
            have hitems : itemsWithin (fuel + 1) (c :: pattern) =
                .literal c :: itemsWithin fuel pattern := by
              rw [itemsWithin]
              all_goals assumption
            simp only [hitems, Covers, Item.Takes, ih hpattern]

theorem covers_items_iff {pattern text : List Char} :
    Covers (items pattern) text ↔ Fits pattern text :=
  covers_itemsWithin_iff (Nat.le_refl _)

end Wildcard

end RecordQuery
