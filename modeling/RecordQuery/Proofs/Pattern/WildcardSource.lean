import Mathlib
import RecordQuery.Pattern.Cache

/-! # Reading the source of a wildcard pattern

The regular expression of a pattern is written as text and read again.  Every
character that would be read otherwise is escaped, so each item is read as the
expression for one character of a set or for any text, whatever stands around
it, and no item opens a class, a group or a repetition of its own.
-/

namespace RecordQuery

namespace Wildcard

open Regex

/-! ## Escaped characters -/

/-- How an escaped character may begin: with a backslash, or with one that needs none. -/
def IsPlain (c : Char) : Prop :=
  c = '\\' ∨ c ∉ specialChars

theorem IsPlain.ne {c d : Char} (h : IsPlain c) (hd : d ∈ specialChars) (hslash : d ≠ '\\') :
    c ≠ d := by
  rintro rfl
  exact h.elim hslash fun hnot => hnot hd

theorem IsPlain.cons_ne {c d : Char} (h : IsPlain c) (hd : d ∈ specialChars) (hslash : d ≠ '\\')
    (cs ds : List Char) : c :: cs ≠ d :: ds := fun heq =>
  h.ne hd hslash (List.cons.inj heq).1

theorem exists_head_escapeChar (c : Char) (rest : List Char) :
    ∃ head tail, escapeChar c ++ rest = head :: tail ∧ IsPlain head := by
  unfold escapeChar
  by_cases hc : specialChars.contains c = true
  · rw [if_pos hc]
    exact ⟨'\\', c :: rest, rfl, Or.inl rfl⟩
  · rw [if_neg hc]
    exact ⟨c, rest, rfl, Or.inr (by simpa using hc)⟩

theorem escape_special (flags : Flags) {c : Char} (hc : c ∈ specialChars) (rest : List Char) :
    escape flags (c :: rest) = some (.literal c, rest) := by
  simp only [specialChars, List.mem_cons, List.not_mem_nil, or_false] at hc
  rcases hc with rfl | rfl | rfl | rfl | rfl | rfl | rfl | rfl | rfl | rfl | rfl | rfl | rfl |
    rfl | rfl | rfl | rfl | rfl <;> rfl

theorem classPrimitive_escapeChar (flags : Flags) (c : Char) (rest : List Char) :
    classPrimitive flags (escapeChar c ++ rest) = some (.literal c, rest) := by
  unfold escapeChar
  by_cases hc : specialChars.contains c = true
  · rw [if_pos hc]
    exact escape_special flags (by simpa using hc) rest
  · rw [if_neg hc]
    have hslash : c ≠ '\\' := by
      rintro rfl
      exact hc (by decide)
    show classPrimitive flags (c :: rest) = _
    unfold classPrimitive
    split
    · rename_i h
      cases h
    · rename_i h
      exact absurd (List.cons.inj h).1 hslash
    · rename_i h
      cases h
      rfl

/-! ## Sets -/

/-- The modes inside the group: a point stands for a line feed, too. -/
def groupFlags (ignoreCase : Bool) : Flags :=
  { Flags.initial ignoreCase with dotAll := true }

/-- A set as it stands for characters: closed under letter case where case is ignored. -/
def caseSet (ignoreCase : Bool) (s : CharSet) : CharSet :=
  if ignoreCase then .anyCase s else s

/-- The set of a member; a range in the wrong order has none. -/
def Member.charSet? : Member → Option CharSet
  | .single c => some (.single c)
  | .range first last => if first ≤ last then some (.range first last) else none

section

variable {ignoreCase : Bool}

theorem skip_groupFlags (cs : List Char) : skip (groupFlags ignoreCase) cs = cs := rfl

theorem closeSet_groupFlags (negated : Bool) (s : CharSet) :
    closeSet (groupFlags ignoreCase) negated s =
      some (if negated then .complement (caseSet ignoreCase s) else caseSet ignoreCase s) := by
  cases ignoreCase <;> cases negated <;> rfl

theorem classRange_single (c : Char) {next : Char} (hnext : next ≠ '-') (rest : List Char) :
    classRange (groupFlags ignoreCase) (escapeChar c ++ next :: rest) =
      some (.single c, next :: rest) := by
  unfold classRange
  rw [classPrimitive_escapeChar]
  simp only [Option.bind_eq_bind, Option.bind_some, skip_groupFlags]
  split
  · rename_i h
    cases h
  · rename_i h
    exact absurd (List.cons.inj h).1 hnext
  · rfl

theorem classRange_range {first last : Char} (hle : first ≤ last) (rest : List Char) :
    classRange (groupFlags ignoreCase) (escapeChar first ++ '-' :: (escapeChar last ++ rest)) =
      some (.range first last, rest) := by
  obtain ⟨head, tail, hlast, hplain⟩ := exists_head_escapeChar last rest
  have hhead : ¬ (head = ']' ∨ head = '-') := not_or.mpr
    ⟨hplain.ne (by decide) (by decide), hplain.ne (by decide) (by decide)⟩
  have hprimitive := classPrimitive_escapeChar (groupFlags ignoreCase) last rest
  unfold classRange
  rw [classPrimitive_escapeChar, hlast]
  rw [hlast] at hprimitive
  show (if head = ']' ∨ head = '-' then _ else _) = _
  rw [if_neg hhead]
  show (classPrimitive (groupFlags ignoreCase) (head :: tail) >>= _) = _
  rw [hprimitive]
  show (if first ≤ last then _ else _) = _
  rw [if_pos hle]
  rfl

/-- In front of a plain character no class starts or ends, and no operation stands there. -/
theorem classBody_plain {head : Char} (hhead : IsPlain head) (tail : List Char) (fuel : Nat)
    (current : OpenClass) :
    classBody (groupFlags ignoreCase) (fuel + 1) current [] (head :: tail) =
      (classRange (groupFlags ignoreCase) (head :: tail) >>= fun read =>
        classBody (groupFlags ignoreCase) fuel (current.add read.1 0) [] read.2) := by
  have hop : classOp? (head :: tail) = none := by
    unfold classOp?
    split
    · rename_i h
      exact absurd h (hhead.cons_ne (by decide) (by decide) _ _)
    · rename_i h
      exact absurd h (hhead.cons_ne (by decide) (by decide) _ _)
    · rename_i h
      exact absurd h (hhead.cons_ne (by decide) (by decide) _ _)
    · rfl
  rw [classBody, skip_groupFlags]
  split
  · rename_i h
    cases h
  · rename_i h
    exact absurd h (hhead.cons_ne (by decide) (by decide) _ _)
  · rename_i h
    exact absurd h (hhead.cons_ne (by decide) (by decide) _ _)
  · rw [hop]

def addSets (current : OpenClass) (sets : List CharSet) : OpenClass :=
  { current with items := (sets.map fun s => ⟨s, 0⟩).reverse ++ current.items }

theorem addSets_cons (current : OpenClass) (s : CharSet) (sets : List CharSet) :
    addSets (current.add s 0) sets = addSets current (s :: sets) := by
  simp [addSets, OpenClass.add]

theorem source_eq_nil_iff {member : Member} : member.source = [] ↔ member.charSet? = none := by
  have hescape (c : Char) : escapeChar c ≠ [] := by
    unfold escapeChar
    split <;> exact List.cons_ne_nil _ _
  cases member with
  | single c => simp [Member.source, Member.charSet?, hescape]
  | range first last =>
      rw [Member.source, Member.charSet?]
      split <;> simp

theorem exists_head_source {member : Member} {s : CharSet} (hset : member.charSet? = some s)
    (rest : List Char) :
    ∃ head tail, member.source ++ rest = head :: tail ∧ IsPlain head := by
  cases member with
  | single c => exact exists_head_escapeChar c rest
  | range first last =>
      rw [Member.charSet?] at hset
      split at hset
      · rename_i hle
        rw [Member.source, if_pos hle, List.append_assoc]
        exact exists_head_escapeChar first _
      · cases hset

theorem exists_head_members {members : List Member}
    (hmembers : members.flatMap Member.source ≠ []) (rest : List Char) :
    ∃ head tail, members.flatMap Member.source ++ rest = head :: tail ∧ IsPlain head := by
  induction members with
  | nil => exact absurd rfl hmembers
  | cons member members ih =>
      rw [List.flatMap_cons] at hmembers ⊢
      cases hset : member.charSet? with
      | none =>
          rw [source_eq_nil_iff.mpr hset, List.nil_append] at hmembers ⊢
          exact ih hmembers
      | some s =>
          rw [List.append_assoc]
          exact exists_head_source hset _

/-- What follows a member is no hyphen, which would make a range of it. -/
theorem exists_next_members (members : List Member) (rest : List Char) :
    ∃ next tail, members.flatMap Member.source ++ ']' :: rest = next :: tail ∧ next ≠ '-' := by
  by_cases hmembers : members.flatMap Member.source = []
  · exact ⟨']', rest, by rw [hmembers]; rfl, by decide⟩
  · obtain ⟨head, tail, heq, hplain⟩ := exists_head_members hmembers (']' :: rest)
    exact ⟨head, tail, heq, hplain.ne (by decide) (by decide)⟩

theorem classRange_member {member : Member} {s : CharSet} (hset : member.charSet? = some s)
    {next : Char} (hnext : next ≠ '-') (rest : List Char) :
    classRange (groupFlags ignoreCase) (member.source ++ next :: rest) =
      some (s, next :: rest) := by
  cases member with
  | single c =>
      cases hset
      exact classRange_single c hnext rest
  | range first last =>
      rw [Member.charSet?] at hset
      split at hset
      · rename_i hle
        cases hset
        rw [Member.source, if_pos hle, List.append_assoc]
        exact classRange_range hle (next :: rest)
      · cases hset

/-- Each member is read as its own set, and one without a set leaves no trace. -/
theorem classBody_members (members : List Member) (current : OpenClass) (rest : List Char) :
    ∃ steps, steps ≤ (members.flatMap Member.source).length ∧ ∀ fuel,
      classBody (groupFlags ignoreCase) (fuel + steps) current []
          (members.flatMap Member.source ++ ']' :: rest) =
        classBody (groupFlags ignoreCase) fuel
          (addSets current (members.filterMap Member.charSet?)) [] (']' :: rest) := by
  induction members generalizing current with
  | nil => exact ⟨0, Nat.le_refl _, fun fuel => rfl⟩
  | cons member members ih =>
      rw [List.flatMap_cons]
      cases hset : member.charSet? with
      | none =>
          -- a range in the wrong order is not written at all
          rw [source_eq_nil_iff.mpr hset, List.nil_append, List.filterMap_cons_none hset]
          exact ih current
      | some s =>
          obtain ⟨next, tail, htail, hnext⟩ := exists_next_members members rest
          obtain ⟨head, source, hsource, hplain⟩ := exists_head_source hset (next :: tail)
          have hread := @classRange_member ignoreCase _ _ hset next hnext tail
          obtain ⟨steps, hsteps, hbody⟩ := ih (current.add s 0)
          have hpos : 0 < member.source.length := List.length_pos_iff.mpr fun hnil => by
            cases (source_eq_nil_iff.mp hnil).symm.trans hset
          refine ⟨steps + 1, ?_, fun fuel => ?_⟩
          · rw [List.length_append]
            omega
          · rw [hsource] at hread
            rw [List.append_assoc, htail, hsource, ← Nat.add_assoc, classBody_plain hplain, hread]
            show classBody _ _ (current.add s 0) [] (next :: tail) = _
            rw [← htail, hbody, addSets_cons, List.filterMap_cons_some hset]

/-- The class of the characters that are in one of the sets, or in none of them. -/
def classOf (ignoreCase negated : Bool) (sets : List CharSet) : ClassPart :=
  let whole := ClassPart.union (sets.map fun s => ⟨s, 0⟩).reverse
  let s := caseSet ignoreCase whole.set
  ⟨if negated then .complement s else s, whole.depth + 1⟩

theorem classBody_close (negated : Bool) (sets : List CharSet) (fuel : Nat) (rest : List Char) :
    classBody (groupFlags ignoreCase) (fuel + 1) (addSets ⟨negated, none, []⟩ sets) []
        (']' :: rest) = some (classOf ignoreCase negated sets, rest) := by
  rw [classBody, skip_groupFlags]
  simp only [OpenClass.combined, addSets, List.append_nil]
  show (closeSet (groupFlags ignoreCase) negated _ >>= _) = _
  rw [closeSet_groupFlags]
  rfl

/-- Neither a circumflex nor a hyphen nor a bracket of the members is taken for itself. -/
theorem classStart_plain {head : Char} (hhead : IsPlain head) (negated : Bool) (tail : List Char) :
    classStart (groupFlags ignoreCase) ((if negated then ['^'] else []) ++ head :: tail) =
      some (⟨negated, none, []⟩, head :: tail) := by
  have hhyphens (fuel : Nat) : leadingHyphens (groupFlags ignoreCase) (fuel + 1)
      ⟨negated, none, []⟩ (head :: tail) = some (⟨negated, none, []⟩, head :: tail) := by
    rw [leadingHyphens, if_neg (hhead.ne (by decide) (by decide))]
  have hclose := hhead.cons_ne (d := ']') (by decide) (by decide) tail
  -- read by the simplifier where it passes over the branch for a circumflex
  have hcaret := hhead.cons_ne (d := '^') (by decide) (by decide) tail
  unfold classStart
  cases negated
  all_goals
    simp only [skip_groupFlags, if_true, Bool.false_eq_true, if_false, List.cons_append,
      List.nil_append, hhyphens, Option.bind_eq_bind, Option.bind_some]
    split
    · rename_i h
      exact absurd h (hclose _)
    · rfl

theorem flatMap_source_eq_nil_iff {members : List Member} :
    members.flatMap Member.source = [] ↔ members.filterMap Member.charSet? = [] := by
  rw [List.flatMap_eq_nil_iff, List.filterMap_eq_nil_iff]
  simp only [source_eq_nil_iff]

/-- A class with members in it is read as the union of their sets. -/
theorem bracketed_members {members : List Member}
    (hmembers : members.flatMap Member.source ≠ []) (negated : Bool) (rest : List Char) :
    bracketed (groupFlags ignoreCase) ((if negated then ['^'] else []) ++
        (members.flatMap Member.source ++ ']' :: rest)) =
      some (classOf ignoreCase negated (members.filterMap Member.charSet?), rest) := by
  obtain ⟨head, tail, htext, hplain⟩ := exists_head_members hmembers (']' :: rest)
  obtain ⟨steps, hsteps, hbody⟩ :=
    @classBody_members ignoreCase members ⟨negated, none, []⟩ rest
  -- the fuel is the length of the text, which no reading of the members uses up
  obtain ⟨fuel, hfuel⟩ : ∃ fuel, ((if negated then ['^'] else []) ++
      (members.flatMap Member.source ++ ']' :: rest)).length + 1 = fuel + 1 + steps := by
    refine ⟨((if negated then ['^'] else []) ++
      (members.flatMap Member.source ++ ']' :: rest)).length - steps, ?_⟩
    simp only [List.length_append]
    omega
  unfold bracketed
  rw [hfuel, htext, classStart_plain hplain, ← htext]
  show classBody (groupFlags ignoreCase) (fuel + 1 + steps) ⟨negated, none, []⟩ []
    (members.flatMap Member.source ++ ']' :: rest) = _
  rw [hbody, classBody_close]

/-- The class that is written for a set without members, which every character is out of. -/
theorem bracketed_empty (rest : List Char) :
    bracketed (groupFlags ignoreCase) ("^\\x00-\\x\x7b10FFFF\x7d]".toList ++ rest) =
      some (classOf ignoreCase true [.range '\x00' (Char.ofNat 0x10FFFF)], rest) := by
  cases ignoreCase <;> rfl

/-! ## Items -/

def classNested (part : ClassPart) : Nested :=
  ⟨.chars part.set, part.depth⟩

def setNested (ignoreCase : Bool) : Bool → List CharSet → Nested
  | true, [] => ⟨.chars .full, 0⟩
  | false, [] => classNested (classOf ignoreCase true [.range '\x00' (Char.ofNat 0x10FFFF)])
  | negated, sets => classNested (classOf ignoreCase negated sets)

def Item.nested (ignoreCase : Bool) : Item → Nested
  | .anyText => ⟨.repeated (.chars .full) 0 none, 1⟩
  | .anyChar => ⟨.chars .full, 0⟩
  | .set negated members => setNested ignoreCase negated (members.filterMap Member.charSet?)
  | .literal c => ⟨.chars (caseSet ignoreCase (.single c)), 0⟩

def addNodes (state : State) (nodes : List Nested) : State :=
  { state with
    level := { state.level with
      items := (nodes.map Regex.Item.node).reverse ++ state.level.items } }

theorem flags_addNodes (state : State) (nodes : List Nested) :
    (addNodes state nodes).level.flags = state.level.flags := rfl

theorem addNodes_append (state : State) (nodes nodes' : List Nested) :
    addNodes (addNodes state nodes) nodes' = addNodes state (nodes ++ nodes') := by
  simp [addNodes]

section

variable {state : State}

theorem run?_cons (hflags : state.level.flags = groupFlags ignoreCase) (fuel : Nat) (c : Char)
    (cs : List Char) :
    State.run? (fuel + 1) state (c :: cs) =
      (state.step? c cs >>= fun read => State.run? fuel read.1 read.2) := by
  rw [State.run?, hflags, skip_groupFlags]

theorem step?_literal (hflags : state.level.flags = groupFlags ignoreCase) {c : Char}
    (hc : c ∉ specialChars) (rest : List Char) :
    state.step? c rest = some (addNodes state [Item.nested ignoreCase (.literal c)], rest) := by
  unfold State.step?
  split
  all_goals first | exact absurd (by decide) hc | skip
  rw [hflags]
  cases ignoreCase <;> rfl

theorem step?_escaped (hflags : state.level.flags = groupFlags ignoreCase) {c : Char}
    (hc : c ∈ specialChars) (rest : List Char) :
    state.step? '\\' (c :: rest) =
      some (addNodes state [Item.nested ignoreCase (.literal c)], rest) := by
  unfold State.step?
  rw [hflags]
  show (escape (groupFlags ignoreCase) (c :: rest) >>= _) = _
  rw [escape_special _ hc]
  cases ignoreCase <;> rfl

theorem run?_escapeChar (hflags : state.level.flags = groupFlags ignoreCase) (c : Char)
    (rest : List Char) (fuel : Nat) :
    State.run? (fuel + 1) state (escapeChar c ++ rest) =
      State.run? fuel (addNodes state [Item.nested ignoreCase (.literal c)]) rest := by
  unfold escapeChar
  by_cases hc : specialChars.contains c = true
  · rw [if_pos hc]
    show State.run? (fuel + 1) state ('\\' :: c :: rest) = _
    rw [run?_cons hflags, step?_escaped hflags (by simpa using hc)]
    rfl
  · rw [if_neg hc]
    show State.run? (fuel + 1) state (c :: rest) = _
    rw [run?_cons hflags, step?_literal hflags (by simpa using hc)]
    rfl

theorem step?_point (hflags : state.level.flags = groupFlags ignoreCase) (rest : List Char) :
    state.step? '.' rest = some (addNodes state [⟨.chars .full, 0⟩], rest) := by
  unfold State.step?
  rw [hflags]
  cases ignoreCase <;> rfl

theorem step?_bracket (hflags : state.level.flags = groupFlags ignoreCase) {text rest : List Char}
    {part : ClassPart} (h : bracketed (groupFlags ignoreCase) text = some (part, rest)) :
    state.step? '[' text = some (addNodes state [classNested part], rest) := by
  unfold State.step?
  rw [hflags]
  show (bracketed (groupFlags ignoreCase) text >>= _) = _
  rw [h]
  rfl

theorem step?_star (node : Nested) {next : Char} (hnext : next ≠ '?') (rest : List Char) :
    (addNodes state [node]).step? '*' (next :: rest) =
      some (addNodes state [⟨.repeated node.regex 0 none, node.depth + 1⟩], next :: rest) := by
  have hlazy : skipLazy (next :: rest) = next :: rest := by
    unfold skipLazy
    split
    · rename_i h
      exact absurd (List.cons.inj h).1 hnext
    · rfl
  show ((addNodes state [node]).repeatLast? 0 none).map (·, skipLazy (next :: rest)) = _
  rw [hlazy]
  rfl

/-- A set is one step: a class, or a point where nothing is left out. -/
theorem run?_setSource (hflags : state.level.flags = groupFlags ignoreCase) (negated : Bool)
    (members : List Member) (rest : List Char) (fuel : Nat) :
    State.run? (fuel + 1) state (setSource negated members ++ rest) =
      State.run? fuel (addNodes state
        [setNested ignoreCase negated (members.filterMap Member.charSet?)]) rest := by
  by_cases hmembers : members.flatMap Member.source = []
  · rw [flatMap_source_eq_nil_iff.mp hmembers]
    unfold setSource
    rw [hmembers]
    cases negated with
    | true =>
        show State.run? (fuel + 1) state ('.' :: rest) = _
        rw [run?_cons hflags, step?_point hflags]
        rfl
    | false =>
        show State.run? (fuel + 1) state ('[' :: ("^\\x00-\\x\x7b10FFFF\x7d]".toList ++ rest)) = _
        rw [run?_cons hflags, step?_bracket hflags (bracketed_empty rest)]
        rfl
  · have hsource : setSource negated members ++ rest =
        '[' :: ((if negated then ['^'] else []) ++
          (members.flatMap Member.source ++ ']' :: rest)) := by
      obtain ⟨c, cs, hcons⟩ := List.exists_cons_of_ne_nil hmembers
      unfold setSource
      rw [hcons]
      cases negated <;> simp
    have hnested : setNested ignoreCase negated (members.filterMap Member.charSet?) =
        classNested (classOf ignoreCase negated (members.filterMap Member.charSet?)) := by
      obtain ⟨set, sets, hcons⟩ := List.exists_cons_of_ne_nil fun h =>
        hmembers (flatMap_source_eq_nil_iff.mpr h)
      rw [hcons]
      cases negated <;> rfl
    rw [hsource, hnested, run?_cons hflags,
      step?_bracket hflags (bracketed_members hmembers negated rest)]
    rfl

/-- An item is read on its own, in front of what does not make its repetition a lazy one. -/
theorem run?_item (hflags : state.level.flags = groupFlags ignoreCase) (item : Item)
    {next : Char} (hnext : next ≠ '?') (rest : List Char) :
    ∃ steps, steps ≤ item.source.length ∧ ∀ fuel,
      State.run? (fuel + steps) state (item.source ++ next :: rest) =
        State.run? fuel (addNodes state [item.nested ignoreCase]) (next :: rest) := by
  cases item with
  | anyText =>
      refine ⟨2, Nat.le_refl _, fun fuel => ?_⟩
      show State.run? (fuel + 1 + 1) state ('.' :: '*' :: next :: rest) = _
      rw [run?_cons hflags, step?_point hflags]
      show State.run? (fuel + 1) (addNodes state _) ('*' :: next :: rest) = _
      rw [run?_cons ((flags_addNodes _ _).trans hflags), step?_star _ hnext]
      rfl
  | anyChar =>
      refine ⟨1, Nat.le_refl _, fun fuel => ?_⟩
      show State.run? (fuel + 1) state ('.' :: next :: rest) = _
      rw [run?_cons hflags, step?_point hflags]
      rfl
  | set negated members =>
      refine ⟨1, ?_, fun fuel => run?_setSource hflags negated members _ fuel⟩
      show 1 ≤ (setSource negated members).length
      unfold setSource
      split <;> simp
  | literal c =>
      refine ⟨1, ?_, fun fuel => run?_escapeChar hflags c _ fuel⟩
      show 1 ≤ (escapeChar c).length
      unfold escapeChar
      split <;> simp

/-- No item starts with a question mark, which would make the repetition in front a lazy one. -/
theorem exists_next_items (items : List Item) (rest : List Char) :
    ∃ next tail, items.flatMap Item.source ++ ')' :: rest = next :: tail ∧ next ≠ '?' := by
  cases items with
  | nil => exact ⟨')', rest, rfl, by decide⟩
  | cons item items =>
      rw [List.flatMap_cons, List.append_assoc]
      cases item with
      | anyText => exact ⟨'.', _, rfl, by decide⟩
      | anyChar => exact ⟨'.', _, rfl, by decide⟩
      | set negated members =>
          rw [Item.source]
          unfold setSource
          split <;> exact ⟨_, _, rfl, by decide⟩
      | literal c =>
          obtain ⟨head, tail, heq, hplain⟩ :=
            exists_head_escapeChar c (items.flatMap Item.source ++ ')' :: rest)
          exact ⟨head, tail, heq, hplain.ne (by decide) (by decide)⟩

theorem run?_items (hflags : state.level.flags = groupFlags ignoreCase) (items : List Item)
    (rest : List Char) :
    ∃ steps, steps ≤ (items.flatMap Item.source).length ∧ ∀ fuel,
      State.run? (fuel + steps) state (items.flatMap Item.source ++ ')' :: rest) =
        State.run? fuel (addNodes state (items.map (Item.nested ignoreCase))) (')' :: rest) := by
  induction items generalizing state with
  | nil => exact ⟨0, Nat.le_refl _, fun fuel => rfl⟩
  | cons item items ih =>
      -- an item is read in front of the one behind it, whose first character is known
      obtain ⟨next, tail, htail, hnext⟩ := exists_next_items items rest
      obtain ⟨steps, hsteps, hitem⟩ := run?_item hflags item hnext tail
      obtain ⟨steps', hsteps', hitems⟩ :=
        ih ((flags_addNodes state [item.nested ignoreCase]).trans hflags)
      refine ⟨steps' + steps, ?_, fun fuel => ?_⟩
      · rw [List.flatMap_cons, List.length_append]
        omega
      · rw [List.flatMap_cons, List.append_assoc, htail, ← Nat.add_assoc, hitem, ← htail, hitems,
          addNodes_append]
        rfl

end

/-! ## Patterns -/

theorem depth_union_le {parts : List ClassPart} (h : ∀ part ∈ parts, part.depth = 0) :
    (ClassPart.union parts).depth ≤ 1 := by
  match parts with
  | [] => exact Nat.zero_le 1
  | [part] => exact (h part List.mem_cons_self).le.trans (Nat.zero_le 1)
  | first :: part :: parts =>
      refine List.foldlRecOn (motive := fun whole : ClassPart => whole.depth ≤ 1) (part :: parts) _
        (Nat.succ_le_succ (h first List.mem_cons_self).le) fun whole hwhole part hpart => ?_
      exact max_le hwhole (Nat.succ_le_succ (h part (List.mem_cons_of_mem _ hpart)).le)

theorem depth_sequence_le {items : List Regex.Item} {d : Nat}
    (h : ∀ item ∈ items, item.nested.depth ≤ d) : (sequence items).depth ≤ d + 1 := by
  match items with
  | [] => exact Nat.zero_le _
  | [item] => exact (h item List.mem_cons_self).trans (Nat.le_succ d)
  | last :: item :: items =>
      refine List.foldlRecOn (motive := fun behind : Nested => behind.depth ≤ d + 1)
        (item :: items) _ (Nat.succ_le_succ (h last List.mem_cons_self))
        fun behind hbehind item hitem => ?_
      exact max_le (Nat.succ_le_succ (h item (List.mem_cons_of_mem _ hitem))) hbehind

theorem depth_classOf_le (negated : Bool) (sets : List CharSet) :
    (classOf ignoreCase negated sets).depth ≤ 2 := by
  refine Nat.succ_le_succ (depth_union_le fun part hpart => ?_)
  obtain ⟨s, -, rfl⟩ := List.mem_map.mp (List.mem_reverse.mp hpart)
  rfl

theorem depth_nested_le (item : Item) : (item.nested ignoreCase).depth ≤ 2 := by
  cases item with
  | anyText => exact Nat.le_succ 1
  | anyChar => exact Nat.zero_le 2
  | set negated members =>
      -- the depth counts the union and the class around it, not the members
      show (setNested ignoreCase negated (members.filterMap Member.charSet?)).depth ≤ 2
      generalize members.filterMap Member.charSet? = sets
      match negated, sets with
      | true, [] => exact Nat.zero_le 2
      | false, [] => exact @depth_classOf_le ignoreCase true _
      | true, set :: sets => exact @depth_classOf_le ignoreCase true (set :: sets)
      | false, set :: sets => exact @depth_classOf_le ignoreCase false (set :: sets)
  | literal c => exact Nat.zero_le 2

def sequenceOf (ignoreCase : Bool) (items : List Item) : Nested :=
  sequence (items.map fun item => .node (item.nested ignoreCase)).reverse

theorem depth_sequenceOf_le (items : List Item) : (sequenceOf ignoreCase items).depth ≤ 3 := by
  refine depth_sequence_le fun item hitem => ?_
  obtain ⟨item, -, rfl⟩ := List.mem_map.mp (List.mem_reverse.mp hitem)
  exact depth_nested_le item

theorem toList_regexSource (pattern : String) :
    (regexSource pattern).toList = '^' :: '(' :: '?' :: 's' :: ':' ::
      ((items pattern.toList).flatMap Item.source ++ ')' :: ['$']) := by
  have hopen : "^(?s:".toList = ['^', '(', '?', 's', ':'] := rfl
  have hclose : ")$".toList = [')', '$'] := rfl
  have htext : (regexSource pattern).toList =
      "^(?s:".toList ++ (items pattern.toList).flatMap Item.source ++ ")$".toList :=
    String.toList_ofList
  rw [htext, hopen, hclose, List.append_assoc]
  rfl

/-- Inside the group, behind the assertion for the start of the text. -/
def groupState (ignoreCase : Bool) : State :=
  State.open ⟨(Level.start (.initial ignoreCase)).add (.look .textStart) 0, [], []⟩
    (groupFlags ignoreCase)

theorem run?_group (fuel : Nat) (rest : List Char) :
    State.run? (fuel + 2) ⟨.start (.initial ignoreCase), [], []⟩
        ('^' :: '(' :: '?' :: 's' :: ':' :: rest) =
      State.run? fuel (groupState ignoreCase) rest := by
  cases ignoreCase <;> rfl

theorem finish_groupState (nodes : List Nested) :
    (addNodes (groupState ignoreCase) nodes).level.finish =
      sequence (nodes.map Regex.Item.node).reverse := by
  simp [addNodes, groupState, State.open, Level.start, Level.finish, choice]

theorem run?_groupEnd (fuel : Nat) (items : List Item) :
    State.run? (fuel + 3) (addNodes (groupState ignoreCase) (items.map (Item.nested ignoreCase)))
        (')' :: ['$']) =
      some ⟨.seq (.look .textStart) (.seq (sequenceOf ignoreCase items).regex (.look .textEnd)),
        max 1 (max ((sequenceOf ignoreCase items).depth + 2) 1)⟩ := by
  have hinner : sequenceOf ignoreCase items = (addNodes (groupState ignoreCase)
      (items.map (Item.nested ignoreCase))).level.finish := by
    rw [finish_groupState, List.map_map]
    rfl
  rw [hinner]
  cases ignoreCase <;> rfl

/-- A pattern is read as its items between the start and the end of the text. -/
theorem parse?_regexSource (pattern : String) :
    parse? ignoreCase (regexSource pattern).toList =
      some (.seq (.look .textStart)
        (.seq (sequenceOf ignoreCase (items pattern.toList)).regex (.look .textEnd))) := by
  rw [toList_regexSource]
  generalize items pattern.toList = its
  obtain ⟨steps, hsteps, hitems⟩ :=
    @run?_items ignoreCase (groupState ignoreCase) rfl its ['$']
  obtain ⟨fuel, hfuel⟩ : ∃ fuel, ('^' :: '(' :: '?' :: 's' :: ':' ::
      (its.flatMap Item.source ++ ')' :: ['$'])).length + 1 = fuel + 3 + steps + 2 := by
    refine ⟨(its.flatMap Item.source).length - steps + 3, ?_⟩
    simp only [List.length_append, List.length_cons, List.length_nil]
    omega
  have hdepth : max 1 (max ((sequenceOf ignoreCase its).depth + 2) 1) ≤ depthLimit := by
    have hinner := @depth_sequenceOf_le ignoreCase its
    unfold depthLimit
    omega
  unfold parse?
  rw [hfuel, run?_group, hitems, run?_groupEnd]
  exact if_pos hdepth

end

end Wildcard

end RecordQuery
