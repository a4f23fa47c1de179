import RecordQuery.Pattern.Cache
import RecordQuery.Proofs.Results

/-! # The patterns of a tree

A collected cache holds every pattern that a tree searches with, so evaluation
finds all of them and compiles none.  What it holds is what compilation gives,
and it is collected unless a pattern of the tree does not compile.
-/

namespace RecordQuery

namespace Expr

/-- The wildcard pattern on the right of a LIKE. -/
def wildcards (caseSensitive : Bool) : Comparison → Expr → List Pattern
  | .like, .string raw => [PatternCache.wildcardOf caseSensitive raw]
  | _, _ => []

mutual

/-- The patterns that a tree searches with. -/
def patterns (caseSensitive : Bool) : Expr → List Pattern
  | .regexp raw => [.regexp (Literal.regexpSource raw)]
  | .array items => itemPatterns caseSensitive items
  | .not operand => patterns caseSensitive operand
  | .comparison op left right =>
      wildcards caseSensitive op right ++
        (patterns caseSensitive left ++ patterns caseSensitive right)
  | .logical _ left right => patterns caseSensitive left ++ patterns caseSensitive right
  | _ => []

def itemPatterns (caseSensitive : Bool) : List Expr → List Pattern
  | [] => []
  | item :: items => patterns caseSensitive item ++ itemPatterns caseSensitive items

end

end Expr

namespace PatternCache

def Holds (cache : PatternCache) (pattern : Pattern) : Prop :=
  (cache.find? pattern).isSome = true

theorem Holds.exists_get {cache : PatternCache} {pattern : Pattern} (h : cache.Holds pattern) :
    ∃ regex, cache.get pattern = .ok regex := by
  obtain ⟨regex, hregex⟩ := Option.isSome_iff_exists.mp h
  exact ⟨regex, by rw [get, hregex]⟩

/-- Every regular expression in the cache is the one that its pattern compiles to. -/
def Sound (cache : PatternCache) : Prop :=
  ∀ pattern regex, cache.find? pattern = some regex →
    pattern.compile cache.caseSensitive = .ok regex

theorem sound_empty (caseSensitive : Bool) : (empty caseSensitive).Sound := by
  intro pattern regex h
  cases h

/-- A sound cache answers as compilation does. -/
theorem Sound.get_eq_compile {cache : PatternCache} (h : cache.Sound) (pattern : Pattern) :
    cache.get pattern = pattern.compile cache.caseSensitive := by
  rw [get]
  cases hfind : cache.find? pattern with
  | none => rfl
  | some regex => exact (h pattern regex hfind).symm

/-- From one cache the other is filled with the given patterns. -/
structure Adds (cache cache' : PatternCache) (patterns : List Pattern) : Prop where
  caseSensitive : cache'.caseSensitive = cache.caseSensitive
  keeps : ∀ pattern, cache.Holds pattern → cache'.Holds pattern
  holds : ∀ pattern ∈ patterns, cache'.Holds pattern
  sound : cache.Sound → cache'.Sound

namespace Adds

variable {cache cache' cache'' : PatternCache} {patterns patterns' : List Pattern}

theorem refl (cache : PatternCache) : Adds cache cache [] :=
  ⟨rfl, fun _ => id, List.forall_mem_nil _, id⟩

theorem trans (h : Adds cache cache' patterns) (h' : Adds cache' cache'' patterns') :
    Adds cache cache'' (patterns ++ patterns') where
  caseSensitive := h'.caseSensitive.trans h.caseSensitive
  keeps pattern hpattern := h'.keeps pattern (h.keeps pattern hpattern)
  holds := List.forall_mem_append.mpr ⟨fun pattern hpattern =>
    h'.keeps pattern (h.holds pattern hpattern), h'.holds⟩
  sound hsound := h'.sound (h.sound hsound)

end Adds

variable {cache cache' : PatternCache}

theorem insert_adds {pattern : Pattern} (h : cache.insert pattern = .ok cache') :
    Adds cache cache' [pattern] := by
  unfold insert at h
  cases hfind : cache.find? pattern with
  | some regex =>
      rw [hfind] at h
      cases h
      exact ⟨rfl, fun _ => id, by simp [Holds, hfind], id⟩
  | none =>
      rw [hfind] at h
      obtain ⟨regex, hregex, hcache⟩ := bind_eq_ok h
      cases hcache
      refine ⟨rfl, fun other hother => ?keeps, by simp [Holds, find?], fun hsound => ?sound⟩
      case keeps =>
        simp only [Holds, find?, List.find?_cons, Option.isSome_map] at hother ⊢
        split
        · rfl
        · exact hother
      case sound =>
        intro other found hfound
        simp only [find?, List.find?_cons] at hfound
        split at hfound
        · rename_i hsame
          cases of_decide_eq_true hsame
          cases hfound
          exact hregex
        · exact hsound other found hfound

theorem adds_of_foldlM {patterns : List Pattern} (h : patterns.foldlM insert cache = .ok cache') :
    Adds cache cache' patterns := by
  induction patterns generalizing cache with
  | nil =>
      cases h
      exact .refl _
  | cons pattern patterns ih =>
      rw [List.foldlM_cons] at h
      obtain ⟨first, hfirst, hrest⟩ := bind_eq_ok h
      exact (insert_adds hfirst).trans (ih hrest)

theorem insertWildcard_eq_foldlM (cache : PatternCache) (op : Comparison) (right : Expr) :
    cache.insertWildcard op right =
      (Expr.wildcards cache.caseSensitive op right).foldlM insert cache := by
  unfold insertWildcard
  split
  · exact (bind_pure _).symm
  · rename_i hnot
    unfold Expr.wildcards
    split
    · exact absurd rfl (hnot _ rfl)
    · rfl

mutual

/-- The patterns of a tree are put in one by one; no step changes whether case counts. -/
theorem addTree_eq_foldlM (cache : PatternCache) (tree : Expr) :
    cache.addTree tree = (tree.patterns cache.caseSensitive).foldlM insert cache := by
  match tree with
  | .regexp raw => exact (bind_pure _).symm
  | .array items => exact addItems_eq_foldlM cache items
  | .not operand =>
      rw [addTree, Expr.patterns]
      exact addTree_eq_foldlM cache operand
  | .comparison op left right =>
      rw [addTree, Expr.patterns, List.foldlM_append, insertWildcard_eq_foldlM]
      apply bind_congr_ok
      intro first hfirst
      rw [List.foldlM_append, addTree_eq_foldlM first left, (adds_of_foldlM hfirst).caseSensitive]
      apply bind_congr_ok
      intro second hsecond
      rw [addTree_eq_foldlM second right, (adds_of_foldlM hsecond).caseSensitive,
        (adds_of_foldlM hfirst).caseSensitive]
  | .logical op left right =>
      rw [addTree, Expr.patterns, List.foldlM_append, addTree_eq_foldlM cache left]
      apply bind_congr_ok
      intro first hfirst
      rw [addTree_eq_foldlM first right, (adds_of_foldlM hfirst).caseSensitive]
  | .number _ | .boolean _ | .null | .now | .string _ | .field _ => rfl

theorem addItems_eq_foldlM (cache : PatternCache) (items : List Expr) :
    cache.addItems items = (Expr.itemPatterns cache.caseSensitive items).foldlM insert cache := by
  match items with
  | [] => rfl
  | item :: items =>
      rw [addItems, Expr.itemPatterns, List.foldlM_append, addTree_eq_foldlM cache item]
      apply bind_congr_ok
      intro first hfirst
      rw [addItems_eq_foldlM first items, (adds_of_foldlM hfirst).caseSensitive]

end

theorem addTree_adds {tree : Expr} (h : cache.addTree tree = .ok cache') :
    Adds cache cache' (tree.patterns cache.caseSensitive) := by
  rw [addTree_eq_foldlM] at h
  exact adds_of_foldlM h

/-- A collected cache holds all patterns of its tree. -/
theorem holds_of_collect {caseSensitive : Bool} {tree : Expr}
    (h : collect caseSensitive tree = .ok cache) :
    ∀ pattern ∈ tree.patterns caseSensitive, cache.Holds pattern :=
  (addTree_adds h).holds

theorem holds_of_insert {pattern other : Pattern} (h : cache.insert pattern = .ok cache')
    (hother : cache'.Holds other) : cache.Holds other ∨ other = pattern := by
  unfold insert at h
  cases hfind : cache.find? pattern with
  | some regex =>
      rw [hfind] at h
      cases h
      exact Or.inl hother
  | none =>
      rw [hfind] at h
      obtain ⟨regex, -, hcache⟩ := bind_eq_ok h
      cases hcache
      by_cases hsame : pattern = other
      · exact Or.inr hsame.symm
      · left
        simpa [Holds, find?, List.find?_cons, hsame] using hother

theorem holds_of_foldlM {patterns : List Pattern} {pattern : Pattern}
    (h : patterns.foldlM insert cache = .ok cache') (hpattern : cache'.Holds pattern) :
    cache.Holds pattern ∨ pattern ∈ patterns := by
  induction patterns generalizing cache with
  | nil =>
      cases h
      exact Or.inl hpattern
  | cons first patterns ih =>
      rw [List.foldlM_cons] at h
      obtain ⟨next, hfirst, hrest⟩ := bind_eq_ok h
      rcases ih hrest with hnext | hmem
      · rw [List.mem_cons, ← or_assoc]
        exact Or.inl (holds_of_insert hfirst hnext)
      · exact Or.inr (List.mem_cons_of_mem first hmem)

/-- A collected cache holds the patterns of its tree, and no others. -/
theorem holds_collect_iff {caseSensitive : Bool} {tree : Expr} {pattern : Pattern}
    (h : collect caseSensitive tree = .ok cache) :
    cache.Holds pattern ↔ pattern ∈ tree.patterns caseSensitive := by
  refine ⟨fun hpattern => ?_, holds_of_collect h pattern⟩
  rw [collect, addTree_eq_foldlM] at h
  rcases holds_of_foldlM h hpattern with hempty | hmem
  · cases hempty
  · exact hmem

theorem holds_iff_exists_entry {pattern : Pattern} :
    cache.Holds pattern ↔ ∃ entry ∈ cache.compiled, entry.1 = pattern := by
  simp [Holds, find?]

/-! ## Patterns that do not compile -/

def Fails (caseSensitive : Bool) (patterns : List Pattern) : Prop :=
  ∃ pattern ∈ patterns, ∃ invalid, pattern.compile caseSensitive = .error invalid

section

variable {caseSensitive : Bool} {patterns patterns' : List Pattern}

theorem Fails.left (h : Fails caseSensitive patterns) :
    Fails caseSensitive (patterns ++ patterns') := by
  obtain ⟨pattern, hpattern, hinvalid⟩ := h
  exact ⟨pattern, List.mem_append_left _ hpattern, hinvalid⟩

theorem Fails.right (h : Fails caseSensitive patterns') :
    Fails caseSensitive (patterns ++ patterns') := by
  obtain ⟨pattern, hpattern, hinvalid⟩ := h
  exact ⟨pattern, List.mem_append_right _ hpattern, hinvalid⟩

theorem insert_fails {pattern : Pattern} {invalid : Pattern.Invalid}
    (h : cache.insert pattern = .error invalid) : Fails cache.caseSensitive [pattern] := by
  unfold insert at h
  split at h
  · cases h
  · rcases bind_eq_error_iff.mp h with hcompile | ⟨regex, -, hcache⟩
    · exact ⟨pattern, List.mem_singleton_self _, invalid, hcompile⟩
    · cases hcache

theorem fails_of_foldlM {invalid : Pattern.Invalid}
    (h : patterns.foldlM insert cache = .error invalid) : Fails cache.caseSensitive patterns := by
  induction patterns generalizing cache with
  | nil => cases h
  | cons pattern patterns ih =>
      rw [List.foldlM_cons] at h
      rcases bind_eq_error_iff.mp h with hfirst | ⟨first, hfirst, hrest⟩
      · exact (insert_fails hfirst).left
      · have hright : Fails first.caseSensitive ([pattern] ++ patterns) := (ih hrest).right
        rwa [(insert_adds hfirst).caseSensitive] at hright

end

theorem addTree_fails {tree : Expr} {invalid : Pattern.Invalid}
    (h : cache.addTree tree = .error invalid) :
    Fails cache.caseSensitive (tree.patterns cache.caseSensitive) := by
  rw [addTree_eq_foldlM] at h
  exact fails_of_foldlM h

/-- Collection fails exactly if a pattern of the tree does not compile. -/
theorem collect_eq_error_iff {caseSensitive : Bool} {tree : Expr} :
    (∃ invalid, collect caseSensitive tree = .error invalid) ↔
      Fails caseSensitive (tree.patterns caseSensitive) := by
  constructor
  · rintro ⟨invalid, h⟩
    exact addTree_fails h
  · rintro ⟨pattern, hpattern, invalid, hinvalid⟩
    cases h : collect caseSensitive tree with
    | error other => exact ⟨other, rfl⟩
    | ok cache =>
        have hadds := addTree_adds h
        obtain ⟨regex, hregex⟩ := Option.isSome_iff_exists.mp (hadds.holds pattern hpattern)
        have hcompile := hadds.sound (sound_empty caseSensitive) pattern regex hregex
        rw [hadds.caseSensitive] at hcompile
        cases hinvalid.symm.trans hcompile

end PatternCache

end RecordQuery
