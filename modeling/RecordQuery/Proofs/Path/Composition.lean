import RecordQuery.Proofs.Path.Walk

/-! # Paths and their continuations

Behind a separator of one character a path goes on as a path of its own.  What the
whole leads to is what the continuation leads to from each container that the first
part leads to, in their order.
-/

namespace RecordQuery

/-- Paths are split at one character, and may lead nowhere. -/
def PathOptions.splitAt (separator : Char) : PathOptions :=
  ⟨true, String.singleton separator, false⟩

namespace Path

/-! ## Segments -/

section

variable (separator : Char)

theorem splitFrom_append_cons (cs ds : List Char) :
    splitFrom [separator] 0 (cs ++ separator :: ds) =
      ((splitFrom [separator] 0 cs).1, (splitFrom [separator] 0 cs).2 ++
        (splitFrom [separator] 0 ds).1 :: (splitFrom [separator] 0 ds).2) := by
  induction cs with
  | nil => simp [splitFrom]
  | cons c cs ih =>
      rw [List.cons_append, splitFrom, splitFrom]
      by_cases hc : [separator].isPrefixOf (c :: cs) = true
      · have hc' : [separator].isPrefixOf (c :: (cs ++ separator :: ds)) = true := by
          simpa using hc
        rw [if_pos hc, if_pos hc', List.length_singleton, Nat.sub_self, ih]
        rfl
      · have hc' : ¬ [separator].isPrefixOf (c :: (cs ++ separator :: ds)) = true := by
          simpa using hc
        rw [if_neg hc, if_neg hc', ih]

theorem segments_splitAt (path : String) :
    segments (.splitAt separator) path =
      (String.ofList (splitFrom [separator] 0 path.toList).1,
        (splitFrom [separator] 0 path.toList).2.map String.ofList) := by
  have hnested : (PathOptions.splitAt separator).nested = true ∧
      (PathOptions.splitAt separator).separator ≠ "" := by
    simp [PathOptions.splitAt]
  rw [segments, if_pos hnested]
  simp [PathOptions.splitAt]

/-- The segments of a path with a continuation are those of both. -/
theorem segments_append (path continuation : String) :
    segments (.splitAt separator) (path ++ String.singleton separator ++ continuation) =
      ((segments (.splitAt separator) path).1, (segments (.splitAt separator) path).2 ++
        (segments (.splitAt separator) continuation).1 ::
          (segments (.splitAt separator) continuation).2) := by
  have htext : (path ++ String.singleton separator ++ continuation).toList =
      path.toList ++ separator :: continuation.toList := by
    simp
  simp only [segments_splitAt, htext, splitFrom_append_cons, List.map_append, List.map_cons]

end

/-! ## Walks -/

/-- A walk goes on behind its first segments from each container that these lead to. -/
theorem walk_append (v : Value) (first : String) (rest : List String) (next : String)
    (more : List String) :
    walk v (first :: rest ++ next :: more) =
      ((walk v (first :: rest)).filter (·.shape ≠ .scalar)).flatMap (walk · (next :: more)) := by
  induction rest generalizing v first with
  | nil => rfl
  | cons second rest ih =>
      rw [List.cons_append, List.cons_append, walk, walk, List.filter_flatMap,
        List.flatMap_assoc]
      exact List.flatMap_congr fun w _ => ih w second

/-! ## Resolution -/

theorem resolve?_splitAt (separator : Char) (v : Value) (path : String) :
    resolve? (.splitAt separator) v path = some (lookup (.splitAt separator) v path) := by
  rw [resolve?]
  exact if_neg fun h => Bool.false_ne_true h.1

/--
Resolution composes along a path.  A path that is continued behind the separator leads
to what its continuation leads to from each map or array at its end, one behind the
other and in the order of the document.
-/
theorem resolve?_append (separator : Char) (record : Value) (path continuation : String) :
    ∃ (reached : List Value) (further : Value → List Value),
      resolve? (.splitAt separator) record path = some reached ∧
      (∀ v, resolve? (.splitAt separator) v continuation = some (further v)) ∧
      resolve? (.splitAt separator) record
          (path ++ String.singleton separator ++ continuation) =
        some ((reached.filter (·.shape ≠ .scalar)).flatMap further) := by
  refine ⟨lookup (.splitAt separator) record path,
    fun v => lookup (.splitAt separator) v continuation, resolve?_splitAt _ _ _,
    fun v => resolve?_splitAt _ v _, ?_⟩
  rw [resolve?_splitAt, lookup_eq_walk, segments_append]
  simp only [lookup_eq_walk]
  exact congrArg some (walk_append _ _ _ _ _)

end Path

end RecordQuery
