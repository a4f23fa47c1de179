import RecordQuery.Json.Reader

/-! # Containers

Arrays and objects are read by the same loop: the items stand between commas, up to the
character that closes the container.
-/

namespace RecordQuery

namespace Json

/-- Where the next item of a container starts: behind its opening, or behind a comma. -/
def itemStart (close : Char) (first : Bool) (c : Char) (rest : List Char) :
    Except Fault (List Char) :=
  if first then .ok (c :: rest)
  else if c = ',' then
    match skipBlank rest with
    | [] => .error .unfinished
    | d :: behind => if d = close then .error .malformed else .ok (d :: behind)
  else .error .malformed

/-- The rest of a container with the items that the reader reads. -/
def containerRest {α : Type} (close : Char) (reader : Reader α) : Nat → Bool → Reader (List α)
  | 0, _, _ => .error .unfinished
  | fuel + 1, first, cs =>
      match skipBlank cs with
      | [] => .error .unfinished
      | c :: rest =>
          if c = close then .ok ([], rest)
          else
            itemStart close first c rest >>= fun start =>
              reader start >>= fun found =>
                containerRest close reader fuel false found.2 >>= fun others =>
                  .ok (found.1 :: others.1, others.2)

section

variable {item : Reader Json}

theorem arrayRest_eq : arrayRest item = containerRest ']' item := by
  funext fuel first cs
  induction fuel generalizing first cs with
  | zero => rfl
  | succ fuel ih =>
      rw [arrayRest, containerRest]
      simp only [ih]
      cases skipBlank cs with
      | nil => rfl
      | cons c rest =>
          dsimp only
          split <;> rename_i heq
          · contradiction
          · cases heq
            rfl
          rename_i hclose
          cases heq
          rw [if_neg hclose]
          unfold itemStart
          split
          · rfl
          split
          · cases skipBlank rest with
            | nil => rfl
            | cons d behind =>
                dsimp only
                split
                · contradiction
                · rename_i heq
                  cases heq
                  rfl
                · rename_i hd
                  rw [if_neg fun h => hd behind (by rw [h])]
          · rfl

/-- What starts with no quote is no entry. -/
theorem entry_cons_of_ne {c : Char} (hc : c ≠ '"') (cs : List Char) :
    entry item (c :: cs) = .error .malformed :=
  entry.eq_2 _ _ fun _ h => hc (List.cons.inj h).1

theorem objectRest_eq : objectRest item = containerRest '\x7d' (entry item) := by
  funext fuel first cs
  induction fuel generalizing first cs with
  | zero => rfl
  | succ fuel ih =>
      rw [objectRest, containerRest]
      simp only [ih]
      cases skipBlank cs with
      | nil => rfl
      | cons c rest =>
          dsimp only
          split <;> rename_i heq
          · contradiction
          · cases heq
            rfl
          rename_i hclose
          cases heq
          rw [if_neg hclose]
          unfold itemStart
          split
          · rfl
          split
          · cases skipBlank rest with
            | nil => rfl
            | cons d behind =>
                dsimp only
                split
                · rename_i hd
                  rw [hd]
                  simp only [bind, Except.bind]
                  rw [entry_cons_of_ne (by decide)]
                · rfl
          · rfl

end

end Json

end RecordQuery
