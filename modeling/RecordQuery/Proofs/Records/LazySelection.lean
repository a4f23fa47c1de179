import RecordQuery.Proofs.Evaluation.Clock

/-! # Lazy selection

Each call takes records off the source up to the first one that matches or fails,
and no further.  Over any number of calls the records that match and the failures of
those that fail come out in the order of the source, each once.
-/

namespace RecordQuery

namespace Query

/-- What selection makes of a record: the record if it matches, or the failure if it fails. -/
def item? (query : Query) (now : Timestamp) (record : Value) : Option (Except QueryError Value) :=
  match query.matchesRecord now record with
  | .ok true => some (.ok record)
  | .ok false => none
  | .error error => some (.error error)

/-- Calls one after another, each at its own time: what it gives, and the records behind it. -/
def calls (query : Query) :
    List Timestamp → List Value → List (Option (Except QueryError Value) × List Value)
  | [], _ => []
  | now :: times, records =>
      let call := query.next now records
      call :: query.calls times call.2

theorem item?_of_not_usesNow {query : Query} (h : ¬ query.UsesNow) (now now' : Timestamp) :
    query.item? now = query.item? now' := by
  funext record
  rw [item?, item?, matchesRecord_of_not_usesNow h now now']

/-! ## One call -/

theorem next_cons (query : Query) (now : Timestamp) (record : Value) (records : List Value) :
    query.next now (record :: records) =
      match query.item? now record with
      | some item => (some item, records)
      | none => query.next now records := by
  rw [next, item?]
  rcases query.matchesRecord now record with _ | _ | _ <;> rfl

/-- A call gives the first item there is and leaves the records behind it, or uses up all. -/
theorem next_cases (query : Query) (now : Timestamp) (records : List Value) :
    (query.next now records = (none, []) ∧ records.filterMap (query.item? now) = []) ∨
      ∃ skipped record rest item, records = skipped ++ record :: rest ∧
        skipped.filterMap (query.item? now) = [] ∧ query.item? now record = some item ∧
        query.next now records = (some item, rest) := by
  induction records with
  | nil => exact Or.inl ⟨rfl, rfl⟩
  | cons record records ih =>
      rw [next_cons]
      cases hitem : query.item? now record with
      | some item => exact Or.inr ⟨[], record, records, item, rfl, rfl, hitem, rfl⟩
      | none =>
          rcases ih with ⟨hend, hnone⟩ | ⟨skipped, found, rest, item, rfl, hskipped, hrest⟩
          · exact Or.inl ⟨hend, by rw [List.filterMap_cons_none hitem, hnone]⟩
          · refine Or.inr ⟨record :: skipped, found, rest, item, rfl, ?_, hrest⟩
            rw [List.filterMap_cons_none hitem, hskipped]

/-! ## Many calls -/

def given (calls : List (Option (Except QueryError Value) × List Value)) :
    List (Except QueryError Value) :=
  calls.filterMap Prod.fst

theorem given_cons (call : Option (Except QueryError Value) × List Value)
    (calls : List (Option (Except QueryError Value) × List Value)) :
    given (call :: calls) = call.1.toList ++ given calls := by
  obtain ⟨_ | item, left⟩ := call <;> rfl

/--
Where a run of calls stands in its source: what it has taken off the source and what is
left, and what it has yielded, which is what selection makes of the records taken.
-/
structure Consumed (item? : Value → Option (Except QueryError Value)) (source : List Value)
    (yielded : List (Except QueryError Value)) (taken left : List Value) : Prop where
  source_eq : source = taken ++ left
  yielded_eq : yielded = taken.filterMap item?

/-- Where a call stops: right behind the record whose item it gives, or at the end. -/
structure Stops (item? : Value → Option (Except QueryError Value)) (source : List Value)
    (result : Option (Except QueryError Value)) (count : Nat) : Prop where
  at_record : ∀ item, result = some item →
    ∃ i record, count = i + 1 ∧ source[i]? = some record ∧ item? record = some item
  at_end : result = none → count = source.length

section

variable {query : Query} {item? : Value → Option (Except QueryError Value)} {now : Timestamp}
  {source taken left : List Value} {yielded : List (Except QueryError Value)}

/-- A call keeps to the source: no record is lost, yielded twice, or taken too early. -/
theorem Consumed.next (hitem? : query.item? now = item?)
    (h : Consumed item? source yielded taken left) :
    ∃ taken', Consumed item? source (yielded ++ (query.next now left).1.toList) taken'
        (query.next now left).2 ∧
      Stops item? source (query.next now left).1 taken'.length := by
  subst hitem?
  obtain ⟨rfl, rfl⟩ := h
  rcases next_cases query now left with
    ⟨hnext, hnone⟩ | ⟨skipped, record, rest, item, rfl, hskipped, hitem, hnext⟩
  · rw [hnext]
    refine ⟨taken ++ left, ⟨(List.append_nil _).symm, ?_⟩, nofun, fun _ => rfl⟩
    rw [List.filterMap_append, hnone]
    rfl
  · rw [hnext]
    refine ⟨taken ++ skipped ++ [record], ⟨?_, ?_⟩, fun item' hitem' => ?_, nofun⟩
    · simp only [List.append_assoc, List.singleton_append]
    · rw [List.filterMap_append, List.filterMap_append, hskipped, List.append_nil,
        List.filterMap_cons_some hitem]
      rfl
    · cases hitem'
      refine ⟨(taken ++ skipped).length, record, List.length_append, ?_, hitem⟩
      rw [← List.append_assoc, List.getElem?_append_right (le_refl _), Nat.sub_self,
        List.getElem?_cons_zero]

theorem calls_eq_cons {times : List Timestamp} {records : List Value}
    {call : Option (Except QueryError Value) × List Value}
    {later : List (Option (Except QueryError Value) × List Value)}
    (h : query.calls times records = call :: later) :
    ∃ now times', times = now :: times' ∧ query.next now records = call ∧
      query.calls times' call.2 = later := by
  cases times with
  | nil => cases h
  | cons now times =>
      cases h
      exact ⟨now, times, rfl, rfl, rfl⟩

/-- A run of calls keeps to the source, and so does the call it ends with. -/
theorem Consumed.calls {times : List Timestamp}
    {earlier later : List (Option (Except QueryError Value) × List Value)}
    {result : Option (Except QueryError Value)} {rest : List Value}
    (hitem? : ∀ now ∈ times, query.item? now = item?)
    (h : Consumed item? source yielded taken left)
    (hcalls : query.calls times left = earlier ++ (result, rest) :: later) :
    ∃ taken', Consumed item? source (yielded ++ given (earlier ++ [(result, rest)])) taken' rest ∧
      Stops item? source result taken'.length := by
  induction earlier generalizing times yielded taken left with
  | nil =>
      obtain ⟨now, times, rfl, hcall, -⟩ := calls_eq_cons hcalls
      have hstep := h.next (hitem? now List.mem_cons_self)
      rw [hcall] at hstep
      rwa [List.nil_append, given_cons, given, List.filterMap_nil, List.append_nil]
  | cons call earlier ih =>
      obtain ⟨now, times, rfl, rfl, hrest⟩ := calls_eq_cons hcalls
      rw [List.forall_mem_cons] at hitem?
      obtain ⟨taken', hconsumed, -⟩ := h.next hitem?.1
      rw [List.cons_append, given_cons, ← List.append_assoc]
      exact ih hitem?.2 hconsumed hrest

/-- A call gives the first item of the records, and leaves the others to later calls. -/
theorem next_eq_head? (hitem? : query.item? now = item?) (records : List Value) :
    (query.next now records).1 = (records.filterMap item?).head? ∧
      (query.next now records).2.filterMap item? = (records.filterMap item?).tail := by
  subst hitem?
  rcases next_cases query now records with
    ⟨hnext, hnone⟩ | ⟨skipped, record, rest, item, rfl, hskipped, hitem, hnext⟩
  · rw [hnext, hnone]
    exact ⟨rfl, rfl⟩
  · rw [hnext, List.filterMap_append, hskipped, List.filterMap_cons_some hitem]
    exact ⟨rfl, rfl⟩

/-- Each call gives the next item, be the items before it records or failures. -/
theorem calls_eq_getElem? {times : List Timestamp} {records : List Value}
    {earlier later : List (Option (Except QueryError Value) × List Value)}
    {result : Option (Except QueryError Value)} {rest : List Value}
    (hitem? : ∀ now ∈ times, query.item? now = item?)
    (hcalls : query.calls times records = earlier ++ (result, rest) :: later) :
    result = (records.filterMap item?)[earlier.length]? := by
  induction earlier generalizing times records with
  | nil =>
      obtain ⟨now, times, rfl, hcall, -⟩ := calls_eq_cons hcalls
      have hfirst := (next_eq_head? (hitem? now List.mem_cons_self) records).1
      rwa [hcall, List.head?_eq_getElem?] at hfirst
  | cons call earlier ih =>
      obtain ⟨now, times, rfl, rfl, hrest⟩ := calls_eq_cons hcalls
      rw [List.forall_mem_cons] at hitem?
      rw [ih hitem?.2 hrest, (next_eq_head? hitem?.1 records).2, List.getElem?_tail,
        List.length_cons]

end

/--
Selection is in order and lazy.  Without NOW, however many calls are made of a query, the
last of them gives the item next in order; what the calls gave is what selection makes of
the records taken off the source; the last record taken is the one whose item the last
call gave; and nothing is given only at the end of the source.
-/
theorem calls_consume {query : Query} (h : ¬ query.UsesNow) (now : Timestamp)
    {times : List Timestamp} {source : List Value}
    {earlier later : List (Option (Except QueryError Value) × List Value)}
    {result : Option (Except QueryError Value)} {left : List Value}
    (hcalls : query.calls times source = earlier ++ (result, left) :: later) :
    result = (source.filterMap (query.item? now))[earlier.length]? ∧
      ∃ taken, Consumed (query.item? now) source (given (earlier ++ [(result, left)])) taken left ∧
        Stops (query.item? now) source result taken.length := by
  have hitem? (now' : Timestamp) (_ : now' ∈ times) : query.item? now' = query.item? now :=
    item?_of_not_usesNow h now' now
  have hstart : Consumed (query.item? now) source [] [] source := ⟨rfl, rfl⟩
  exact ⟨calls_eq_getElem? hitem? hcalls, hstart.calls hitem? hcalls⟩

/-- Of a record without the key the call fails, and the next call goes on behind it. -/
theorem calls_consume_of_failure :
    ∃ query left later,
      compile ⟨⟨true, ".", true⟩, true, true, .extended⟩ "kind == 'a'" = .ok query ∧
      ¬ query.UsesNow ∧
      query.calls [⟨0, 0, 0⟩, ⟨1, 0, 0⟩, ⟨2, 0, 0⟩, ⟨3, 0, 0⟩]
          [.null, .object [("kind", .string "b")], .object [("kind", .string "a")], .null] =
        [(some (.error (.evaluation (.keyNotFound "kind"))),
            [.object [("kind", .string "b")], .object [("kind", .string "a")], .null])] ++
          (some (.ok (.object [("kind", .string "a")])), left) :: later ∧
      ∃ taken, taken.length = 3 ∧
        Consumed (query.item? ⟨4, 0, 0⟩)
          [.null, .object [("kind", .string "b")], .object [("kind", .string "a")], .null]
          [.error (.evaluation (.keyNotFound "kind")), .ok (.object [("kind", .string "a")])]
          taken left := by
  have hcompile : compile ⟨⟨true, ".", true⟩, true, true, .extended⟩ "kind == 'a'" =
      .ok ⟨"kind == 'a'", some (.comparison .equal (.field "kind") (.string "'a'")),
        ⟨⟨true, ".", true⟩, true, true, .extended⟩, .empty true⟩ := by cbv
  have hnow : ¬ UsesNow ⟨"kind == 'a'", some (.comparison .equal (.field "kind") (.string "'a'")),
      ⟨⟨true, ".", true⟩, true, true, .extended⟩, .empty true⟩ := by
    rintro ⟨tree, htree, hoccurs⟩
    cases htree
    rcases hoccurs with _ | _ | _ | hleft | hright
    · cases hleft
    · cases hright
  have hcalls : calls ⟨"kind == 'a'", some (.comparison .equal (.field "kind") (.string "'a'")),
        ⟨⟨true, ".", true⟩, true, true, .extended⟩, .empty true⟩
      [⟨0, 0, 0⟩, ⟨1, 0, 0⟩, ⟨2, 0, 0⟩, ⟨3, 0, 0⟩]
      [.null, .object [("kind", .string "b")], .object [("kind", .string "a")], .null] =
        [(some (.error (.evaluation (.keyNotFound "kind"))),
            [.object [("kind", .string "b")], .object [("kind", .string "a")], .null])] ++
          (some (.ok (.object [("kind", .string "a")])), [.null]) ::
            [(some (.error (.evaluation (.keyNotFound "kind"))), []), (none, [])] := by cbv
  obtain ⟨-, taken, hconsumed, -⟩ := calls_consume hnow ⟨4, 0, 0⟩ hcalls
  have hlength : taken.length = 3 := by
    have hsource := congrArg List.length hconsumed.source_eq
    rw [List.length_append] at hsource
    exact Nat.add_right_cancel hsource.symm
  exact ⟨_, _, _, hcompile, hnow, hcalls, taken, hlength, hconsumed⟩

end Query

end RecordQuery
