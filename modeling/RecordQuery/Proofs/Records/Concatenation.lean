import RecordQuery.Proofs.Json.Streams
import RecordQuery.Records

/-! # Records on further lines

A text of records goes on below its last line: the records of the further lines come
behind its own, and a fault in these lines is the fault of the whole.
-/

namespace RecordQuery

namespace Records

section

variable {text : String} {records : List Value}

theorem ofText_eq_ok_iff : ofText text = .ok records ↔
    ∃ documents, Json.documents text = .ok documents ∧
      documents.flatMap ofDocument = records ∧
      ¬ (records = [] ∧ text.toList.all Text.isWhiteSpace = true) := by
  rw [ofText]
  cases Json.documents text with
  | error fault => simp
  | ok documents =>
      simp only [Except.ok.injEq, exists_eq_left', List.isEmpty_iff]
      split
      · rename_i hblank
        refine ⟨nofun, ?_⟩
        rintro ⟨rfl, hnot⟩
        exact absurd hblank hnot
      · rename_i hnot
        rw [Except.ok.injEq]
        refine ⟨?_, And.left⟩
        rintro rfl
        exact ⟨rfl, hnot⟩

theorem ofText_eq_missing_iff : ofText text = .error .missing ↔
    ∃ documents, Json.documents text = .ok documents ∧
      documents.flatMap ofDocument = [] ∧ text.toList.all Text.isWhiteSpace = true := by
  rw [ofText]
  cases Json.documents text with
  | error fault => simp
  | ok documents => simp

theorem ofText_eq_malformed_iff {fault : Json.Fault} :
    ofText text = .error (.malformed fault) ↔ Json.documents text = .error fault := by
  rw [ofText]
  cases Json.documents text with
  | error fault => simp
  | ok documents =>
      dsimp only
      split <;> simp

end

/--
A text with another one on the next line holds the records of the first and then those
of the second.  If the second is blank these are the records of the first, and if it is
malformed the whole is so in the same way.
-/
theorem ofText_append {first : String} {records : List Value} (h : ofText first = .ok records)
    (second : String) :
    (∀ others, ofText second = .ok others →
      ofText (first ++ "\n" ++ second) = .ok (records ++ others)) ∧
    (ofText second = .error .missing → ofText (first ++ "\n" ++ second) = .ok records) ∧
    ∀ fault, ofText second = .error (.malformed fault) →
      ofText (first ++ "\n" ++ second) = .error (.malformed fault) := by
  obtain ⟨found, hfound, rfl, hfirst⟩ := ofText_eq_ok_iff.mp h
  have hjoined := Json.documents_append hfound second
  have htext : (first ++ "\n" ++ second).toList = first.toList ++ '\n' :: second.toList := by
    simp
  -- the whole is not taken for a missing text, since the first one is not
  have hok (others : List Json) (hothers : Json.documents second = .ok others) :
      ofText (first ++ "\n" ++ second) =
        .ok (found.flatMap ofDocument ++ others.flatMap ofDocument) := by
    rw [hothers] at hjoined
    refine ofText_eq_ok_iff.mpr ⟨_, hjoined, List.flatMap_append, fun hblank => hfirst ?_⟩
    rw [htext, List.all_append, Bool.and_eq_true] at hblank
    exact ⟨(List.append_eq_nil_iff.mp hblank.1).1, hblank.2.1⟩
  refine ⟨fun others hsecond => ?_, fun hsecond => ?_, fun fault hsecond => ?_⟩
  · obtain ⟨documents, hdocuments, rfl, -⟩ := ofText_eq_ok_iff.mp hsecond
    exact hok documents hdocuments
  · obtain ⟨documents, hdocuments, hnone, -⟩ := ofText_eq_missing_iff.mp hsecond
    rw [hok documents hdocuments, hnone, List.append_nil]
  · rw [ofText_eq_malformed_iff] at hsecond ⊢
    rw [hjoined, hsecond]
    rfl

/-- A number ends at the line, an empty array adds nothing, and an open array is a fault. -/
theorem ofText_append_of_lines :
    ofText "[[2], \"x\"] 7" = .ok [.array [.integer 2], .string "x", .integer 7] ∧
      ofText "[]\n\x7b\x7d" = .ok [.object []] ∧
      ofText ("[[2], \"x\"] 7" ++ "\n" ++ "[]\n\x7b\x7d") =
        .ok [.array [.integer 2], .string "x", .integer 7, .object []] ∧
      ofText "null [1" = .error (.malformed .unfinished) ∧
      ofText ("[[2], \"x\"] 7" ++ "\n" ++ "null [1") = .error (.malformed .unfinished) := by
  have hfirst : ofText "[[2], \"x\"] 7" =
      .ok [.array [.integer 2], .string "x", .integer 7] := by cbv
  have hsecond : ofText "[]\n\x7b\x7d" = .ok [.object []] := by cbv
  have hfault : ofText "null [1" = .error (.malformed .unfinished) := by cbv
  exact ⟨hfirst, hsecond, (ofText_append hfirst _).1 _ hsecond, hfault,
    (ofText_append hfirst _).2.2 _ hfault⟩

end Records

end RecordQuery
