import RecordQuery.Proofs.Evaluation.Clock
import RecordQuery.Proofs.Records.Filtering

/-! # Filtering twice

What a filter prints is one array of the records it kept.  Where that text is read as
the document it shows, the records come out of it as they went in, each passes the
filter again, and a second run prints what the first one did.
-/

namespace RecordQuery

namespace Json

/-- The text of the document is read as that document and nothing else. -/
def ReadsBack (pretty : Bool) (document : Json) : Prop :=
  documents (document.render pretty) = .ok [document]

theorem render_array_eq_cons (pretty : Bool) (items : List Json) :
    ∃ cs, ((array items).render pretty).toList = '[' :: cs := by
  rw [render, String.toList_ofList]
  cases pretty with
  | false => exact ⟨compactItems items ++ [']'], by rw [if_neg Bool.false_ne_true, compact]; rfl⟩
  | true =>
      rw [if_pos rfl]
      cases items with
      | nil => exact ⟨compactItems [] ++ [']'], by rw [indented, compact]; rfl; nofun; nofun⟩
      | cons item items => exact ⟨_, by rw [indented]; rfl⟩

end Json

/-! ## From values to documents and back -/

namespace Value

mutual

/-- An integer that no value holds and the float in its place are the same value. -/
theorem ofJson_narrowed (document : Json) : ofJson document.narrowed = ofJson document := by
  match document with
  | .integer n =>
      rw [Json.narrowed]
      split
      · rfl
      · rename_i hlarge
        rw [ofJson, ofJson]
        exact (if_neg hlarge).symm
  | .array items => rw [Json.narrowed, ofJson, ofJson, ofJsonItems_narrowed items]
  | .object entries => rw [Json.narrowed, ofJson, ofJson, ofJsonEntries_narrowed entries]
  | .null | .boolean _ | .float _ | .string _ => rfl

theorem ofJsonItems_narrowed (items : List Json) :
    ofJsonItems (Json.narrowedItems items) = ofJsonItems items := by
  match items with
  | [] => rfl
  | item :: items =>
      rw [Json.narrowedItems, ofJsonItems, ofJsonItems, ofJson_narrowed item,
        ofJsonItems_narrowed items]

theorem ofJsonEntries_narrowed (entries : List (String × Json)) :
    ofJsonEntries (Json.narrowedEntries entries) = ofJsonEntries entries := by
  match entries with
  | [] => rfl
  | (key, value) :: entries =>
      rw [Json.narrowedEntries, ofJsonEntries, ofJsonEntries, ofJson_narrowed value,
        ofJsonEntries_narrowed entries]

end

/-- The value of a document that was read is the value of what is printed of it. -/
theorem ofJson_toJson_ofJson {document : Json} (h : document.Readable) :
    ofJson (ofJson document).toJson = ofJson document := by
  rw [toJson_ofJson h, ofJson_narrowed]

end Value

namespace Records

variable {records : List Value}

/-- Records that their documents stand for are read from the text of these documents. -/
theorem ofText_render_toJson {pretty : Bool}
    (h : ∀ record ∈ records, Value.ofJson record.toJson = record)
    (hread : (toJson records).ReadsBack pretty) :
    ofText ((toJson records).render pretty) = .ok records := by
  obtain ⟨cs, hcs⟩ := Json.render_array_eq_cons pretty (Value.toJsonItems records)
  have hrecords : [toJson records].flatMap ofDocument = records := by
    rw [List.flatMap_singleton, toJson, ofDocument, Value.toJsonItems_eq_map,
      Value.ofJsonItems_eq_map, List.map_map]
    exact (List.map_congr_left h).trans (List.map_id' records)
  have htext : ¬ ((toJson records).render pretty).toList.all Text.isWhiteSpace := by
    have hbracket : Text.isWhiteSpace '[' = false := by decide
    rw [toJson, hcs, List.all_cons, hbracket, Bool.false_and]
    exact Bool.false_ne_true
  rw [ofText, hread]
  dsimp only
  rw [hrecords, if_neg fun hblank => htext hblank.2]

theorem ofJson_toJson_of_ofText {text : String} (h : ofText text = .ok records) :
    ∀ record ∈ records, Value.ofJson record.toJson = record := by
  obtain ⟨documents, hdocuments, rfl⟩ := ofText_eq_ok h
  rw [List.forall_mem_map]
  exact fun part hpart => Value.ofJson_toJson_ofJson
    (readable_of_mem_parts (Json.readable_of_mem_documents hdocuments) part hpart)

end Records

/-! ## Selecting again -/

namespace Query

variable {query : Query} {now : Timestamp} {records selected : List Value}

theorem matchesRecord_of_accepts {record : Value} (h : query.accepts now record = true) :
    query.matchesRecord now record = .ok true := by
  rw [accepts] at h
  split at h
  · subst h
    assumption
  · cases h

theorem matchesRecord_of_mem_select (h : query.select now records = .ok selected) :
    ∀ record ∈ selected, query.matchesRecord now record = .ok true := by
  obtain ⟨-, rfl⟩ := select_eq_ok h
  exact fun record hrecord => matchesRecord_of_accepts (List.mem_filter.mp hrecord).2

/-- Records that all match are all selected. -/
theorem select_eq_self (h : ∀ record ∈ records, query.matchesRecord now record = .ok true) :
    query.select now records = .ok records := by
  induction records with
  | nil => rfl
  | cons record records ih =>
      rw [List.forall_mem_cons] at h
      rw [select, h.1, ih h.2]
      rfl

end Query

namespace Command

/-- A filter succeeds where the query compiles, the input is read, and no record fails. -/
theorem filterText_eq_ok_iff {now : Timestamp} {options : QueryOptions} {text : String}
    {input : Option String} {records : List Value} :
    filterText now options text input = .ok records ↔
      ∃ query source found, Query.compile options text = .ok query ∧ input = some source ∧
        Records.ofText source = .ok found ∧ query.select now found = .ok records := by
  constructor
  · intro h
    obtain ⟨query, hquery, h⟩ := bind_eq_ok h
    cases input with
    | none => cases h
    | some source =>
        obtain ⟨found, hfound, hselect⟩ := bind_eq_ok h
        exact ⟨query, source, found, mapError_eq_ok_iff.mp hquery, rfl,
          mapError_eq_ok_iff.mp hfound, mapError_eq_ok_iff.mp hselect⟩
  · rintro ⟨query, source, found, hquery, rfl, hfound, hselect⟩
    simp only [filterText, hquery, hfound]
    exact mapError_eq_ok_iff.mpr hselect

/--
Filtering is idempotent.  Without NOW, the text of what a filter kept is filtered to the
same records at any later time, if the text is read as the document it shows.
-/
theorem filterText_idempotent {now : Timestamp} {options : QueryOptions} {text : String}
    {input : Option String} {query : Query} {records : List Value} {pretty : Bool}
    (hquery : Query.compile options text = .ok query) (hnow : ¬ query.UsesNow)
    (h : filterText now options text input = .ok records)
    (hread : (Records.toJson records).ReadsBack pretty) (later : Timestamp) :
    filterText later options text (some ((Records.toJson records).render pretty)) =
      .ok records := by
  obtain ⟨query', source, found, hquery', -, hfound, hselect⟩ := filterText_eq_ok_iff.mp h
  cases hquery.symm.trans hquery'
  have hkept : ∀ record ∈ records, record ∈ found := by
    obtain ⟨-, rfl⟩ := Query.select_eq_ok hselect
    exact fun record hrecord => List.mem_of_mem_filter hrecord
  have hstable : ∀ record ∈ records, Value.ofJson record.toJson = record :=
    fun record hrecord => Records.ofJson_toJson_of_ofText hfound record (hkept record hrecord)
  have hagain : Records.ofText ((Records.toJson records).render pretty) = .ok records :=
    Records.ofText_render_toJson hstable hread
  have hmatches : ∀ record ∈ records, query.matchesRecord later record = .ok true := by
    intro record hrecord
    rw [Query.matchesRecord_of_not_usesNow hnow later now]
    exact Query.matchesRecord_of_mem_select hselect record hrecord
  exact filterText_eq_ok_iff.mpr
    ⟨query, _, records, hquery, rfl, hagain, Query.select_eq_self hmatches⟩

/-- Of a stream, an object and an array that is itself a record are kept by the second run too. -/
theorem filterText_idempotent_of_array_record :
    ∃ query, Query.compile .default "id" = .ok query ∧ ¬ query.UsesNow ∧
      filterText ⟨0, 0, 0⟩ .default "id"
          (some "\x7b\"id\":[\"\"]\x7d [[\x7b\"id\":-7\x7d],\x7b\"no\":1\x7d]") =
        .ok [.object [("id", .array [.string ""])], .array [.object [("id", .integer (-7))]]] ∧
      (Records.toJson [.object [("id", .array [.string ""])],
          .array [.object [("id", .integer (-7))]]]).ReadsBack true ∧
      filterText ⟨1, 0, 0⟩ .default "id"
          (some ((Records.toJson [.object [("id", .array [.string ""])],
            .array [.object [("id", .integer (-7))]]]).render true)) =
        .ok [.object [("id", .array [.string ""])], .array [.object [("id", .integer (-7))]]] := by
  have hcompile : Query.compile .default "id" =
      .ok ⟨"id", some (.field "id"), .default, .empty true⟩ := by cbv
  have hnow : ¬ Query.UsesNow ⟨"id", some (.field "id"), .default, .empty true⟩ := by
    rintro ⟨tree, htree, hoccurs⟩
    cases htree
    cases hoccurs
  have hfilter : filterText ⟨0, 0, 0⟩ .default "id"
      (some "\x7b\"id\":[\"\"]\x7d [[\x7b\"id\":-7\x7d],\x7b\"no\":1\x7d]") =
        .ok [.object [("id", .array [.string ""])],
          .array [.object [("id", .integer (-7))]]] := by cbv
  have hread : (Records.toJson [.object [("id", .array [.string ""])],
      .array [.object [("id", .integer (-7))]]]).ReadsBack true := by
    rw [Json.ReadsBack]
    cbv
  exact ⟨_, hcompile, hnow, hfilter, hread,
    filterText_idempotent hcompile hnow hfilter hread ⟨1, 0, 0⟩⟩

end Command

end RecordQuery
