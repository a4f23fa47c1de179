import RecordQuery.Command.Run
import RecordQuery.Proofs.Json.Reading

/-! # Records that pass a filter

A filter selects records and changes none: what it prints of a record is the
document that was read, except that a value has no integers beyond sixty-four
bits with sign.  Such an integer comes back as the float nearest to it.
-/

namespace RecordQuery

namespace Json

mutual

/-- The document with floats in place of the integers beyond sixty-four bits with sign. -/
def narrowed : Json → Json
  | .integer n => if -2 ^ 63 ≤ n ∧ n < 2 ^ 63 then .integer n else .float (Binary64.ofInt n)
  | .array items => .array (narrowedItems items)
  | .object entries => .object (narrowedEntries entries)
  | document => document

def narrowedItems : List Json → List Json
  | [] => []
  | item :: items => narrowed item :: narrowedItems items

def narrowedEntries : List (String × Json) → List (String × Json)
  | [] => []
  | (key, value) :: entries => (key, narrowed value) :: narrowedEntries entries

end

mutual

/-- Whether every integer in the document fits sixty-four bits with sign. -/
def fitsInt64 : Json → Bool
  | .integer n => decide (-2 ^ 63 ≤ n ∧ n < 2 ^ 63)
  | .array items => itemsFitInt64 items
  | .object entries => entriesFitInt64 entries
  | _ => true

def itemsFitInt64 : List Json → Bool
  | [] => true
  | item :: items => fitsInt64 item && itemsFitInt64 items

def entriesFitInt64 : List (String × Json) → Bool
  | [] => true
  | (_, value) :: entries => fitsInt64 value && entriesFitInt64 entries

end

theorem narrowedItems_eq_map (items : List Json) : narrowedItems items = items.map narrowed := by
  induction items with
  | nil => rfl
  | cons item items ih => rw [narrowedItems, ih, List.map_cons]

theorem narrowedEntries_eq_map (entries : List (String × Json)) :
    narrowedEntries entries = entries.map fun entry => (entry.1, entry.2.narrowed) := by
  induction entries with
  | nil => rfl
  | cons entry entries ih => rw [narrowedEntries, ih, List.map_cons]

mutual

/-- A document whose integers fit stays as it is. -/
theorem narrowed_eq_self {document : Json} (h : document.fitsInt64 = true) :
    document.narrowed = document := by
  match document with
  | .integer n => rw [narrowed, if_pos (of_decide_eq_true h)]
  | .array items => rw [narrowed, narrowedItems_eq_self h]
  | .object entries => rw [narrowed, narrowedEntries_eq_self h]
  | .null | .boolean _ | .float _ | .string _ => rfl

theorem narrowedItems_eq_self {items : List Json} (h : itemsFitInt64 items = true) :
    narrowedItems items = items := by
  match items with
  | [] => rfl
  | item :: items =>
      rw [itemsFitInt64, Bool.and_eq_true] at h
      rw [narrowedItems, narrowed_eq_self h.1, narrowedItems_eq_self h.2]

theorem narrowedEntries_eq_self {entries : List (String × Json)}
    (h : entriesFitInt64 entries = true) : narrowedEntries entries = entries := by
  match entries with
  | [] => rfl
  | (key, value) :: entries =>
      rw [entriesFitInt64, Bool.and_eq_true] at h
      rw [narrowedEntries, narrowed_eq_self h.1, narrowedEntries_eq_self h.2]

end

end Json

/-! ## From documents to values and back -/

namespace Value

theorem ofJsonItems_eq_map (items : List Json) : ofJsonItems items = items.map ofJson := by
  induction items with
  | nil => rfl
  | cons item items ih => rw [ofJsonItems, ih, List.map_cons]

theorem ofJsonEntries_eq_map (entries : List (String × Json)) :
    ofJsonEntries entries = entries.map fun entry => (entry.1, ofJson entry.2) := by
  induction entries with
  | nil => rfl
  | cons entry entries ih => rw [ofJsonEntries, ih, List.map_cons]

theorem toJsonItems_eq_map (items : List Value) : toJsonItems items = items.map toJson := by
  induction items with
  | nil => rfl
  | cons item items ih => rw [toJsonItems, ih, List.map_cons]

theorem toJsonEntries_eq_map (entries : List (String × Value)) :
    toJsonEntries entries = entries.map fun entry => (entry.1, toJson entry.2) := by
  induction entries with
  | nil => rfl
  | cons entry entries ih => rw [toJsonEntries, ih, List.map_cons]

theorem toJson_ofInt {n : Int} (hlow : -2 ^ 63 ≤ n) (hhigh : n < 2 ^ 64) :
    (ofInt n).toJson = (Json.integer n).narrowed := by
  rw [ofInt, Json.narrowed]
  by_cases hfits : -0x8000000000000000 ≤ n ∧ n < 0x8000000000000000
  · have hfits' : -2 ^ 63 ≤ n ∧ n < 2 ^ 63 := by omega
    rw [if_pos hfits, if_pos hfits', toJson, Int64.toInt_ofInt_of_le hfits'.1 hfits'.2]
  · have hfits' : ¬ (-2 ^ 63 ≤ n ∧ n < 2 ^ 63) := by omega
    have hfinite : (Binary64.ofInt n).isFinite = true := (Binary64.ofInt_spec (by omega)).1
    rw [if_neg hfits, if_neg hfits', toJson, floatJson, if_pos hfinite]

/-- What was read comes back as it was, up to integers that no value holds. -/
theorem toJson_ofJson {document : Json} (h : document.Readable) :
    (ofJson document).toJson = document.narrowed := by
  induction h with
  | integer hlow hhigh => exact toJson_ofInt hlow hhigh
  | float hx => exact if_pos hx
  | array _ ih =>
      rw [ofJson, toJson, Json.narrowed, ofJsonItems_eq_map, toJsonItems_eq_map,
        Json.narrowedItems_eq_map, List.map_map]
      exact congrArg Json.array (List.map_congr_left ih)
  | object _ _ ih =>
      rw [ofJson, toJson, Json.narrowed, ofJsonEntries_eq_map, toJsonEntries_eq_map,
        Json.narrowedEntries_eq_map, List.map_map]
      refine congrArg Json.object (List.map_congr_left fun entry hentry => ?_)
      exact congrArg (Prod.mk entry.1) (ih entry hentry)
  | null | boolean | string => rfl

end Value

namespace Records

/-- The documents that are records: the items of arrays, and the other documents. -/
def parts (documents : List Json) : List Json :=
  documents.flatMap fun
    | .array items => items
    | document => [document]

theorem ofText_eq_ok {text : String} {records : List Value} (h : ofText text = .ok records) :
    ∃ documents, Json.documents text = .ok documents ∧
      records = (parts documents).map Value.ofJson := by
  unfold ofText at h
  split at h
  · cases h
  · rename_i documents hdocuments
    dsimp only at h
    split at h
    · cases h
    · cases h
      refine ⟨documents, hdocuments, ?_⟩
      rw [parts, List.map_flatMap]
      refine List.flatMap_congr fun document _ => ?_
      cases document with
      | array items => exact Value.ofJsonItems_eq_map items
      | null | boolean | integer | float | string | object => rfl

theorem readable_of_mem_parts {documents : List Json}
    (h : ∀ document ∈ documents, document.Readable) :
    ∀ part ∈ parts documents, part.Readable := by
  intro part hpart
  obtain ⟨document, hdocument, hpart⟩ := List.mem_flatMap.mp hpart
  have hreadable := h document hdocument
  cases hreadable with
  | array hitems => exact hitems part hpart
  | null | boolean | integer | float | string | object =>
      rw [List.mem_singleton.mp hpart]
      exact h _ hdocument

/-- Of the selected records the documents are printed, without a change to the order. -/
theorem toJson_filter {documents : List Json} (h : ∀ document ∈ documents, document.Readable)
    (selects : Value → Bool) :
    toJson ((documents.map Value.ofJson).filter selects) =
      .array ((documents.filter fun document => selects (.ofJson document)).map
        Json.narrowed) := by
  rw [toJson, Value.toJsonItems_eq_map, List.filter_map, List.map_map]
  refine congrArg Json.array (List.map_congr_left fun document hdocument => ?_)
  exact Value.toJson_ofJson (h document (List.mem_of_mem_filter hdocument))

end Records

/-! ## Selection -/

namespace Query

/-- Whether a record matches, and does not fail. -/
def accepts (query : Query) (now : Timestamp) (record : Value) : Bool :=
  match query.matchesRecord now record with
  | .ok holds => holds
  | .error _ => false

theorem select_eq_ok {query : Query} {now : Timestamp} {records selected : List Value}
    (h : query.select now records = .ok selected) :
    (∀ record ∈ records, ∃ holds, query.matchesRecord now record = .ok holds) ∧
      selected = records.filter (query.accepts now) := by
  induction records generalizing selected with
  | nil =>
      cases h
      exact ⟨List.forall_mem_nil _, rfl⟩
  | cons record records ih =>
      obtain ⟨holds, hholds, h⟩ := bind_eq_ok h
      obtain ⟨rest, hrest, h⟩ := bind_eq_ok h
      obtain ⟨hall, rfl⟩ := ih hrest
      cases h
      have haccepts : query.accepts now record = holds := by rw [accepts, hholds]
      rw [List.filter_cons, haccepts]
      exact ⟨List.forall_mem_cons.mpr ⟨⟨holds, hholds⟩, hall⟩, rfl⟩

end Query

namespace Command

/--
What a filter prints are the documents of its input that the query matches, in
order.  Each is as it was read, apart from integers beyond sixty-four bits with
sign.
-/
theorem filterText_eq_ok {now : Timestamp} {options : QueryOptions} {text : String}
    {input : Option String} {records : List Value}
    (h : filterText now options text input = .ok records) :
    ∃ query source documents kept, Query.compile options text = .ok query ∧
      input = some source ∧ Json.documents source = .ok documents ∧
      (∀ part ∈ Records.parts documents,
        ∃ holds, query.matchesRecord now (.ofJson part) = .ok holds) ∧
      kept = (Records.parts documents).filter (fun part => query.accepts now (.ofJson part)) ∧
      Records.toJson records = .array (kept.map Json.narrowed) ∧
      ((∀ part ∈ kept, part.fitsInt64 = true) → Records.toJson records = .array kept) := by
  obtain ⟨query, hquery, h⟩ := bind_eq_ok h
  cases input with
  | none => cases h
  | some source =>
      obtain ⟨found, hfound, hselect⟩ := bind_eq_ok h
      obtain ⟨documents, hdocuments, rfl⟩ := Records.ofText_eq_ok (mapError_eq_ok_iff.mp hfound)
      obtain ⟨hall, rfl⟩ := Query.select_eq_ok (mapError_eq_ok_iff.mp hselect)
      rw [List.forall_mem_map] at hall
      have hreadable :=
        Records.readable_of_mem_parts (Json.readable_of_mem_documents hdocuments)
      have hprinted := Records.toJson_filter hreadable (query.accepts now)
      refine ⟨query, source, documents, _, mapError_eq_ok_iff.mp hquery, rfl, hdocuments, hall, rfl,
        hprinted, fun hfits => ?_⟩
      rw [hprinted]
      have hsame := List.map_congr_left fun part hpart => Json.narrowed_eq_self (hfits part hpart)
      exact congrArg Json.array (hsame.trans (List.map_id' _))

/-- The largest integer that is read is printed as a float, which is no document of the input. -/
theorem filterText_largest_integer :
    ∃ records documents, filterText ⟨0, 0, 0⟩ .default "id"
        (some "[\x7b\"id\":18446744073709551615\x7d]") = .ok records ∧
      Json.documents "[\x7b\"id\":18446744073709551615\x7d]" = .ok documents ∧
      ∀ kept, kept.Sublist (Records.parts documents) → Records.toJson records ≠ .array kept := by
  have hdocuments : Json.documents "[\x7b\"id\":18446744073709551615\x7d]" =
      .ok [.array [.object [("id", .integer 18446744073709551615)]]] := by cbv
  have hlarge : Binary64.ofInt 18446744073709551615 = ⟨0x43f0000000000000⟩ := by decide +kernel
  have hrecords : Records.ofText "[\x7b\"id\":18446744073709551615\x7d]" =
      .ok [.object [("id", .float ⟨0x43f0000000000000⟩)]] := by
    rw [Records.ofText, hdocuments]
    simp [Records.ofDocument, Value.ofJsonItems, Value.ofJson, Value.ofJsonEntries, Value.ofInt,
      hlarge]
  have hfilter : filterText ⟨0, 0, 0⟩ .default "id"
      (some "[\x7b\"id\":18446744073709551615\x7d]") =
        .ok [.object [("id", .float ⟨0x43f0000000000000⟩)]] := by
    simp only [filterText, hrecords]
    cbv
  have hprinted : Records.toJson [.object [("id", .float ⟨0x43f0000000000000⟩)]] =
      .array [.object [("id", .float ⟨0x43f0000000000000⟩)]] := by cbv
  refine ⟨_, _, hfilter, hdocuments, fun kept hkept hsame => ?_⟩
  rw [hprinted] at hsame
  cases hsame
  have hmem := hkept.subset (List.mem_singleton_self _)
  simp [Records.parts] at hmem

/-- Of a stream of an object and an array, the records that match are printed as they were read. -/
theorem filterText_eq_ok_of_stream :
    ∃ records documents kept, filterText ⟨0, 0, 0⟩ .default "a"
        (some "\x7b\"a\":[1,null]\x7d [false,\x7b\"a\":\x7b\x7d\x7d,\x7b\"b\":0,\"a\":-7\x7d]") =
          .ok records ∧
      Json.documents
        "\x7b\"a\":[1,null]\x7d [false,\x7b\"a\":\x7b\x7d\x7d,\x7b\"b\":0,\"a\":-7\x7d]" =
          .ok documents ∧
      kept.Sublist (Records.parts documents) ∧ Records.toJson records = .array kept := by
  have hfilter : filterText ⟨0, 0, 0⟩ .default "a"
      (some "\x7b\"a\":[1,null]\x7d [false,\x7b\"a\":\x7b\x7d\x7d,\x7b\"b\":0,\"a\":-7\x7d]") =
        .ok [.object [("a", .array [.integer 1, .null])],
          .object [("a", .integer (-7)), ("b", .integer 0)]] := by cbv
  have hread : Json.documents
      "\x7b\"a\":[1,null]\x7d [false,\x7b\"a\":\x7b\x7d\x7d,\x7b\"b\":0,\"a\":-7\x7d]" =
        .ok [.object [("a", .array [.integer 1, .null])], .array [.boolean false,
          .object [("a", .object [])], .object [("a", .integer (-7)), ("b", .integer 0)]]] := by
    cbv
  obtain ⟨query, source, documents, kept, -, hsource, hdocuments, -, hkept, -, hprinted⟩ :=
    filterText_eq_ok hfilter
  cases hsource
  cases hread.symm.trans hdocuments
  have hsublist := hkept ▸ List.filter_sublist
  refine ⟨_, _, kept, hfilter, hread, hsublist, hprinted fun part hpart => ?_⟩
  have hall : (Records.parts [.object [("a", .array [.integer 1, .null])], .array [.boolean false,
      .object [("a", .object [])], .object [("a", .integer (-7)), ("b", .integer 0)]]]).all
        Json.fitsInt64 = true := by cbv
  exact List.all_eq_true.mp hall part (hsublist.subset hpart)

end Command

end RecordQuery
