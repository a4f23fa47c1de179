import RecordQuery.Proofs.Json.Containers
import RecordQuery.Proofs.Json.Entries
import RecordQuery.Proofs.Json.Numbers
import RecordQuery.Proofs.Results

/-! # Documents that are read

The documents of a text hold no numbers but finite floats, and integers from the
ranges of sixty-four bits with and without sign.  The entries of their objects stand
in ascending order of the keys.
-/

namespace RecordQuery

namespace Json

/-- The document is such as the reader gives: its numbers are in range, its entries in order. -/
inductive Readable : Json → Prop
  | null : Readable .null
  | boolean (b : Bool) : Readable (.boolean b)
  | integer {n : Int} (hlow : -2 ^ 63 ≤ n) (hhigh : n < 2 ^ 64) : Readable (.integer n)
  | float {x : Binary64} (hx : x.isFinite = true) : Readable (.float x)
  | string (text : String) : Readable (.string text)
  | array {items : List Json} (h : ∀ item ∈ items, Readable item) : Readable (.array items)
  | object {entries : List (String × Json)} (hkeys : Ascending entries)
      (h : ∀ entry ∈ entries, Readable entry.2) : Readable (.object entries)

/-- Whatever the reader takes off a text has the property. -/
def Gives {α : Type} (reader : Reader α) (property : α → Prop) : Prop :=
  ∀ cs a rest, reader cs = .ok (a, rest) → property a

theorem readable_of_ofNumeral? {n : Numeral} {j : Json} (h : ofNumeral? n = some j) :
    j.Readable := by
  rw [ofNumeral?] at h
  split_ifs at h with hinteger
  · cases h
    exact .integer hinteger.2.1 hinteger.2.2.1
  · obtain ⟨x, hx, rfl⟩ := Option.map_eq_some_iff.mp h
    exact .float (isFinite_of_floatOf? hx)

theorem number_gives : Gives number Readable := by
  intro cs j rest h
  unfold number at h
  split at h
  · cases h
  split at h
  · cases h
  split at h
  · rename_i hvalue
    cases h
    exact readable_of_ofNumeral? hvalue
  · cases h

theorem literal_gives {j : Json} (hj : j.Readable) (word : List Char) :
    Gives (literal j word) Readable := by
  induction word with
  | nil =>
      intro cs j' rest h
      cases h
      exact hj
  | cons w word ih =>
      intro cs j' rest h
      cases cs with
      | nil => cases h
      | cons c cs =>
          rw [literal] at h
          split at h
          · exact ih cs j' rest h
          · cases h

/-! ## Containers -/

theorem containerRest_gives {α : Type} {close : Char} {reader : Reader α} {property : α → Prop}
    (hreader : Gives reader property) (fuel : Nat) (first : Bool) :
    Gives (containerRest close reader fuel first) (∀ a ∈ ·, property a) := by
  induction fuel generalizing first with
  | zero =>
      intro cs found rest h
      cases h
  | succ fuel ih =>
      intro cs found rest h
      rw [containerRest] at h
      split at h
      · cases h
      split at h
      · cases h
        exact List.forall_mem_nil _
      · obtain ⟨start, -, h⟩ := bind_eq_ok h
        obtain ⟨⟨a, cs'⟩, ha, h⟩ := bind_eq_ok h
        obtain ⟨⟨others, cs''⟩, hothers, h⟩ := bind_eq_ok h
        cases h
        exact List.forall_mem_cons.mpr ⟨hreader _ _ _ ha, ih false _ _ _ hothers⟩

theorem entry_gives {item : Reader Json} (hitem : Gives item Readable) :
    Gives (entry item) (·.2.Readable) := by
  intro cs pair rest h
  unfold entry at h
  split at h
  · obtain ⟨⟨key, cs'⟩, -, h⟩ := bind_eq_ok h
    dsimp only at h
    split at h
    · obtain ⟨⟨j, cs''⟩, hj, h⟩ := bind_eq_ok h
      cases h
      exact hitem _ _ _ hj
    · cases h
  · cases h

/-! ## Documents -/

/-- A value is a scalar, or a container whose parts are read one level further in. -/
theorem value_cases {depth : Nat} {cs rest : List Char} {j : Json}
    (h : value depth cs = .ok (j, rest)) : j.Readable ∨ ∃ inner, depth = inner + 1 ∧
      ((∃ fuel inside items, arrayRest (value inner) fuel true inside = .ok (items, rest) ∧
          j = .array items) ∨
        ∃ fuel inside entries, objectRest (value inner) fuel true inside = .ok (entries, rest) ∧
          j = ofEntries entries) := by
  unfold value at h
  split at h
  · cases h
  · exact Or.inl (literal_gives .null _ _ _ _ h)
  · exact Or.inl (literal_gives (.boolean true) _ _ _ _ h)
  · exact Or.inl (literal_gives (.boolean false) _ _ _ _ h)
  · obtain ⟨⟨text, cs'⟩, -, h⟩ := bind_eq_ok h
    cases h
    exact Or.inl (.string text)
  · cases depth with
    | zero => cases h
    | succ inner =>
        obtain ⟨⟨items, cs'⟩, hitems, h⟩ := bind_eq_ok h
        cases h
        exact Or.inr ⟨inner, rfl, Or.inl ⟨_, _, items, hitems, rfl⟩⟩
  · cases depth with
    | zero => cases h
    | succ inner =>
        obtain ⟨⟨entries, cs'⟩, hentries, h⟩ := bind_eq_ok h
        cases h
        exact Or.inr ⟨inner, rfl, Or.inr ⟨_, _, entries, hentries, rfl⟩⟩
  · split at h
    · exact Or.inl (number_gives _ _ _ h)
    · cases h

theorem value_gives (depth : Nat) : Gives (value depth) Readable := by
  induction depth with
  | zero =>
      intro cs j rest h
      obtain hj | ⟨inner, hdepth, -⟩ := value_cases h
      · exact hj
      · cases hdepth
  | succ depth ih =>
      intro cs j rest h
      obtain hj | ⟨inner, hdepth, hcontainer⟩ := value_cases h
      · exact hj
      cases hdepth
      obtain ⟨fuel, inside, items, hitems, rfl⟩ | ⟨fuel, inside, entries, hentries, rfl⟩ :=
        hcontainer
      · rw [arrayRest_eq] at hitems
        exact .array (containerRest_gives ih _ _ _ _ _ hitems)
      · rw [objectRest_eq] at hentries
        have hread := containerRest_gives (entry_gives ih) _ _ _ _ _ hentries
        exact .object (ascending_sortEntries entries) fun e he => hread e (mem_sortEntries he)

theorem readable_of_mem_stream {fuel : Nat} {cs : List Char} {documents : List Json}
    (h : stream fuel cs = .ok documents) : ∀ document ∈ documents, document.Readable := by
  induction fuel generalizing cs documents with
  | zero =>
      cases h
      exact List.forall_mem_nil _
  | succ fuel ih =>
      rw [stream] at h
      split at h
      · cases h
        exact List.forall_mem_nil _
      · obtain ⟨⟨document, cs'⟩, hdocument, h⟩ := bind_eq_ok h
        dsimp only at h
        split at h
        · obtain ⟨more, hmore, h⟩ := bind_eq_ok h
          cases h
          exact List.forall_mem_cons.mpr ⟨value_gives _ _ _ _ hdocument, ih hmore⟩
        · cases h

theorem readable_of_mem_documents {text : String} {found : List Json}
    (h : documents text = .ok found) : ∀ document ∈ found, document.Readable :=
  readable_of_mem_stream h

end Json

end RecordQuery
