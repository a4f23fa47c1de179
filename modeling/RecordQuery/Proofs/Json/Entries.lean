import Mathlib
import RecordQuery.Json.Basic

/-! # Entries in order

Sorted entries stand in strictly ascending order of their keys, so each is found
by its key.  Two such lists agree entry by entry if they are equally long and
each key of one is found in the other: then neither has a key that the other lacks.
-/

namespace RecordQuery

section

variable {α : Type} {key : String} {value : α} {entries as bs : List (String × α)}

/-- Entries in strictly ascending order of their keys. -/
def Ascending (entries : List (String × α)) : Prop :=
  entries.Pairwise fun e f => e.1 < f.1

theorem mem_insertEntry {e : String × α} (h : e ∈ insertEntry key value entries) :
    e = (key, value) ∨ e ∈ entries := by
  induction entries with
  | nil => exact .inl (List.mem_singleton.mp h)
  | cons first entries ih =>
      rw [insertEntry] at h
      split at h
      · exact List.mem_cons.mp h
      · exact (List.mem_cons.mp h).imp_right (List.mem_cons_of_mem first)
      · rcases List.mem_cons.mp h with rfl | h
        · exact .inr List.mem_cons_self
        · exact (ih h).imp_right (List.mem_cons_of_mem first)

theorem mem_sortEntries {e : String × α} : e ∈ sortEntries entries → e ∈ entries := by
  have hfold (sorted : List (String × α))
      (h : e ∈ entries.foldl (fun sorted f => insertEntry f.1 f.2 sorted) sorted) :
      e ∈ sorted ∨ e ∈ entries := by
    induction entries generalizing sorted with
    | nil => exact .inl h
    | cons first entries ih =>
        rcases ih _ h with h | h
        · rcases mem_insertEntry h with rfl | h
          · exact .inr List.mem_cons_self
          · exact .inl h
        · exact .inr (List.mem_cons_of_mem first h)
  exact fun h => (hfold [] h).resolve_left List.not_mem_nil

theorem ascending_insertEntry (h : Ascending entries) :
    Ascending (insertEntry key value entries) := by
  induction entries with
  | nil => exact List.pairwise_singleton _ _
  | cons first entries ih =>
      obtain ⟨hfirst, hentries⟩ := List.pairwise_cons.mp h
      rw [insertEntry]
      split
      · rename_i hlt
        refine List.pairwise_cons.mpr ⟨fun e he => ?_, h⟩
        rcases List.mem_cons.mp he with rfl | he
        · exact compare_lt_iff_lt.mp hlt
        · exact (compare_lt_iff_lt.mp hlt).trans (hfirst e he)
      · rename_i heq
        obtain rfl := compare_eq_iff_eq.mp heq
        exact List.pairwise_cons.mpr ⟨hfirst, hentries⟩
      · rename_i hgt
        refine List.pairwise_cons.mpr ⟨fun e he => ?_, ih hentries⟩
        rcases mem_insertEntry he with rfl | he
        · exact compare_gt_iff_gt.mp hgt
        · exact hfirst e he

/-- Whatever its entries are given as, an object has them in ascending order. -/
theorem ascending_sortEntries (entries : List (String × α)) : Ascending (sortEntries entries) := by
  have hfold (sorted : List (String × α)) (hsorted : Ascending sorted) :
      Ascending (entries.foldl (fun sorted e => insertEntry e.1 e.2 sorted) sorted) := by
    induction entries generalizing sorted with
    | nil => exact hsorted
    | cons e entries ih => exact ih _ (ascending_insertEntry hsorted)
  exact hfold [] .nil

theorem Ascending.nodup_keys (h : Ascending entries) : (entries.map Prod.fst).Nodup :=
  List.pairwise_map.mpr (h.imp fun hlt => hlt.ne)

theorem mem_of_lookupEntry (h : lookupEntry key entries = some value) :
    (key, value) ∈ entries := by
  induction entries with
  | nil => cases h
  | cons e entries ih =>
      rw [lookupEntry] at h
      split at h
      · rename_i hkey
        cases h
        cases hkey
        exact List.mem_cons_self
      · exact List.mem_cons_of_mem e (ih h)

/-- Each entry is found under its key, since no other has the same. -/
theorem Ascending.lookupEntry_eq_some_iff (h : Ascending entries) :
    lookupEntry key entries = some value ↔ (key, value) ∈ entries := by
  refine ⟨mem_of_lookupEntry, fun hmem => ?_⟩
  induction entries with
  | nil => cases hmem
  | cons e entries ih =>
      obtain ⟨hfirst, hentries⟩ := List.pairwise_cons.mp h
      rw [lookupEntry]
      rcases List.mem_cons.mp hmem with rfl | hmem
      · exact if_pos rfl
      · rw [if_neg (hfirst _ hmem).ne, ih hentries hmem]

/-- Of two maps of one size, the one that has all keys of the other has the same keys. -/
theorem Ascending.keys_eq (has : Ascending as) (hbs : Ascending bs)
    (hlength : as.length = bs.length) (hkeys : ∀ e ∈ as, e.1 ∈ bs.map Prod.fst) :
    as.map Prod.fst = bs.map Prod.fst := by
  have hsubset : as.map Prod.fst ⊆ bs.map Prod.fst := by
    intro key hkey
    obtain ⟨e, he, rfl⟩ := List.mem_map.mp hkey
    exact hkeys e he
  have hcount : (bs.map Prod.fst).length ≤ (as.map Prod.fst).length := by
    rw [List.length_map, List.length_map, hlength]
  have hperm := (List.subperm_of_subset has.nodup_keys hsubset).perm_of_length_le hcount
  exact hperm.eq_of_pairwise (fun _ _ _ _ h h' => absurd h' h.not_gt)
    (List.pairwise_map.mpr has) (List.pairwise_map.mpr hbs)

/-- Entries agree in their order exactly if each is found, and agrees, on the other side. -/
theorem Ascending.forall₂_iff {r : α → α → Prop} (has : Ascending as) (hbs : Ascending bs) :
    List.Forall₂ (fun e f => e.1 = f.1 ∧ r e.2 f.2) as bs ↔
      as.length = bs.length ∧ ∀ e ∈ as, ∃ v, lookupEntry e.1 bs = some v ∧ r e.2 v := by
  simp only [List.forall₂_iff_get, List.get_eq_getElem]
  refine and_congr_right fun hlength => ⟨fun hagree e he => ?_, fun hfound i hi hi' => ?_⟩
  · obtain ⟨i, hi, rfl⟩ := List.getElem_of_mem he
    obtain ⟨hkey, hr⟩ := hagree i hi (hlength ▸ hi)
    refine ⟨_, hbs.lookupEntry_eq_some_iff.mpr ?_, hr⟩
    rw [hkey]
    exact List.getElem_mem _
  · have hkeys := has.keys_eq hbs hlength fun e he => by
      obtain ⟨v, hv, -⟩ := hfound e he
      exact List.mem_map.mpr ⟨_, mem_of_lookupEntry hv, rfl⟩
    have hkey : as[i].1 = bs[i].1 := by
      rw [← List.getElem_map Prod.fst (h := by simpa using hi), List.getElem_of_eq hkeys,
        List.getElem_map]
    have hat : lookupEntry bs[i].1 bs = some bs[i].2 :=
      hbs.lookupEntry_eq_some_iff.mpr (List.getElem_mem hi')
    obtain ⟨v, hv, hr⟩ := hfound as[i] (List.getElem_mem hi)
    rw [hkey, hat, Option.some_inj] at hv
    exact ⟨hkey, hv ▸ hr⟩

end

end RecordQuery
