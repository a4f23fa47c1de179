import RecordQuery.Proofs.Json.Containers
import RecordQuery.Proofs.Results
import RecordQuery.Proofs.Syntax.Boundaries

/-! # Documents on further lines

What a reader takes off the front of a text does not depend on the lines behind that
text.  So a text with another one on the next line holds the documents of the first
and then those of the second, up to the first fault.
-/

namespace RecordQuery

namespace Json

/-! ## Readings and further lines -/

/--
The second reading is the first one with the lines `more` behind the text: if the
first succeeds, it leaves at most `n` characters, and the second leaves these and the
lines.
-/
def Carries {α : Type} (more : List Char) (n : Nat)
    (result longer : Except Fault (α × List Char)) : Prop :=
  ∀ a rest, result = .ok (a, rest) → rest.length ≤ n ∧ longer = .ok (a, rest ++ '\n' :: more)

namespace Carries

variable {α β : Type} {more : List Char} {n m : Nat}
  {result longer : Except Fault (α × List Char)}

theorem ok {a : α} {rest : List Char} (h : rest.length ≤ n) :
    Carries more n (.ok (a, rest)) (.ok (a, rest ++ '\n' :: more)) := by
  intro b rest' heq
  cases heq
  exact ⟨h, rfl⟩

theorem error {fault : Fault} : Carries more n (.error fault) longer :=
  fun _ _ => nofun

theorem mono (h : Carries more n result longer) (hle : n ≤ m) : Carries more m result longer :=
  fun a rest heq => ⟨(h a rest heq).1.trans hle, (h a rest heq).2⟩

theorem bind {f g : α × List Char → Except Fault (β × List Char)}
    (h : Carries more n result longer)
    (hf : ∀ a rest, rest.length ≤ n → Carries more m (f (a, rest)) (g (a, rest ++ '\n' :: more))) :
    Carries more m (result >>= f) (longer >>= g) := by
  intro b rest heq
  obtain ⟨⟨a, middle⟩, hresult, heq⟩ := bind_eq_ok heq
  obtain ⟨hle, rfl⟩ := h a middle hresult
  exact hf a middle hle b rest heq

end Carries

theorem skipBlank_length_le (cs : List Char) : (skipBlank cs).length ≤ cs.length :=
  (List.dropWhile_sublist _).length_le

theorem skipBlank_append_of_nil {cs : List Char} (h : skipBlank cs = []) (more : List Char) :
    skipBlank (cs ++ '\n' :: more) = skipBlank more := by
  rw [skipBlank] at h ⊢
  rw [List.dropWhile_append, h]
  rfl

theorem skipBlank_append_of_cons {cs rest : List Char} {c : Char} (h : skipBlank cs = c :: rest)
    (more : List Char) : skipBlank (cs ++ '\n' :: more) = c :: (rest ++ '\n' :: more) := by
  rw [skipBlank] at h ⊢
  rw [List.dropWhile_append, h]
  rfl

section

variable (more : List Char)

/-! ## Scalars -/

theorem literal_carries (j : Json) (word cs : List Char) :
    Carries more cs.length (literal j word cs) (literal j word (cs ++ '\n' :: more)) := by
  induction word generalizing cs with
  | nil => exact .ok (Nat.le_refl _)
  | cons w word ih =>
      cases cs with
      | nil => exact .error
      | cons c cs =>
          rw [List.cons_append, literal, literal]
          split
          · exact (ih cs).mono (Nat.le_succ _)
          · exact .error

theorem hexUnit_carries (cs : List Char) :
    Carries more cs.length (hexUnit cs) (hexUnit (cs ++ '\n' :: more)) := by
  rcases cs with - | ⟨a, - | ⟨b, - | ⟨c, - | ⟨d, cs⟩⟩⟩⟩
  case cons.cons.cons.cons =>
    simp only [List.cons_append, hexUnit]
    cases Text.hexUnit? a b c d with
    | none => exact .error
    | some unit => exact .ok (by simp only [List.length_cons]; omega)
  all_goals exact .error

theorem unicodeEscape_carries (cs : List Char) :
    Carries more cs.length (unicodeEscape cs) (unicodeEscape (cs ++ '\n' :: more)) := by
  refine (hexUnit_carries more cs).bind fun high rest hle => ?_
  dsimp only
  split
  · exact .error
  split
  · split
    · rename_i behind
      refine (hexUnit_carries more behind).bind fun low rest hle' => ?_
      simp only [List.length_cons] at hle
      dsimp only
      split
      · exact .ok (by omega)
      · exact .error
    · exact .error
    · exact .error
  · exact .ok hle

theorem escape_carries (cs : List Char) :
    Carries more cs.length (escape cs) (escape (cs ++ '\n' :: more)) := by
  cases cs with
  | nil => exact .error
  | cons c cs =>
      unfold escape
      rw [List.cons_append]
      dsimp only
      split
      case h_9 => exact (unicodeEscape_carries more cs).mono (Nat.le_succ _)
      case h_10 => exact .error
      all_goals exact .ok (Nat.le_succ _)

theorem stringBody_carries {fuel fuel' : Nat} (h : fuel ≤ fuel') (cs : List Char) :
    Carries more cs.length (stringBody fuel cs) (stringBody fuel' (cs ++ '\n' :: more)) := by
  induction fuel generalizing fuel' cs with
  | zero => exact .error
  | succ fuel ih =>
      obtain ⟨fuel', rfl⟩ : ∃ k, fuel' = k + 1 := ⟨fuel' - 1, by omega⟩
      have hfuel : fuel ≤ fuel' := by omega
      cases cs with
      | nil => exact .error
      | cons c cs =>
        by_cases hquote : c = '"'
        · subst hquote
          exact .ok (Nat.le_succ _)
        by_cases hbackslash : c = '\\'
        · subst hbackslash
          refine (escape_carries more cs).bind fun c rest hle => ?_
          refine (ih hfuel rest).bind fun text rest' hle' => ?_
          exact .ok (by simp only [List.length_cons]; omega)
        · have hq : c = '"' → False := hquote
          have hb : c = '\\' → False := hbackslash
          rw [List.cons_append, stringBody.eq_5 _ _ _ hq hb, stringBody.eq_5 _ _ _ hq hb]
          split
          · exact .error
          · refine (ih hfuel cs).bind fun text rest hle => ?_
            exact .ok (by simp only [List.length_cons]; omega)

theorem stringRest_carries (cs : List Char) :
    Carries more cs.length (stringRest cs) (stringRest (cs ++ '\n' :: more)) := by
  have hfuel : cs.length + 1 ≤ (cs ++ '\n' :: more).length + 1 := by simp
  exact (stringBody_carries more hfuel cs).bind fun text rest hle => .ok hle

/-! ## Numbers -/

theorem numeralFault?_append {n : Numeral} {rest : List Char} (h : numeralFault? n rest = none) :
    numeralFault? n (rest ++ '\n' :: more) = none := by
  cases rest with
  | nil =>
      have hbreak : isDigit '\n' = false := by decide
      simp [numeralFault?, hbreak]
  | cons c rest =>
      unfold numeralFault? at h ⊢
      rw [List.cons_append]
      dsimp only at h ⊢
      split_ifs at h ⊢ with hdigit hpoint hexponent
      · split at h <;> cases h
      · rfl

theorem number_carries (cs : List Char) :
    Carries more (cs.length - 1) (number cs) (number (cs ++ '\n' :: more)) := by
  have hbreak : ∀ c ∈ ('\n' :: more).head?, endsToken c = true := by
    rintro c ⟨⟩
    decide
  rw [number, number, split?_boundary hbreak]
  cases hsplit : Numeral.split? cs with
  | none => exact .error
  | some found =>
      obtain ⟨n, rest⟩ := found
      have hnumeral : Recognise.numeral cs = some (cs.length - rest.length) := by
        rw [Recognise.numeral, hsplit]
        rfl
      obtain ⟨hpos, -, -⟩ := Recognise.numeral_startsWith cs _ hnumeral
      dsimp only [Option.map_some]
      cases hfault : numeralFault? n rest with
      | some fault => exact .error
      | none =>
          rw [numeralFault?_append more hfault]
          cases ofNumeral? n with
          | none => exact .error
          | some j => exact .ok (by omega)

/-! ## Containers -/

/-- Lines behind the text make no difference to the reader. -/
def Stable {α : Type} (reader : Reader α) : Prop :=
  ∀ cs, Carries more cs.length (reader cs) (reader (cs ++ '\n' :: more))

variable {item : Reader Json} {close c : Char} {first : Bool} {cs rest start : List Char}

theorem entry_stable (hitem : Stable more item) : Stable more (entry item) := by
  intro cs
  cases cs with
  | nil => exact .error
  | cons c cs =>
      by_cases hquote : c = '"'
      · subst hquote
        refine (stringRest_carries more cs).bind fun key rest hle => ?_
        dsimp only
        have hle' := skipBlank_length_le rest
        cases hskip : skipBlank rest with
        | nil => exact .error
        | cons d behind =>
            rw [hskip, List.length_cons] at hle'
            rw [skipBlank_append_of_cons hskip]
            by_cases hcolon : d = ':'
            · subst hcolon
              refine (hitem behind).bind fun j rest' hle'' => ?_
              exact .ok (by simp only [List.length_cons]; omega)
            · split
              · rename_i heq
                cases heq
                exact absurd rfl hcolon
              · exact .error
      · rw [entry_cons_of_ne hquote]
        exact .error

theorem itemStart_append (h : itemStart close first c rest = .ok start) :
    start.length ≤ rest.length + 1 ∧
      itemStart close first c (rest ++ '\n' :: more) = .ok (start ++ '\n' :: more) := by
  unfold itemStart at h ⊢
  split_ifs at h ⊢ with hfirst hcomma
  · cases h
    exact ⟨Nat.le_refl _, rfl⟩
  · have hle := skipBlank_length_le rest
    cases hskip : skipBlank rest with
    | nil =>
        rw [hskip] at h
        cases h
    | cons d behind =>
        rw [hskip] at h hle
        rw [skipBlank_append_of_cons hskip]
        dsimp only at h ⊢
        split_ifs at h ⊢
        cases h
        exact ⟨hle.trans (Nat.le_succ _), rfl⟩

theorem containerRest_carries {α : Type} {reader : Reader α} {fuel fuel' : Nat}
    (hreader : Stable more reader) (h : fuel ≤ fuel') (first : Bool) (cs : List Char) :
    Carries more cs.length (containerRest close reader fuel first cs)
      (containerRest close reader fuel' first (cs ++ '\n' :: more)) := by
  induction fuel generalizing fuel' first cs with
  | zero => exact .error
  | succ fuel ih =>
      obtain ⟨fuel', rfl⟩ : ∃ k, fuel' = k + 1 := ⟨fuel' - 1, by omega⟩
      have hle := skipBlank_length_le cs
      rw [containerRest, containerRest]
      cases hskip : skipBlank cs with
      | nil => exact .error
      | cons c rest =>
          rw [hskip, List.length_cons] at hle
          rw [skipBlank_append_of_cons hskip]
          dsimp only
          split
          · exact .ok (by omega)
          cases hstart : itemStart close first c rest with
          | error fault => exact .error
          | ok start =>
              obtain ⟨hle', hstart'⟩ := itemStart_append more hstart
              rw [hstart']
              refine (hreader start).bind fun a rest hrest => ?_
              refine (ih (by omega) false rest).bind fun others rest' hrest' => ?_
              exact .ok (hrest'.trans (by omega))

/-! ## Values -/

theorem value_eq_number {depth : Nat} (h : skipBlank cs = c :: rest)
    (hc : c = '-' ∨ isDigit c = true) : value depth cs = number (c :: rest) := by
  rw [value, h]
  split <;> rename_i heq <;> cases heq
  case h_8 => exact if_pos hc
  all_goals exact absurd hc (by decide)

theorem value_carries_of_inner {depth : Nat}
    (hinner : ∀ inner, depth = inner + 1 → Stable more (value inner)) (cs : List Char) :
    Carries more (cs.length - 1) (value depth cs) (value depth (cs ++ '\n' :: more)) := by
  have hle := skipBlank_length_le cs
  cases hskip : skipBlank cs with
  | nil =>
      rw [value, hskip]
      exact .error
  | cons c rest =>
      rw [hskip, List.length_cons] at hle
      have hskip' := skipBlank_append_of_cons hskip more
      have hrest : rest.length ≤ cs.length - 1 := by omega
      have hfuel : rest.length + 1 ≤ (rest ++ '\n' :: more).length + 1 := by simp
      -- a number alone is read with its first character
      by_cases hnumber : c = '-' ∨ isDigit c = true
      · rw [value_eq_number hskip hnumber, value_eq_number hskip' hnumber]
        exact (number_carries more (c :: rest)).mono hrest
      rw [value, value, hskip, hskip']
      split <;> rename_i heq <;> cases heq
      case h_2 | h_3 | h_4 => exact (literal_carries more _ _ rest).mono hrest
      case h_5 =>
        exact (stringRest_carries more rest).bind fun text rest' hle' => .ok (hle'.trans hrest)
      case h_6 =>
        cases depth with
        | zero => exact .error
        | succ inner =>
            dsimp only
            rw [arrayRest_eq]
            exact (containerRest_carries more (hinner inner rfl) hfuel true rest).bind
              fun items rest' hle' => .ok (hle'.trans hrest)
      case h_7 =>
        cases depth with
        | zero => exact .error
        | succ inner =>
            dsimp only
            rw [objectRest_eq]
            exact (containerRest_carries more (entry_stable more (hinner inner rfl)) hfuel true
              rest).bind fun entries rest' hle' => .ok (hle'.trans hrest)
      case h_8 =>
        rw [if_neg hnumber]
        exact .error

/-- A value takes at least one character off the text, with or without further lines. -/
theorem value_carries (depth : Nat) (cs : List Char) :
    Carries more (cs.length - 1) (value depth cs) (value depth (cs ++ '\n' :: more)) := by
  induction depth generalizing cs with
  | zero => exact value_carries_of_inner more (fun inner hinner => absurd hinner (by omega)) cs
  | succ depth ih =>
      refine value_carries_of_inner more (fun inner hinner cs => ?_) cs
      cases hinner
      exact (ih cs).mono (Nat.sub_le _ _)

end

/-! ## Streams -/

section

variable {cs rest more : List Char} {documents : List Json} {fuel fuel' : Nat}

theorem endsWord_append (h : endsWord rest = true) : endsWord (rest ++ '\n' :: more) = true := by
  cases rest with
  | nil => rfl
  | cons c rest => exact h

/-- What is left behind a document is shorter than what stood in front of it. -/
theorem length_lt_of_value {depth : Nat} {c : Char} {document : Json}
    (h : value depth (c :: cs) = .ok (document, rest)) : rest.length ≤ cs.length :=
  (value_carries [] depth (c :: cs) document rest h).1

/-- Fuel beyond the length of the text changes nothing. -/
theorem stream_eq (h : cs.length < fuel) (h' : cs.length < fuel') :
    stream fuel cs = stream fuel' cs := by
  induction fuel generalizing fuel' cs with
  | zero => cases h
  | succ fuel ih =>
      obtain ⟨fuel', rfl⟩ : ∃ k, fuel' = k + 1 := ⟨fuel' - 1, by omega⟩
      have hle := skipBlank_length_le cs
      rw [stream, stream]
      cases hskip : skipBlank cs with
      | nil => rfl
      | cons c rest =>
          rw [hskip, List.length_cons] at hle
          refine bind_congr_ok fun ⟨document, behind⟩ hvalue => ?_
          have hlt := length_lt_of_value hvalue
          dsimp only
          rw [ih (by omega) (by omega : behind.length < fuel')]

/-- Blanks in front of a stream make no difference. -/
theorem stream_skipBlank (h : skipBlank cs = skipBlank more) :
    stream (fuel + 1) cs = stream (fuel + 1) more := by
  rw [stream, stream, h]

/-- The documents of a text with further lines: those of the text, then those of the lines. -/
theorem stream_append (h : stream fuel cs = .ok documents) (hfuel : cs.length < fuel)
    (hfuel' : (cs ++ '\n' :: more).length < fuel') :
    stream fuel' (cs ++ '\n' :: more) =
      (stream (more.length + 1) more).map (documents ++ ·) := by
  induction fuel generalizing fuel' cs documents with
  | zero => cases hfuel
  | succ fuel ih =>
      obtain ⟨fuel', rfl⟩ : ∃ k, fuel' = k + 1 := ⟨fuel' - 1, by omega⟩
      have hle := skipBlank_length_le cs
      rw [List.length_append, List.length_cons] at hfuel'
      rw [stream] at h
      cases hskip : skipBlank cs with
      | nil =>
          rw [hskip] at h
          cases h
          -- the line break is blank as well, so the stream goes on with the lines
          rw [stream_skipBlank (skipBlank_append_of_nil hskip more),
            stream_eq (by omega : more.length < fuel' + 1) (Nat.lt_succ_self _)]
          cases stream (more.length + 1) more <;> rfl
      | cons c rest =>
          rw [hskip] at h hle
          obtain ⟨⟨document, behind⟩, hvalue, h⟩ := bind_eq_ok h
          obtain ⟨hlt, hvalue'⟩ := value_carries more _ _ _ _ hvalue
          dsimp only at h
          split at h
          · rename_i hends
            obtain ⟨others, hothers, h⟩ := bind_eq_ok h
            cases h
            simp only [List.length_cons] at hle hlt
            have hends' : (isDelimited c || endsWord (behind ++ '\n' :: more)) = true := by
              rw [Bool.or_eq_true] at hends ⊢
              exact hends.imp_right endsWord_append
            have hrest := ih hothers (by omega)
              (by rw [List.length_append, List.length_cons]; omega :
                (behind ++ '\n' :: more).length < fuel')
            rw [List.cons_append] at hvalue'
            rw [stream, skipBlank_append_of_cons hskip]
            simp only [bind, Except.bind, hvalue', hends', if_true, hrest]
            cases stream (more.length + 1) more <;> rfl
          · cases h

end

/-- The documents of two texts on lines of their own. -/
theorem documents_append {first : String} {found : List Json} (h : documents first = .ok found)
    (second : String) :
    documents (first ++ "\n" ++ second) = (documents second).map (found ++ ·) := by
  have htext : (first ++ "\n" ++ second).toList = first.toList ++ '\n' :: second.toList := by
    simp
  rw [documents, documents, htext]
  exact stream_append h (Nat.lt_succ_self _) (Nat.lt_succ_self _)

end Json

end RecordQuery
