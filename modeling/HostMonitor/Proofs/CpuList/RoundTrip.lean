import HostMonitor.Proofs.CpuList.Grammar
import HostMonitor.Proofs.CpuList.Runs

/-!
# Reading what was written

Each run of a list is read back as the span that it is. So the text of a list of ids is read as the
set of its ids, and two lists have one text exactly if they have the same ids.
-/

namespace HostMonitor.CpuList

open Text

variable {ids : List Nat} {spans : List Span} {s : Span} {c : Char} {text : String}

/-! ## Written spans -/

theorem isDigit_of_mem_digits {n : Nat} (h : c ∈ Numeral.digits n) : Numeral.isDigit c = true :=
  List.all_eq_true.mp (Numeral.all_digits n) c h

/-- The characters of a span hold no blank and no comma. -/
theorem Span.isDigit_of_mem_chars (h : c ∈ s.chars) : Numeral.isDigit c = true ∨ c = '-' := by
  rw [chars] at h
  split at h
  · exact .inl (isDigit_of_mem_digits h)
  · rcases List.mem_append.mp h with h | h
    · exact .inl (isDigit_of_mem_digits h)
    rcases List.mem_cons.mp h with rfl | h
    · exact .inr rfl
    · exact .inl (isDigit_of_mem_digits h)

theorem trim_digits (n : Nat) : trim (Numeral.digits n) = Numeral.digits n :=
  trim_of_forall_not_isBlank fun _ hc => Numeral.not_isBlank_of_isDigit (isDigit_of_mem_digits hc)

theorem isId_digits {n : Nat} (h : n ≤ 2 ^ 64 - 1) : IsId (Numeral.digits n) n := by
  have limit : Numeral.wordLimit = 2 ^ 64 := by decide
  rw [← word?_eq_some_iff]
  exact Numeral.word?_digits (by omega)

theorem names_chars (order : s.first ≤ s.last) (bounded : s.last ≤ 2 ^ 64 - 1) :
    Names s.chars s := by
  obtain ⟨first, last⟩ := s
  have hf : IsId (Numeral.digits first) first := isId_digits (Nat.le_trans order bounded)
  have hl : IsId (Numeral.digits last) last := isId_digits bounded
  unfold Span.chars
  split
  · next single =>
    cases single
    exact .id hf
  · refine .range (fun dash => ?_) (by rwa [trim_digits]) (by rwa [trim_digits]) order
    exact absurd (isDigit_of_mem_digits dash) (by decide)

theorem parseElements_map_chars {spans : List Span} (text : List Char)
    (h : ∀ s ∈ spans, s.first ≤ s.last ∧ s.last ≤ 2 ^ 64 - 1) :
    parseElements [] text (spans.map Span.chars) = .ok (spans.flatMap Span.ids) := by
  induction spans with
  | nil => rfl
  | cons s spans ih =>
    obtain ⟨⟨order, bounded⟩, rest⟩ := List.forall_mem_cons.mp h
    have clean : trim s.chars = s.chars := by
      refine trim_of_forall_not_isBlank fun c hc => ?_
      rcases Span.isDigit_of_mem_chars hc with h | rfl
      · exact Numeral.not_isBlank_of_isDigit h
      · rfl
    have first : parseElement [] text s.chars = .ok s.ids := by
      refine parseElement_eq_ok_iff_names.mpr ⟨s, ?_, absurd rfl, rfl⟩
      rw [clean]
      exact names_chars order bounded
    rw [List.map_cons, parseElements, first, ih rest]
    rfl

/-! ## Written lists -/

theorem isDigit_of_mem_spansChars (h : c ∈ spansChars spans) :
    Numeral.isDigit c = true ∨ c = '-' ∨ c = ',' := by
  rcases mem_joinWith h with rfl | ⟨w, hw, hc⟩
  · exact .inr (.inr rfl)
  · obtain ⟨s, -, rfl⟩ := List.mem_map.mp hw
    rcases Span.isDigit_of_mem_chars hc with h | rfl
    · exact .inl h
    · exact .inr (.inl rfl)

theorem trim_spansChars (spans : List Span) : trim (spansChars spans) = spansChars spans := by
  refine trim_of_forall_not_isBlank fun c hc => ?_
  rcases isDigit_of_mem_spansChars hc with h | rfl | rfl
  · exact Numeral.not_isBlank_of_isDigit h
  · rfl
  · rfl

theorem not_isMarked_spansChars (spans : List Span) : ¬IsMarked (spansChars spans) := by
  intro marked
  rcases isDigit_of_mem_spansChars (List.mem_of_head? marked) with h | h | h <;>
    exact absurd h (by decide)

theorem not_isAll_spansChars (spans : List Span) : ¬IsAll (spansChars spans) := by
  intro every
  have letter : 'a' ∈ asciiLower (spansChars spans) := by
    rw [show asciiLower (spansChars spans) = "all".toList from every]
    decide
  obtain ⟨c, hc, lower⟩ := List.mem_map.mp letter
  rcases isDigit_of_mem_spansChars hc with h | rfl | rfl
  · rw [Numeral.toLower_of_isDigit h] at lower
    subst lower
    exact absurd h (by decide)
  · exact absurd lower (by decide)
  · exact absurd lower (by decide)

theorem splitAt_spansChars (nonempty : spans ≠ []) :
    splitAt ',' (spansChars spans) = spans.map Span.chars := by
  refine splitAt_joinWith (by simpa using nonempty) fun w hw comma => ?_
  obtain ⟨s, -, rfl⟩ := List.mem_map.mp hw
  rcases Span.isDigit_of_mem_chars comma with h | h <;> exact absurd h (by decide)

theorem Span.chars_ne_nil (s : Span) : s.chars ≠ [] := by
  unfold chars
  split
  · exact Numeral.digitsOnto_ne_nil _ _
  · simp

theorem spansChars_ne_nil (nonempty : spans ≠ []) : spansChars spans ≠ [] := by
  intro none
  have piece : [] ∈ spans.map Span.chars := by
    rw [← splitAt_spansChars nonempty, none]
    exact List.mem_singleton.mpr rfl
  obtain ⟨s, -, hs⟩ := List.mem_map.mp piece
  exact s.chars_ne_nil hs

theorem parsePlain_spansChars (nonempty : spans ≠ [])
    (sound : ∀ s ∈ spans, s.first ≤ s.last ∧ s.last ≤ 2 ^ 64 - 1) :
    parsePlain [] (spansChars spans) = .ok (ascending (spans.flatMap Span.ids)) := by
  rw [parsePlain_of_not_isAll (not_isAll_spansChars spans) (spansChars_ne_nil nonempty),
    splitAt_spansChars nonempty, parseElements_map_chars _ sound]
  rfl

/-- Blanks around written spans do not matter. -/
theorem parse_of_trim_eq_spansChars {padded : String}
    (trimmed : trim padded.toList = spansChars spans)
    (nonempty : spans ≠ []) (sound : ∀ s ∈ spans, s.first ≤ s.last ∧ s.last ≤ 2 ^ 64 - 1) :
    parse padded [] = .ok (ascending (spans.flatMap Span.ids)) := by
  have unmarked : ¬IsMarked (trim padded.toList) := trimmed ▸ not_isMarked_spansChars spans
  rw [parse, parseChars_of_not_isMarked unmarked, trimmed, parsePlain_spansChars nonempty sound]

theorem parse_text {id : Nat} (small : id < 2 ^ 64) : parse (Numeral.text id) [] = .ok [id] := by
  have written : spansChars [⟨id, id⟩] = Numeral.digits id := by
    simp [spansChars, joinWith, Span.chars]
  have trimmed : trim (Numeral.text id).toList = spansChars [⟨id, id⟩] := by
    rw [Numeral.text, String.toList_ofList, trim_digits, written]
  rw [parse_of_trim_eq_spansChars trimmed (by simp) (by simp; omega), List.flatMap_singleton,
    Span.ids_singleton, ascending_of_pairwise (List.pairwise_singleton _ id)]

theorem trim_of_format (written : format ids = .ok text) : trim text.toList = text.toList := by
  obtain ⟨spans, -, rfl⟩ := format_eq_ok_iff.mp written
  rw [String.toList_ofList, trim_spansChars]

theorem format_nil : format [] = .ok "" := by
  rw [format, ascending_nil]
  rfl

theorem toList_ne_nil_of_format (written : format ids = .ok text) (nonempty : ids ≠ []) :
    text.toList ≠ [] := by
  obtain ⟨spans, found, rfl⟩ := format_eq_ok_iff.mp written
  rw [String.toList_ofList]
  refine spansChars_ne_nil fun none => nonempty ?_
  subst none
  exact ascending_eq_nil_iff.mp (ids_of_runs found).1.symm

/-- Blanks around a written list do not matter. -/
theorem parse_of_trim_eq_format {padded : String} (written : format ids = .ok text)
    (trimmed : trim padded.toList = text.toList) (nonempty : ids ≠ []) :
    parse padded [] = .ok (ascending ids) := by
  obtain ⟨spans, found, rfl⟩ := format_eq_ok_iff.mp written
  rw [String.toList_ofList] at trimmed
  obtain ⟨members, ordered⟩ := ids_of_runs found
  have sound : ∀ s ∈ spans, s.first ≤ s.last ∧ s.last ≤ 2 ^ 64 - 1 := fun s hs => by
    have fits := lt_largest_of_format written _ (mem_ascending.mp (last_mem_of_runs found hs))
    exact ⟨ordered s hs, largest_eq ▸ Nat.le_of_lt fits⟩
  have filled : spans ≠ [] := by
    rintro rfl
    exact nonempty (ascending_eq_nil_iff.mp members.symm)
  rw [parse_of_trim_eq_spansChars trimmed filled sound, members,
    ascending_of_pairwise (pairwise_ascending ids)]

theorem parse_of_format (written : format ids = .ok text) (nonempty : ids ≠ []) :
    parse text [] = .ok (ascending ids) :=
  parse_of_trim_eq_format written (trim_of_format written) nonempty

/-- What is written for a list of ids is read as the set of its ids, in ascending order. So lists
have one text exactly if they have the same ids, whatever their order and repetitions. -/
theorem parse_format (nonempty : ids ≠ []) (bounded : ∀ id ∈ ids, id < 2 ^ 64 - 1) :
    (∃ text read, format ids = .ok text ∧ parse text [] = .ok read ∧ read.Pairwise (· < ·) ∧
      ∀ id, id ∈ read ↔ id ∈ ids) ∧
    ∀ ids', (∀ id ∈ ids', id < 2 ^ 64 - 1) →
      (format ids = format ids' ↔ ∀ id, id ∈ ids ↔ id ∈ ids') := by
  rw [← largest_eq] at bounded ⊢
  obtain ⟨text, written⟩ := exists_format bounded
  have read := parse_of_format written nonempty
  refine ⟨⟨text, _, written, read, pairwise_ascending ids, fun id => mem_ascending⟩,
    fun ids' _ => ⟨fun same => ?_, fun same => ?_⟩⟩
  · rw [written] at same
    have nonempty' : ids' ≠ [] := by
      rintro rfl
      rw [format_nil, Except.ok.injEq] at same
      exact toList_ne_nil_of_format written nonempty (congrArg String.toList same)
    rw [parse_of_format same.symm nonempty'] at read
    exact ascending_eq_ascending_iff.mp (Except.ok.inj read).symm
  · rw [format, format, ascending_eq_ascending_iff.mpr same]

/-- Two runs and an id on its own, from a list that is neither in order nor without repetitions. -/
theorem parse_format_runs :
    [7, 0, 2, 1, 9, 7, 8, 5] ≠ [] ∧ (∀ id ∈ [7, 0, 2, 1, 9, 7, 8, 5], id < 2 ^ 64 - 1) ∧
      format [7, 0, 2, 1, 9, 7, 8, 5] = .ok "0-2,5,7-9" ∧
      (∃ text read, format [7, 0, 2, 1, 9, 7, 8, 5] = .ok text ∧ parse text [] = .ok read ∧
        read.Pairwise (· < ·) ∧ ∀ id, id ∈ read ↔ id ∈ [7, 0, 2, 1, 9, 7, 8, 5]) ∧
      format [7, 0, 2, 1, 9, 7, 8, 5] ≠ format [0, 1, 2, 5, 7, 9] := by
  have nonempty : [7, 0, 2, 1, 9, 7, 8, 5] ≠ [] := by decide
  have bounded : ∀ id ∈ [7, 0, 2, 1, 9, 7, 8, 5], id < 2 ^ 64 - 1 := by decide
  obtain ⟨read, texts⟩ := parse_format nonempty bounded
  have sorted : ascending [7, 0, 2, 1, 9, 7, 8, 5] = [0, 1, 2, 5, 7, 8, 9] :=
    ascending_of_members (by decide) (by decide) (by decide)
  have written : format [7, 0, 2, 1, 9, 7, 8, 5] = .ok "0-2,5,7-9" := by
    rw [format, sorted]
    decide +kernel
  refine ⟨nonempty, bounded, written, read, fun same => ?_⟩
  exact absurd (((texts [0, 1, 2, 5, 7, 9] (by decide)).mp same 8).mp (by decide)) (by decide)

end HostMonitor.CpuList
