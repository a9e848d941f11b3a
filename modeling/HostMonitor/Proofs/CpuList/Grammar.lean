import HostMonitor.Proofs.CpuList.Parsing
import HostMonitor.Proofs.Text.Numerals
import HostMonitor.Proofs.Text.Splitting

/-!
# The grammar of lists of ids

A list without a mark in front is `all`, or elements between commas, each an id or two ids around a
dash. `Names` says what one element stands for, `IsListing` when a text consists of such elements,
and `Covers` which ids it then denotes. `parse_unmarked` ties the three to the reader.
-/

namespace HostMonitor.CpuList

open Text

variable {configured ids : List Nat} {text token : List Char} {s : Span} {id : Nat}

/-! ## The grammar -/

/-- Whether `s` is written for `id`; an id is a word of 64 bits. -/
def IsId (s : List Char) (id : Nat) : Prop :=
  Numeral.Denotes s id ∧ id ≤ 2 ^ 64 - 1

/-- What an element stands for once the blanks around it are off. The dash between two ids is the
first there is. -/
inductive Names : List Char → Span → Prop where
  | id {t : List Char} {n : Nat} (h : IsId t n) : Names t ⟨n, n⟩
  | range {a b : List Char} {m n : Nat} (cut : '-' ∉ a) (first : IsId (trim a) m)
    (last : IsId (trim b) n) (order : m ≤ n) : Names (a ++ '-' :: b) ⟨m, n⟩

/-- Whether every id of a span may be taken; where nothing is configured, all of them may. -/
def Span.Within (configured : List Nat) (s : Span) : Prop :=
  configured ≠ [] → ∀ id, s.first ≤ id → id ≤ s.last → id ∈ configured

/-- Whether `text` consists of elements that may be taken. -/
structure IsListing (configured : List Nat) (text : List Char) : Prop where
  nonempty : text ≠ []
  element : ∀ piece ∈ splitAt ',' text, ∃ s, Names (trim piece) s ∧ s.Within configured

/-- Whether `id` is in the span of some element of `text`. -/
def Covers (text : List Char) (id : Nat) : Prop :=
  ∃ piece ∈ splitAt ',' text, ∃ s, Names (trim piece) s ∧ s.first ≤ id ∧ id ≤ s.last

/-! ## Elements -/

theorem word?_eq_some_iff : Numeral.word? token = some id ↔ IsId token id := by
  have limit : Numeral.wordLimit = 2 ^ 64 := by decide
  rw [Numeral.word?_eq_some_iff, limit]
  exact and_congr_right fun _ => by omega

theorem parseId_eq_ok_iff : parseId text token = .ok id ↔ IsId (trim token) id := by
  rw [← word?_eq_some_iff]
  unfold parseId
  cases Numeral.word? (trim token) with
  | none => simp
  | some n => simp

theorem notMem_of_isId (h : IsId token id) : '-' ∉ token := by
  intro dash
  rcases h.1.isDigit_of_mem dash with h | h <;> exact absurd h (by decide)

theorem Span.within_iff :
    s.Within configured ↔ configured = [] ∨ ∀ id ∈ s.ids, id ∈ configured := by
  simp only [Within, mem_ids, and_imp, ne_eq, Classical.or_iff_not_imp_left]

theorem names_iff_of_notMem (h : '-' ∉ token) :
    Names token s ↔ IsId token s.first ∧ s.first = s.last := by
  constructor
  · intro names
    cases names with
    | id n => exact ⟨n, rfl⟩
    | range => simp at h
  · rintro ⟨n, same⟩
    obtain ⟨first, last⟩ := s
    cases same
    exact .id n

theorem names_iff_of_cut {a b : List Char} (h : cut '-' token = some (a, b)) :
    Names token s ↔ IsId (trim a) s.first ∧ IsId (trim b) s.last ∧ s.first ≤ s.last := by
  constructor
  · intro names
    cases names with
    | id n =>
      have dash : '-' ∈ token := by simp [(cut_eq_some_iff.mp h).1]
      exact absurd dash (notMem_of_isId n)
    | range dash first last order =>
      rw [cut_eq_some_iff.mpr ⟨rfl, dash⟩] at h
      cases h
      exact ⟨first, last, order⟩
  · rintro ⟨first, last, order⟩
    obtain ⟨rfl, dash⟩ := cut_eq_some_iff.mp h
    exact .range dash first last order

theorem parseSpan_eq_ok_iff (trimmed : trim token = token) :
    parseSpan text token = .ok s ∧ s.first ≤ s.last ↔ Names token s := by
  obtain ⟨first, last⟩ := s
  unfold parseSpan
  cases hc : cut '-' token with
  | none =>
    rw [names_iff_of_notMem (cut_eq_none_iff.mp hc)]
    simp only [Except.bind_eq_ok_iff, parseId_eq_ok_iff, trimmed]
    constructor
    · rintro ⟨⟨n, hn, he⟩, -⟩
      cases he
      exact ⟨hn, rfl⟩
    · rintro ⟨hn, rfl⟩
      exact ⟨⟨first, hn, rfl⟩, Nat.le_refl first⟩
  | some ab =>
    rw [names_iff_of_cut hc]
    simp only [Except.bind_eq_ok_iff, parseId_eq_ok_iff]
    constructor
    · rintro ⟨⟨m, hm, n, hn, he⟩, order⟩
      cases he
      exact ⟨hm, hn, order⟩
    · rintro ⟨hm, hn, order⟩
      exact ⟨⟨first, hm, last, hn, rfl⟩, order⟩

/-- An element stands for one span only. -/
theorem Names.unique {s' : Span} (trimmed : trim token = token) (h : Names token s)
    (h' : Names token s') : s = s' := by
  have read : parseSpan token token = .ok s ∧ _ := (parseSpan_eq_ok_iff trimmed).mpr h
  have read' : parseSpan token token = .ok s' ∧ _ := (parseSpan_eq_ok_iff trimmed).mpr h'
  exact Except.ok.inj (read.1.symm.trans read'.1)

theorem Names.ne_nil (h : Names token s) : token ≠ [] := by
  cases h with
  | id n => exact n.1.ne_nil
  | range => simp

theorem parseElement_eq_ok_iff_names :
    parseElement configured text token = .ok ids ↔
      ∃ s, Names (trim token) s ∧ s.Within configured ∧ s.ids = ids := by
  rw [parseElement_eq_ok_iff]
  simp only [← Span.within_iff]
  constructor
  · rintro ⟨-, s, read, order, within, hi⟩
    exact ⟨s, (parseSpan_eq_ok_iff (trim_trim token)).mp ⟨read, order⟩, within, hi⟩
  · rintro ⟨s, names, within, hi⟩
    obtain ⟨read, order⟩ := (parseSpan_eq_ok_iff (trim_trim token)).mpr names
    exact ⟨names.ne_nil, s, read, order, within, hi⟩

/-! ## Lists of elements -/

variable {tokens : List (List Char)}

theorem exists_parseElements_iff :
    (∃ ids, parseElements configured text tokens = .ok ids) ↔
      ∀ piece ∈ tokens, ∃ s, Names (trim piece) s ∧ s.Within configured := by
  induction tokens with
  | nil => simp [parseElements]
  | cons token rest ih =>
    rw [List.forall_mem_cons, ← ih]
    simp only [parseElements, Except.bind_eq_ok_iff, parseElement_eq_ok_iff_names]
    constructor
    · rintro ⟨ids, first, ⟨s, names, within, -⟩, more, hm, -⟩
      exact ⟨⟨s, names, within⟩, more, hm⟩
    · rintro ⟨⟨s, names, within⟩, more, hm⟩
      exact ⟨_, _, ⟨s, names, within, rfl⟩, more, hm, rfl⟩

theorem mem_iff_of_parseElements (h : parseElements configured text tokens = .ok ids) :
    id ∈ ids ↔ ∃ piece ∈ tokens, ∃ s, Names (trim piece) s ∧ s.first ≤ id ∧ id ≤ s.last := by
  induction tokens generalizing ids with
  | nil =>
    cases h
    simp
  | cons token rest ih =>
    obtain ⟨first, hf, h⟩ := Except.bind_eq_ok_iff.mp h
    obtain ⟨more, hm, h⟩ := Except.bind_eq_ok_iff.mp h
    cases h
    obtain ⟨s, names, -, rfl⟩ := parseElement_eq_ok_iff_names.mp hf
    simp only [List.mem_append, ih hm, List.mem_cons, exists_eq_or_imp, Span.mem_ids]
    refine or_congr_left ⟨fun bounds => ⟨s, names, bounds⟩, ?_⟩
    rintro ⟨s', names', bounds⟩
    rwa [names.unique (trim_trim token) names']

/-! ## Texts -/

/-- A text without a mark is accepted exactly if it is `all` or a listing. Its ids then come in
ascending order, each once: the configured ones for `all`, and otherwise those that some element
covers. -/
theorem parse_unmarked {text : String} (unmarked : ¬IsMarked (trim text.toList))
    (configured : List Nat) :
    ((∃ ids, parse text configured = .ok ids) ↔
      IsAll (trim text.toList) ∨ IsListing configured (trim text.toList)) ∧
    ∀ ids, parse text configured = .ok ids →
      ids.Pairwise (· < ·) ∧
      (IsAll (trim text.toList) → ∀ id, id ∈ ids ↔ id ∈ configured) ∧
      (¬IsAll (trim text.toList) → ∀ id, id ∈ ids ↔ Covers (trim text.toList) id) := by
  rw [parse, parseChars_of_not_isMarked unmarked]
  by_cases every : IsAll (trim text.toList)
  · rw [parsePlain_of_isAll every]
    refine ⟨⟨fun _ => .inl every, fun _ => ⟨_, rfl⟩⟩, ?_⟩
    rintro ids ⟨⟩
    exact ⟨pairwise_ascending configured, fun _ id => mem_ascending, absurd every⟩
  · constructor
    · rw [or_iff_right every]
      constructor
      · rintro ⟨ids, h⟩
        have nonempty := ne_nil_of_parsePlain h
        rw [parsePlain_of_not_isAll every nonempty, Except.map_eq_ok_iff] at h
        obtain ⟨elements, he, -⟩ := h
        exact ⟨nonempty, exists_parseElements_iff.mp ⟨elements, he⟩⟩
      · rintro ⟨nonempty, element⟩
        obtain ⟨elements, he⟩ := exists_parseElements_iff.mpr element
        exact ⟨ascending elements, by
          rw [parsePlain_of_not_isAll every nonempty, he]
          rfl⟩
    · intro ids h
      rw [parsePlain_of_not_isAll every (ne_nil_of_parsePlain h), Except.map_eq_ok_iff] at h
      obtain ⟨elements, he, rfl⟩ := h
      refine ⟨pairwise_ascending elements, (absurd · every), fun _ id => ?_⟩
      rw [mem_ascending, mem_iff_of_parseElements he, Covers]

/-- Blanks at three places, a sign, a leading zero and spans that overlap. -/
theorem parse_unmarked_overlapping :
    ¬IsMarked (trim " 2 -\t+03, 7,3-3\n".toList) ∧
      parse " 2 -\t+03, 7,3-3\n" [9, 7, 3, 2, 7] = .ok [2, 3, 7] ∧
      IsListing [9, 7, 3, 2, 7] (trim " 2 -\t+03, 7,3-3\n".toList) ∧
      ∀ id, id ∈ [2, 3, 7] ↔ Covers (trim " 2 -\t+03, 7,3-3\n".toList) id := by
  have unmarked : ¬IsMarked (trim " 2 -\t+03, 7,3-3\n".toList) := by decide
  have listed : ¬IsAll (trim " 2 -\t+03, 7,3-3\n".toList) := by decide
  have sorted : ascending [2, 3, 7, 3] = [2, 3, 7] :=
    ascending_of_members (by decide) (by decide) (by decide)
  have read : parse " 2 -\t+03, 7,3-3\n" [9, 7, 3, 2, 7] = .ok [2, 3, 7] :=
    sorted ▸ parse_of_parseElements ⟨listed, unmarked⟩ (by decide) rfl
  obtain ⟨accepted, members⟩ := parse_unmarked unmarked [9, 7, 3, 2, 7]
  exact ⟨unmarked, read, (accepted.mp ⟨_, read⟩).resolve_left listed, (members _ read).2.2 listed⟩

end HostMonitor.CpuList
