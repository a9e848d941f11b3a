import HostMonitor.Proofs.CpuList.Members
import HostMonitor.Proofs.Except
import HostMonitor.Proofs.Text.Trim

/-!
# Reading lists of ids

What a list denotes without configured ids and what it denotes with them are the same thing, except
for the two forms that speak of the configured ids: `all`, and a mark in front of the list.
-/

namespace HostMonitor.CpuList

open Text

variable {configured ids : List Nat}

/-! ## Ids within the configured ones -/

theorem firstOutside_eq_none_iff {count first : Nat} :
    firstOutside configured count first = none ↔
      ∀ id ∈ List.range' first count, id ∈ configured := by
  induction count generalizing first with
  | zero => simp [firstOutside]
  | succ count ih =>
    rw [firstOutside, List.range'_succ, List.forall_mem_cons, ← ih]
    by_cases h : first ∈ configured <;> simp [h]

theorem outside?_eq_none_iff {s : Span} :
    s.outside? configured = none ↔ configured = [] ∨ ∀ id ∈ s.ids, id ∈ configured := by
  rw [Span.outside?]
  split
  · next h => simp [List.isEmpty_iff.mp h]
  · next h =>
    have hne : configured ≠ [] := by simpa using h
    rw [firstOutside_eq_none_iff, Span.ids]
    exact ⟨.inr, (·.resolve_left hne)⟩

/-! ## Elements -/

theorem parseElement_eq_ok_iff {text token : List Char} :
    parseElement configured text token = .ok ids ↔
      trim token ≠ [] ∧ ∃ span, parseSpan text (trim token) = .ok span ∧ span.first ≤ span.last ∧
        (configured = [] ∨ ∀ id ∈ span.ids, id ∈ configured) ∧ span.ids = ids := by
  unfold parseElement
  dsimp only
  by_cases ht : trim token = []
  · simp [ht]
  rw [if_neg (by simpa using ht), Except.bind_eq_ok_iff]
  constructor
  · rintro ⟨span, hs, h⟩
    split at h
    · cases h
    · next order =>
      split at h
      · cases h
      · next inside =>
        cases h
        exact ⟨ht, span, hs, Nat.le_of_not_lt order, outside?_eq_none_iff.mp inside, rfl⟩
  · rintro ⟨-, span, hs, order, inside, rfl⟩
    refine ⟨span, hs, ?_⟩
    rw [if_neg (Nat.not_lt.mpr order), outside?_eq_none_iff.mpr inside]

theorem parseElements_nil_of_parseElements {text : List Char} {tokens : List (List Char)}
    (h : parseElements configured text tokens = .ok ids) :
    parseElements [] text tokens = .ok ids := by
  induction tokens generalizing ids with
  | nil => exact h
  | cons token rest ih =>
    obtain ⟨first, hf, h⟩ := Except.bind_eq_ok_iff.mp h
    obtain ⟨more, hm, h⟩ := Except.bind_eq_ok_iff.mp h
    obtain ⟨ht, span, hs, order, -, hi⟩ := parseElement_eq_ok_iff.mp hf
    have hf' : parseElement [] text token = .ok first :=
      parseElement_eq_ok_iff.mpr ⟨ht, span, hs, order, .inl rfl, hi⟩
    exact Except.bind_eq_ok_iff.mpr ⟨first, hf', Except.bind_eq_ok_iff.mpr ⟨more, ih hm, h⟩⟩

theorem mem_of_parseElements {text : List Char} {tokens : List (List Char)}
    (nonempty : configured ≠ []) (h : parseElements configured text tokens = .ok ids) :
    ∀ id ∈ ids, id ∈ configured := by
  induction tokens generalizing ids with
  | nil =>
    cases h
    simp
  | cons token rest ih =>
    obtain ⟨first, hf, h⟩ := Except.bind_eq_ok_iff.mp h
    obtain ⟨more, hm, h⟩ := Except.bind_eq_ok_iff.mp h
    obtain ⟨-, span, -, -, inside, rfl⟩ := parseElement_eq_ok_iff.mp hf
    cases h
    intro id hid
    rcases List.mem_append.mp hid with hid | hid
    · exact (inside.resolve_left nonempty) id hid
    · exact ih hm id hid

/-! ## Texts without marks -/

/-- Whether a trimmed text asks for every configured id. -/
def IsAll (text : List Char) : Prop :=
  asciiLower text = "all".toList

instance (text : List Char) : Decidable (IsAll text) :=
  inferInstanceAs (Decidable (asciiLower text = "all".toList))

theorem parsePlain_of_isAll {text : List Char} (h : IsAll text) :
    parsePlain configured text = .ok (ascending configured) := by
  have hne : text ≠ [] := by
    rintro rfl
    cases h
  rw [parsePlain, if_neg (by simpa using hne)]
  exact if_pos h

theorem parsePlain_of_not_isAll {text : List Char} (h : ¬IsAll text) (hne : text ≠ []) :
    parsePlain configured text =
      (parseElements configured text (splitAt ',' text)).map ascending := by
  rw [parsePlain, if_neg (by simpa using hne)]
  exact if_neg h

theorem ne_nil_of_parsePlain {text : List Char} (h : parsePlain configured text = .ok ids) :
    text ≠ [] := by
  rintro rfl
  cases h

theorem parsePlain_nil_of_parsePlain {text : List Char} (listed : ¬IsAll text)
    (h : parsePlain configured text = .ok ids) : parsePlain [] text = .ok ids := by
  have hne := ne_nil_of_parsePlain h
  rw [parsePlain_of_not_isAll listed hne, Except.map_eq_ok_iff] at h ⊢
  obtain ⟨elements, he, h⟩ := h
  exact ⟨elements, parseElements_nil_of_parseElements he, h⟩

theorem mem_of_parsePlain {text : List Char} (nonempty : configured ≠ [])
    (h : parsePlain configured text = .ok ids) : ∀ id ∈ ids, id ∈ configured := by
  by_cases every : IsAll text
  · rw [parsePlain_of_isAll every] at h
    cases h
    exact fun id => mem_ascending.mp
  · rw [parsePlain_of_not_isAll every (ne_nil_of_parsePlain h), Except.map_eq_ok_iff] at h
    obtain ⟨elements, he, rfl⟩ := h
    exact fun id hid => mem_of_parseElements nonempty he id (mem_ascending.mp hid)

/-! ## Marks -/

/-- Whether a trimmed text has a mark in front. -/
def IsMarked (text : List Char) : Prop :=
  text.head? = some '!'

instance (text : List Char) : Decidable (IsMarked text) :=
  inferInstanceAs (Decidable (text.head? = some '!'))

theorem marks_of_not_isMarked {s : List Char} (h : ¬IsMarked (trimLeft s)) :
    marks s = (0, trimLeft s) := by
  induction s with
  | nil => rfl
  | cons c s ih =>
    unfold marks
    cases hb : isBlank c with
    | true =>
      have hc : c ≠ '!' := by
        rintro rfl
        cases hb
      rw [trimLeft_cons_of_isBlank hb] at h ⊢
      rw [if_neg hc, ih h]
      rfl
    | false =>
      rw [trimLeft_cons_of_not_isBlank hb] at h ⊢
      have hc : c ≠ '!' := by
        rintro rfl
        exact h rfl
      rw [if_neg hc]
      rfl

theorem marks_of_isMarked {s : List Char} (h : IsMarked (trimLeft s)) :
    ∃ n rest, marks s = (n + 1, rest) := by
  induction s with
  | nil => cases h
  | cons c s ih =>
    unfold marks
    by_cases hc : c = '!'
    · exact ⟨_, _, by rw [if_pos hc]⟩
    cases hb : isBlank c with
    | true =>
      rw [trimLeft_cons_of_isBlank hb] at h
      rw [if_neg hc]
      exact ih h
    | false =>
      rw [trimLeft_cons_of_not_isBlank hb] at h
      exact absurd (Option.some.inj h) hc

theorem parseChars_of_not_isMarked {s : List Char} (h : ¬IsMarked (trim s)) :
    parseChars configured s = parsePlain configured (trim s) := by
  rw [← trimLeft_trimRight] at h ⊢
  rw [parseChars, marks_of_not_isMarked h]
  dsimp only
  cases parsePlain configured (trimLeft (trimRight s)) with
  | error e => rfl
  | ok ids => rfl

theorem parseChars_of_isMarked {s : List Char} (h : IsMarked (trim s)) :
    ∃ n rest, ∀ configured, parseChars configured s =
      (parsePlain configured rest).map fun ids =>
        complement configured (complemented configured ids n) := by
  rw [← trimLeft_trimRight] at h
  obtain ⟨n, rest, hm⟩ := marks_of_isMarked h
  refine ⟨n, rest, fun configured => ?_⟩
  rw [parseChars, hm]
  rfl

/-! ## Texts -/

theorem parse_of_trim_eq_nil {text : String} (blank : trim text.toList = []) :
    parse text configured = .error .empty := by
  have hm : ¬IsMarked (trim text.toList) := by simp [IsMarked, blank]
  rw [parse, parseChars_of_not_isMarked hm, blank]
  rfl

theorem trim_ne_nil_of_parse {text : String} (h : parse text configured = .ok ids) :
    trim text.toList ≠ [] := by
  intro blank
  rw [parse_of_trim_eq_nil blank] at h
  cases h

theorem parse_all (configured : List Nat) :
    parse "all" configured = .ok (ascending configured) := by
  rw [parse, parseChars_of_not_isMarked (by decide), parsePlain_of_isAll (by decide)]

/-- A list only denotes configured ids. -/
theorem mem_of_parse {text : String} (nonempty : configured ≠ [])
    (h : parse text configured = .ok ids) : ∀ id ∈ ids, id ∈ configured := by
  by_cases hm : IsMarked (trim text.toList)
  · obtain ⟨n, rest, hp⟩ := parseChars_of_isMarked hm
    rw [parse, hp, Except.map_eq_ok_iff] at h
    obtain ⟨plain, -, rfl⟩ := h
    exact fun id hid => (mem_complement.mp hid).1
  · rw [parse, parseChars_of_not_isMarked hm] at h
    exact mem_of_parsePlain nonempty h

/-- Whether a text names the ids that it denotes, so that they do not depend on what is
configured. -/
def IsExplicit (text : String) : Prop :=
  ¬IsAll (trim text.toList) ∧ ¬IsMarked (trim text.toList)

instance (text : String) : Decidable (IsExplicit text) :=
  inferInstanceAs (Decidable (_ ∧ _))

theorem parse_of_parseElements {text : String} {elements : List Nat} (explicit : IsExplicit text)
    (nonempty : trim text.toList ≠ [])
    (read : parseElements configured (trim text.toList) (splitAt ',' (trim text.toList)) =
      .ok elements) :
    parse text configured = .ok (ascending elements) := by
  rw [parse, parseChars_of_not_isMarked explicit.2,
    parsePlain_of_not_isAll explicit.1 nonempty, read]
  rfl

theorem parse_nil_of_isExplicit {text : String} (explicit : IsExplicit text)
    (h : parse text configured = .ok ids) : parse text [] = .ok ids := by
  rw [parse, parseChars_of_not_isMarked explicit.2] at h ⊢
  exact parsePlain_nil_of_parsePlain explicit.1 h

/-- With nothing configured, the other texts denote nothing. -/
theorem eq_nil_of_parse_nil {text : String} (relative : ¬IsExplicit text)
    (h : parse text [] = .ok ids) : ids = [] := by
  by_cases hm : IsMarked (trim text.toList)
  · obtain ⟨n, rest, hp⟩ := parseChars_of_isMarked hm
    rw [parse, hp, Except.map_eq_ok_iff] at h
    obtain ⟨plain, -, rfl⟩ := h
    exact complement_nil _
  · have every : IsAll (trim text.toList) :=
      Decidable.byContradiction fun listed => relative ⟨listed, hm⟩
    rw [parse, parseChars_of_not_isMarked hm, parsePlain_of_isAll every] at h
    cases h
    exact ascending_nil

end HostMonitor.CpuList
