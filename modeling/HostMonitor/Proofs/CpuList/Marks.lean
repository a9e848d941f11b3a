import HostMonitor.Proofs.CpuList.Grammar

/-!
# Marks in front of lists

A mark takes what the rest of a text denotes out of the configured ids. Whatever stands behind the
mark, further marks and blanks between them included, is read as if it stood alone: a text with a
mark is at fault where the rest is, an id that the rest mentions has to be configured, and two marks
cancel out.
-/

namespace HostMonitor.CpuList

open Text

variable {configured ids : List Nat} {text : String} {s rest : List Char} {id : Nat}

/-! ## Reading behind a mark -/

theorem marks_trimLeft (s : List Char) : marks (trimLeft s) = marks s := by
  induction s with
  | nil => rfl
  | cons c s ih =>
    cases hb : isBlank c with
    | true =>
      have hc : c ≠ '!' := by
        rintro rfl
        cases hb
      simp [trimLeft_cons_of_isBlank hb, ih, marks, hc, hb]
    | false => rw [trimLeft_cons_of_not_isBlank hb]

theorem parseChars_trimRight (configured : List Nat) (s : List Char) :
    parseChars configured (trimRight s) = parseChars configured s := by
  simp only [parseChars, trimRight_trimRight]

/-- The blanks at the end of a marked text are off already, so the rest is read as it is. -/
theorem trimRight_of_trim_eq_mark (h : trim s = '!' :: rest) : trimRight rest = rest := by
  have off : trimRight (trim s) = trim s := trimRight_trimRight (trimLeft s)
  have solid : isBlank '!' = false := by decide
  simpa [h, trimRight_cons, solid] using off

theorem parseChars_of_trim_eq_mark (h : trim s = '!' :: rest) (configured : List Nat) :
    parseChars configured s = (parseChars configured rest).map (complement configured) := by
  have front : marks (trimRight s) = ((marks rest).1 + 1, (marks rest).2) := by
    rw [← marks_trimLeft, trimLeft_trimRight, h]
    rfl
  unfold parseChars
  rw [front, trimRight_of_trim_eq_mark h]
  dsimp only
  cases parsePlain configured (marks rest).2 <;> rfl

theorem parse_mark (text : String) (configured : List Nat) :
    parse ("!" ++ text) configured = (parse text configured).map (complement configured) := by
  have marked : trim ("!" ++ text).toList = '!' :: trimRight text.toList := by
    have solid : isBlank '!' = false := by decide
    rw [← trimLeft_trimRight]
    simp [trimRight_cons, solid, trimLeft_cons_of_not_isBlank]
  rw [parse, parse, parseChars_of_trim_eq_mark marked, parseChars_trimRight]

/-! ## Ascending results -/

theorem pairwise_complement (configured ids : List Nat) :
    (complement configured ids).Pairwise (· < ·) :=
  pairwise_ascending (without configured ids)

theorem pairwise_of_parsePlain {text : List Char} (h : parsePlain configured text = .ok ids) :
    ids.Pairwise (· < ·) := by
  by_cases every : IsAll text
  · rw [parsePlain_of_isAll every] at h
    cases h
    exact pairwise_ascending configured
  · rw [parsePlain_of_not_isAll every (ne_nil_of_parsePlain h), Except.map_eq_ok_iff] at h
    obtain ⟨elements, -, rfl⟩ := h
    exact pairwise_ascending elements

theorem pairwise_of_parse (h : parse text configured = .ok ids) : ids.Pairwise (· < ·) := by
  by_cases marked : IsMarked (trim text.toList)
  · obtain ⟨n, rest, read⟩ := parseChars_of_isMarked marked
    rw [parse, read, Except.map_eq_ok_iff] at h
    obtain ⟨plain, -, rfl⟩ := h
    exact pairwise_complement configured _
  · rw [parse, parseChars_of_not_isMarked marked] at h
    exact pairwise_of_parsePlain h

/-! ## Complements -/

theorem complement_complement (sorted : ids.Pairwise (· < ·))
    (within : ∀ id ∈ ids, id ∈ configured) :
    complement configured (complement configured ids) = ids := by
  apply eq_of_pairwise_lt (pairwise_complement configured _) sorted
  intro id
  simp only [mem_complement, not_and, Decidable.not_not]
  exact ⟨fun h => h.2 h.1, fun h => ⟨within id h, fun _ => h⟩⟩

/-- Two marks do nothing to a list of configured ids. -/
theorem parse_mark_mark (nonempty : configured ≠ []) (text : String) :
    parse ("!!" ++ text) configured = parse text configured := by
  have split : "!!" ++ text = "!" ++ ("!" ++ text) := by
    rw [← String.append_assoc]
    rfl
  rw [split, parse_mark, parse_mark]
  cases read : parse text configured with
  | error e => rfl
  | ok ids =>
    exact congrArg Except.ok
      (complement_complement (pairwise_of_parse read) (mem_of_parse nonempty read))

/-- A mark in front of a text takes the ids that the text denotes out of the configured ones, in
ascending order, and a text that is no list is at fault for the same reason with the mark. So two
marks cancel out wherever something is configured. -/
theorem parse_marked (text : String) (configured : List Nat) :
    (∀ ids, parse text configured = .ok ids →
      ∃ others, parse ("!" ++ text) configured = .ok others ∧ others.Pairwise (· < ·) ∧
        ∀ id, id ∈ others ↔ id ∈ configured ∧ id ∉ ids) ∧
    (∀ e, parse text configured = .error e → parse ("!" ++ text) configured = .error e) ∧
    (configured ≠ [] → parse ("!!" ++ text) configured = parse text configured) := by
  refine ⟨?denoted, ?fault, fun nonempty => parse_mark_mark nonempty text⟩
  case denoted =>
    intro ids read
    refine ⟨complement configured ids, ?_, pairwise_complement configured ids,
      fun id => mem_complement⟩
    rw [parse_mark, read]
    rfl
  case fault =>
    intro e read
    rw [parse_mark, read]
    rfl

/-- Marks with blanks between them, ids that are configured out of order and twice, and a fault
behind a mark. -/
theorem parse_marked_repeatedly :
    parse " ! 1-2" [3, 1, 2, 0, 3] = .ok [0, 3] ∧
      parse "! ! 1-2" [3, 1, 2, 0, 3] = .ok [1, 2] ∧
      parse "!! ! 1-2" [3, 1, 2, 0, 3] = .ok [0, 3] ∧
      parse "1, 9" [3, 1, 2, 0, 3] = .error (.outOfRange 9 "1, 9") ∧
      parse "!1, 9" [3, 1, 2, 0, 3] = .error (.outOfRange 9 "1, 9") := by
  have behind : parse " 1-2" [3, 1, 2, 0, 3] = .ok (ascending [1, 2]) :=
    parse_of_parseElements (by decide) (by decide) rfl
  have read : parse " ! 1-2" [3, 1, 2, 0, 3] = .ok [0, 3] := by
    have blank : parse " ! 1-2" [3, 1, 2, 0, 3] = parse ("!" ++ " 1-2") [3, 1, 2, 0, 3] := rfl
    rw [blank, parse_mark, behind, ascending_of_pairwise (by decide)]
    exact congrArg Except.ok (ascending_of_members (by decide) (by decide) (by decide))
  have fault : parse "1, 9" [3, 1, 2, 0, 3] = .error (.outOfRange 9 "1, 9") := by
    rw [parse, parseChars_of_not_isMarked (by decide),
      parsePlain_of_not_isAll (by decide) (by decide)]
    rfl
  obtain ⟨denoted, -, twice⟩ := parse_marked " ! 1-2" [3, 1, 2, 0, 3]
  obtain ⟨others, complemented, sorted, members⟩ := denoted [0, 3] read
  have same : others = [1, 2] := by
    apply eq_of_pairwise_lt sorted (by decide)
    intro id
    rw [members]
    simp
    omega
  refine ⟨read, same ▸ complemented, (twice (by decide)).trans read, fault, ?_⟩
  exact (parse_marked "1, 9" [3, 1, 2, 0, 3]).2.1 _ fault

/-! ## Ids that a text mentions -/

/-- Whether an element of a list covers `id`, whatever marks stand in front of the list. The word
for every configured id mentions none. -/
inductive Mentions : List Char → Nat → Prop where
  | listed {s : List Char} {id : Nat} (unmarked : ¬IsMarked (trim s)) (listed : ¬IsAll (trim s))
    (covers : Covers (trim s) id) : Mentions s id
  | marked {s rest : List Char} {id : Nat} (mark : trim s = '!' :: rest)
    (behind : Mentions rest id) : Mentions s id

/-- Where something is configured, no other id may be mentioned, not even to take it out. -/
theorem exists_error_of_mentions (nonempty : configured ≠ []) (outside : id ∉ configured)
    (mentions : Mentions s id) : ∃ e, parseChars configured s = .error e := by
  induction mentions with
  | listed unmarked listed covers =>
    rw [parseChars_of_not_isMarked unmarked]
    cases read : parsePlain configured (trim _) with
    | error e => exact ⟨e, rfl⟩
    | ok ids =>
      rw [parsePlain_of_not_isAll listed (ne_nil_of_parsePlain read), Except.map_eq_ok_iff] at read
      obtain ⟨elements, read, -⟩ := read
      exact absurd
        (mem_of_parseElements nonempty read _ ((mem_iff_of_parseElements read).mpr covers))
        outside
  | marked mark _ ih =>
    obtain ⟨e, fault⟩ := ih outside
    exact ⟨e, by rw [parseChars_of_trim_eq_mark mark, fault]; rfl⟩

end HostMonitor.CpuList
