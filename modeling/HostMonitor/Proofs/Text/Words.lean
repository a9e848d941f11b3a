import HostMonitor.Proofs.Text.Splitting
import HostMonitor.Proofs.Text.Trim

/-!
# Words of a text

A text begins with its first word once the blanks in front are off, and a text without words is
blank. Words that are joined by a blank are found again, and so are the words of lines.
-/

namespace HostMonitor.Text

variable {p : Char → Bool} {s w : List Char} {ws : List (List Char)}

theorem isPrefix_of_pieces (h : pieces p s = w :: ws) : w <+: s := by
  induction s generalizing w ws with
  | nil =>
    cases h
    exact List.prefix_rfl
  | cons c s ih =>
    rw [pieces] at h
    split at h
    · cases h
      exact List.nil_prefix
    split at h
    · next none => exact absurd none (pieces_ne_nil p s)
    · next first rest split =>
      cases h
      exact List.cons_prefix_cons.mpr ⟨rfl, ih split⟩

theorem words_cons_of_isBlank {c : Char} (h : isBlank c = true) (s : List Char) :
    words (c :: s) = words s := by
  simp [words, pieces, h]

/-- A character that is not blank is the first one of the first word. -/
theorem words_cons_of_not_isBlank {c : Char} (h : isBlank c = false) (s : List Char) :
    ∃ w ws, words (c :: s) = (c :: w) :: ws ∧ w <+: s := by
  obtain ⟨w, ws, split⟩ := List.exists_cons_of_ne_nil (pieces_ne_nil isBlank s)
  refine ⟨w, ws.filter (!·.isEmpty), ?_, isPrefix_of_pieces split⟩
  simp [words, pieces, h, split]

theorem isPrefix_trimLeft_of_words (h : words s = w :: ws) : w <+: trimLeft s := by
  induction s with
  | nil => cases h
  | cons c s ih =>
    cases hc : isBlank c with
    | true =>
      rw [words_cons_of_isBlank hc] at h
      rw [trimLeft_cons_of_isBlank hc]
      exact ih h
    | false =>
      obtain ⟨w', ws', first, front⟩ := words_cons_of_not_isBlank hc s
      rw [first] at h
      cases h
      rw [trimLeft_cons_of_not_isBlank hc]
      exact List.cons_prefix_cons.mpr ⟨rfl, front⟩

theorem trimLeft_of_words_eq_nil (h : words s = []) : trimLeft s = [] := by
  induction s with
  | nil => rfl
  | cons c s ih =>
    cases hc : isBlank c with
    | true =>
      rw [words_cons_of_isBlank hc] at h
      rw [trimLeft_cons_of_isBlank hc, ih h]
    | false =>
      obtain ⟨w, ws, first, -⟩ := words_cons_of_not_isBlank hc s
      rw [first] at h
      cases h

/-! ## Joined words -/

theorem words_append_cons {c : Char} (nonempty : w ≠ []) (solid : ∀ c ∈ w, isBlank c = false)
    (blank : isBlank c = true) : words (w ++ c :: s) = w :: words s := by
  unfold words
  rw [pieces_append_cons solid blank, List.filter_cons_of_pos (by simpa using nonempty)]

theorem words_of_forall_not_isBlank (nonempty : w ≠ []) (solid : ∀ c ∈ w, isBlank c = false) :
    words w = [w] := by
  unfold words
  rw [pieces_of_forall_not solid, List.filter_cons_of_pos (by simpa using nonempty),
    List.filter_nil]

theorem words_joinWith (h : ∀ w ∈ ws, w ≠ [] ∧ ∀ c ∈ w, isBlank c = false) :
    words (joinWith ' ' ws) = ws := by
  fun_induction joinWith ' ' ws with
  | case1 => rfl
  | case2 w =>
    obtain ⟨nonempty, solid⟩ := h w List.mem_cons_self
    exact words_of_forall_not_isBlank nonempty solid
  | case3 w ws _ ih =>
    obtain ⟨⟨nonempty, solid⟩, others⟩ := List.forall_mem_cons.mp h
    rw [words_append_cons nonempty solid rfl, ih others]

theorem words_concat_of_isBlank {c : Char} (h : isBlank c = true) (s : List Char) :
    words (s ++ [c]) = words s := by
  have last : ∀ s, pieces isBlank (s ++ [c]) = pieces isBlank s ++ [[]] := by
    intro s
    induction s with
    | nil => simp [pieces, h]
    | cons c' s ih =>
      rw [List.cons_append, pieces, pieces, ih]
      split
      · rfl
      · obtain ⟨w, ws, first⟩ := List.exists_cons_of_ne_nil (pieces_ne_nil isBlank s)
        rw [first]
        rfl
  simp [words, last]

/-! ## Lines -/

variable {line : List Char} {ls : List (List Char)}

theorem words_dropReturn (line : List Char) : words (dropReturn line) = words line := by
  unfold dropReturn
  split
  · next last =>
    obtain ⟨front, rfl⟩ := List.getLast?_eq_some_iff.mp last
    rw [List.dropLast_concat, words_concat_of_isBlank rfl]
  · rfl

theorem lines_joinWith (nonempty : ls ≠ []) (h : ∀ line ∈ ls, '\n' ∉ line) :
    lines (joinWith '\n' ls) = linesOf ls := by
  rw [lines, splitAt_joinWith nonempty h]

theorem exists_words_eq_of_mem_linesOf (h : line ∈ linesOf ls) :
    ∃ l ∈ ls, words line = words l := by
  fun_induction linesOf ls with
  | case1 => cases h
  | case2 => cases h
  | case3 w => exact ⟨w, List.mem_cons_self, by rw [List.mem_singleton.mp h]⟩
  | case4 w ws _ ih =>
    rcases List.mem_cons.mp h with rfl | h
    · exact ⟨w, List.mem_cons_self, words_dropReturn w⟩
    · obtain ⟨l, hl, same⟩ := ih h
      exact ⟨l, List.mem_cons_of_mem w hl, same⟩

/-- No words are lost with the ends of the lines. -/
theorem exists_mem_linesOf_words_eq (h : line ∈ ls) (some : words line ≠ []) :
    ∃ l ∈ linesOf ls, words l = words line := by
  fun_induction linesOf ls with
  | case1 => cases h
  | case2 w empty =>
    rw [List.mem_singleton.mp h, List.isEmpty_iff.mp empty] at some
    exact absurd rfl some
  | case3 w => exact ⟨w, List.mem_cons_self, by rw [List.mem_singleton.mp h]⟩
  | case4 w ws _ ih =>
    rcases List.mem_cons.mp h with rfl | h
    · exact ⟨_, List.mem_cons_self, words_dropReturn line⟩
    · obtain ⟨l, hl, same⟩ := ih h
      exact ⟨l, List.mem_cons_of_mem _ hl, same⟩

end HostMonitor.Text
