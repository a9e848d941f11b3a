import HostMonitor.Text.Lines

/-!
# Splitting at separators

Which pieces a text falls into. Splitting undoes joining as long as no piece holds the separator,
and a cut is made at the first separator there is.
-/

namespace HostMonitor.Text

variable {sep : Char} {s a b : List Char}

/-! ## All separators -/

theorem pieces_of_forall_not {p : Char → Bool} (h : ∀ c ∈ s, p c = false) : pieces p s = [s] := by
  induction s with
  | nil => rfl
  | cons c s ih =>
    obtain ⟨hc, hs⟩ := List.forall_mem_cons.mp h
    rw [pieces, hc, if_neg Bool.false_ne_true, ih hs]

theorem pieces_append_cons {p : Char → Bool} (h : ∀ c ∈ a, p c = false) (hsep : p sep = true) :
    pieces p (a ++ sep :: b) = a :: pieces p b := by
  induction a with
  | nil => rw [List.nil_append, pieces, if_pos hsep]
  | cons c a ih =>
    obtain ⟨hc, ha⟩ := List.forall_mem_cons.mp h
    rw [List.cons_append, pieces, hc, if_neg Bool.false_ne_true, ih ha]

theorem forall_ne_of_notMem (h : sep ∉ s) : ∀ c ∈ s, (c == sep) = false := by
  intro c hc
  exact beq_eq_false_iff_ne.mpr fun same => h (same ▸ hc)

theorem splitAt_of_notMem (h : sep ∉ s) : splitAt sep s = [s] :=
  pieces_of_forall_not (forall_ne_of_notMem h)

theorem splitAt_append_cons (h : sep ∉ a) : splitAt sep (a ++ sep :: b) = a :: splitAt sep b :=
  pieces_append_cons (forall_ne_of_notMem h) (beq_self_eq_true sep)

theorem splitAt_joinWith {ws : List (List Char)} (nonempty : ws ≠ []) (h : ∀ w ∈ ws, sep ∉ w) :
    splitAt sep (joinWith sep ws) = ws := by
  induction ws with
  | nil => exact absurd rfl nonempty
  | cons w ws ih =>
    obtain ⟨hw, hws⟩ := List.forall_mem_cons.mp h
    cases ws with
    | nil => exact splitAt_of_notMem hw
    | cons v vs =>
      have step : joinWith sep (w :: v :: vs) = w ++ sep :: joinWith sep (v :: vs) := rfl
      rw [step, splitAt_append_cons hw, ih (by simp) hws]

theorem forall_not_of_mem_pieces {p : Char → Bool} {s w : List Char} (h : w ∈ pieces p s) :
    ∀ c ∈ w, p c = false := by
  induction s generalizing w with
  | nil => simp_all [pieces]
  | cons c s ih =>
    rw [pieces] at h
    split at h
    · rcases List.mem_cons.mp h with rfl | h
      · simp
      · exact ih h
    · next solid =>
      obtain ⟨v, vs, split⟩ := List.exists_cons_of_ne_nil (pieces_ne_nil p s)
      simp only [split, List.mem_cons] at h ih
      rcases h with rfl | h
      · simp_all
      · exact ih (.inr h)

theorem notMem_of_mem_splitAt {sep : Char} {s w : List Char} (h : w ∈ splitAt sep s) : sep ∉ w :=
  fun hs => by simpa using forall_not_of_mem_pieces h sep hs

theorem mem_joinWith {ws : List (List Char)} {c : Char} (h : c ∈ joinWith sep ws) :
    c = sep ∨ ∃ w ∈ ws, c ∈ w := by
  fun_induction joinWith sep ws with
  | case1 => simp at h
  | case2 w => exact .inr ⟨w, by simp, h⟩
  | case3 w ws _ ih =>
    rcases List.mem_append.mp h with hw | hr
    · exact .inr ⟨w, List.mem_cons_self, hw⟩
    rcases List.mem_cons.mp hr with rfl | hr
    · exact .inl rfl
    rcases ih hr with rfl | ⟨v, hv, hc⟩
    · exact .inl rfl
    · exact .inr ⟨v, List.mem_cons_of_mem w hv, hc⟩

/-! ## The first separator -/

theorem cut_eq_none_iff : cut sep s = none ↔ sep ∉ s := by
  induction s with
  | nil => simp [cut]
  | cons c s ih =>
    by_cases hc : c = sep
    · simp [cut, hc]
    · simp [cut, hc, Ne.symm hc, ih]

theorem cut_eq_some_iff : cut sep s = some (a, b) ↔ s = a ++ sep :: b ∧ sep ∉ a := by
  induction s generalizing a with
  | nil => simp [cut]
  | cons c s ih =>
    rw [cut]
    by_cases hc : c = sep
    · cases a with
      | nil => simp [hc, eq_comm]
      | cons x a => simp +contextual [hc, eq_comm]
    · rw [if_neg hc, Option.map_eq_some_iff, Prod.exists]
      cases a with
      | nil => simp [hc]
      | cons x a =>
        simp only [Prod.mk.injEq, List.cons.injEq, List.cons_append, List.mem_cons, not_or]
        grind

end HostMonitor.Text
