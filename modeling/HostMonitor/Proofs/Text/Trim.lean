import HostMonitor.Text.Blank

/-!
# Blanks at the ends of a text

The blanks at the two ends of a text can be taken off in either order, and once they are off there
are no more of them.
-/

namespace HostMonitor.Text

theorem trimLeft_cons_of_isBlank {c : Char} (h : isBlank c = true) (s : List Char) :
    trimLeft (c :: s) = trimLeft s := by
  simp [trimLeft, h]

theorem trimLeft_cons_of_not_isBlank {c : Char} (h : isBlank c = false) (s : List Char) :
    trimLeft (c :: s) = c :: s := by
  simp [trimLeft, h]

theorem trimRight_cons (c : Char) (s : List Char) :
    trimRight (c :: s) = if trimRight s = [] ∧ isBlank c = true then [] else c :: trimRight s := by
  simp only [trimRight, List.reverse_cons, List.dropWhile_append]
  by_cases hs : s.reverse.dropWhile isBlank = []
  · cases hc : isBlank c <;> simp [hs, hc]
  · simp [hs]

theorem trimLeft_trimRight (s : List Char) : trimLeft (trimRight s) = trim s := by
  unfold trim
  induction s with
  | nil => rfl
  | cons c s ih =>
    rw [trimRight_cons]
    cases hc : isBlank c with
    | true =>
      rw [trimLeft_cons_of_isBlank hc s, ← ih]
      by_cases hs : trimRight s = []
      · simp [hs]
      · simp [hs, trimLeft_cons_of_isBlank hc]
    | false => simp [trimLeft_cons_of_not_isBlank hc, trimRight_cons, hc]

theorem trimLeft_trimLeft (s : List Char) : trimLeft (trimLeft s) = trimLeft s := by
  induction s with
  | nil => rfl
  | cons c s ih =>
    cases hc : isBlank c with
    | true => rw [trimLeft_cons_of_isBlank hc, ih]
    | false => rw [trimLeft_cons_of_not_isBlank hc, trimLeft_cons_of_not_isBlank hc]

theorem trimRight_eq (s : List Char) : trimRight s = (trimLeft s.reverse).reverse := rfl

theorem trimRight_trimRight (s : List Char) : trimRight (trimRight s) = trimRight s := by
  rw [trimRight_eq, trimRight_eq, List.reverse_reverse, trimLeft_trimLeft]

theorem trim_trim (s : List Char) : trim (trim s) = trim s := by
  rw [trim, ← trimLeft_trimRight s, trimLeft_trimLeft, trimLeft_trimRight, trim,
    trimRight_trimRight]

theorem trimLeft_of_forall_not_isBlank {s : List Char} (h : ∀ c ∈ s, isBlank c = false) :
    trimLeft s = s := by
  cases s with
  | nil => rfl
  | cons c s => exact trimLeft_cons_of_not_isBlank (h c List.mem_cons_self) s

theorem trim_of_forall_not_isBlank {s : List Char} (h : ∀ c ∈ s, isBlank c = false) :
    trim s = s := by
  have reversed : ∀ c ∈ s.reverse, isBlank c = false := fun c hc => h c (List.mem_reverse.mp hc)
  rw [trim, trimLeft_of_forall_not_isBlank h, trimRight_eq,
    trimLeft_of_forall_not_isBlank reversed, List.reverse_reverse]

theorem trim_eq_nil_iff {s : List Char} : trim s = [] ↔ ∀ c ∈ s, isBlank c = true := by
  induction s with
  | nil => simp [trim, trimLeft, trimRight]
  | cons c s ih =>
    cases hc : isBlank c with
    | true => simp [trim, trimLeft_cons_of_isBlank hc, hc, ← ih]
    | false => simp [trim, trimLeft_cons_of_not_isBlank hc, trimRight_cons, hc]

theorem trim_concat_of_isBlank {c : Char} (h : isBlank c = true) (s : List Char) :
    trim (s ++ [c]) = trim s := by
  have dropped : trimRight (s ++ [c]) = trimRight s := by
    rw [trimRight_eq, List.reverse_concat, trimLeft_cons_of_isBlank h, ← trimRight_eq]
  rw [← trimLeft_trimRight, dropped, trimLeft_trimRight]

end HostMonitor.Text
