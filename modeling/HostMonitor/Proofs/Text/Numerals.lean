import HostMonitor.Counter
import Mathlib.Data.Nat.Digits.Defs
import Mathlib.Tactic.Ring

/-!
# Numerals and their numbers

A numeral is an optional plus and then digits, most significant first, with zeros in front allowed.
Reading a word accepts the numerals of the numbers that fit, and nothing else.
-/

namespace HostMonitor.Text.Numeral

variable {s : List Char} {n : Nat}

/-- Whether `s` is a numeral of the number `n`. -/
def Denotes (s : List Char) (n : Nat) : Prop :=
  ∃ ds : List Nat, ds ≠ [] ∧ (∀ d ∈ ds, d < 10) ∧ Nat.ofDigits 10 ds.reverse = n ∧
    (s = ds.map digitChar ∨ s = '+' :: ds.map digitChar)

/-! ## Strings of digits -/

theorem digitValue_lt {c : Char} (h : isDigit c = true) : digitValue c < 10 := by
  simp only [isDigit, Bool.and_eq_true, decide_eq_true_eq] at h
  unfold digitValue
  omega

theorem digitChar_digitValue {c : Char} (h : isDigit c = true) : digitChar (digitValue c) = c := by
  simp only [isDigit, Bool.and_eq_true, decide_eq_true_eq] at h
  have code : 48 + (c.toNat - 48) = c.toNat := by omega
  rw [digitChar, digitValue, code, Char.ofNat_toNat]

theorem all_isDigit_iff :
    s.all isDigit = true ↔ ∃ ds : List Nat, (∀ d ∈ ds, d < 10) ∧ s = ds.map digitChar := by
  rw [List.all_eq_true]
  constructor
  · intro h
    refine ⟨s.map digitValue, ?_, ?_⟩
    · intro d hd
      obtain ⟨c, hc, rfl⟩ := List.mem_map.mp hd
      exact digitValue_lt (h c hc)
    · have same : s.map (digitChar ∘ digitValue) = s.map id :=
        List.map_congr_left fun c hc => digitChar_digitValue (h c hc)
      rw [List.map_map, same, List.map_id]
  · rintro ⟨ds, small, rfl⟩ c hc
    obtain ⟨d, hd, rfl⟩ := List.mem_map.mp hc
    exact isDigit_digitChar (small d hd)

theorem valueFrom_map_digitChar {ds : List Nat} (small : ∀ d ∈ ds, d < 10) (acc : Nat) :
    valueFrom acc (ds.map digitChar) = 10 ^ ds.length * acc + Nat.ofDigits 10 ds.reverse := by
  induction ds generalizing acc with
  | nil => simp [valueFrom]
  | cons d ds ih =>
    obtain ⟨hd, hds⟩ := List.forall_mem_cons.mp small
    rw [List.map_cons, valueFrom_cons, shiftIn_digitChar hd, ih hds, Nat.ofDigits_reverse_cons,
      List.length_cons]
    ring

theorem value?_eq_some_iff :
    value? s = some n ↔
      ∃ ds : List Nat, ds ≠ [] ∧ (∀ d ∈ ds, d < 10) ∧ Nat.ofDigits 10 ds.reverse = n ∧
        s = ds.map digitChar := by
  unfold value?
  constructor
  · intro h
    split at h
    · cases h
    · next hs =>
      simp only [Bool.or_eq_true, Bool.not_eq_true', not_or, List.isEmpty_iff,
        Bool.not_eq_false] at hs
      obtain ⟨ds, small, rfl⟩ := all_isDigit_iff.mp hs.2
      rw [valueFrom_map_digitChar small] at h
      refine ⟨ds, by simpa using hs.1, small, by simpa using h, rfl⟩
  · rintro ⟨ds, nonempty, small, rfl, rfl⟩
    have digits := all_isDigit_iff.mpr ⟨ds, small, rfl⟩
    rw [digits, valueFrom_map_digitChar small]
    simp [nonempty]

theorem not_isBlank_of_isDigit {c : Char} (h : isDigit c = true) : isBlank c = false := by
  simp only [isDigit, Bool.and_eq_true, decide_eq_true_eq] at h
  simp only [isBlank, Bool.or_eq_false_iff, Bool.and_eq_false_iff, decide_eq_false_iff_not,
    beq_eq_false_iff_ne]
  omega

theorem toLower_of_isDigit {c : Char} (h : isDigit c = true) : c.toLower = c := by
  simp only [isDigit, Bool.and_eq_true, decide_eq_true_eq] at h
  have small : ¬(c.val ≥ 'A'.val ∧ c.val ≤ 'Z'.val) := by
    rintro ⟨upper, -⟩
    have code : 'A'.toNat ≤ c.toNat := upper
    have value : 'A'.toNat = 65 := rfl
    omega
  exact dif_neg small

/-! ## Words -/

theorem Denotes.ne_nil (h : Denotes s n) : s ≠ [] := by
  obtain ⟨ds, nonempty, -, -, rfl | rfl⟩ := h
  · simpa using nonempty
  · simp

theorem Denotes.isDigit_of_mem (h : Denotes s n) {c : Char} (hc : c ∈ s) :
    c = '+' ∨ isDigit c = true := by
  obtain ⟨ds, -, small, -, written⟩ := h
  have digits := List.all_eq_true.mp (all_isDigit_iff.mpr ⟨ds, small, rfl⟩)
  rcases written with rfl | rfl
  · exact .inr (digits c hc)
  · rcases List.mem_cons.mp hc with rfl | hc
    · exact .inl rfl
    · exact .inr (digits c hc)

theorem Denotes.solid (h : Denotes s n) : ∀ c ∈ s, isBlank c = false := by
  intro c hc
  rcases h.isDigit_of_mem hc with rfl | digit
  · rfl
  · exact not_isBlank_of_isDigit digit

theorem value?_dropPlus_eq_some_iff : value? (dropPlus s) = some n ↔ Denotes s n := by
  rw [value?_eq_some_iff]
  constructor
  · rintro ⟨ds, nonempty, small, value, h⟩
    refine ⟨ds, nonempty, small, value, ?_⟩
    cases s with
    | nil => exact .inl h
    | cons c s =>
      by_cases hc : c = '+'
      · subst hc
        exact .inr (congrArg ('+' :: ·) h)
      · left
        rw [← h]
        unfold dropPlus
        split <;> simp_all
  · rintro ⟨ds, nonempty, small, value, rfl | rfl⟩
    · refine ⟨ds, nonempty, small, value, ?_⟩
      exact dropPlus_of_all_isDigit (all_isDigit_iff.mpr ⟨ds, small, rfl⟩)
    · exact ⟨ds, nonempty, small, value, rfl⟩

theorem Denotes.unique {m : Nat} (h : Denotes s m) (h' : Denotes s n) : m = n :=
  Option.some.inj
    ((value?_dropPlus_eq_some_iff.mpr h).symm.trans (value?_dropPlus_eq_some_iff.mpr h'))

theorem word?_eq_some_iff : word? s = some n ↔ Denotes s n ∧ n < wordLimit := by
  rw [word?, below?, Option.bind_eq_some_iff]
  constructor
  · rintro ⟨m, hm, h⟩
    split at h
    · next fits =>
      cases h
      exact ⟨value?_dropPlus_eq_some_iff.mp hm, fits⟩
    · cases h
  · rintro ⟨h, fits⟩
    exact ⟨n, value?_dropPlus_eq_some_iff.mpr h, if_pos fits⟩

end HostMonitor.Text.Numeral

/-! ## Counters -/

namespace HostMonitor.Counter

open Text

theorem read?_eq_some_iff {token : List Char} {c : Counter} :
    read? token = some c ↔ Numeral.Denotes token c.value := by
  have limit : Numeral.wordLimit = 1 <<< 64 := rfl
  unfold read?
  split
  · next n h =>
    obtain ⟨denotes, fits⟩ := Numeral.word?_eq_some_iff.mp h
    rw [Option.some.injEq]
    constructor
    · rintro rfl
      exact denotes
    · intro denotes'
      have word : Numeral.word? token = some c.value :=
        Numeral.word?_eq_some_iff.mpr ⟨denotes', limit ▸ c.value_lt⟩
      exact ext (Option.some.inj (h.symm.trans word))
  · next h =>
    refine ⟨nofun, fun denotes => ?_⟩
    have word : Numeral.word? token = some c.value :=
      Numeral.word?_eq_some_iff.mpr ⟨denotes, limit ▸ c.value_lt⟩
    rw [h] at word
    cases word

theorem read?_eq_none_iff {token : List Char} :
    read? token = none ↔ ∀ c : Counter, ¬Numeral.Denotes token c.value := by
  rw [Option.eq_none_iff_forall_ne_some]
  exact forall_congr' fun c => not_congr read?_eq_some_iff

end HostMonitor.Counter
