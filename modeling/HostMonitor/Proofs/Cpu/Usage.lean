import HostMonitor.Proofs.Binary64.Rounding
import HostMonitor.Proofs.Cpu.Sums
import HostMonitor.Proofs.ExactArithmetic
import Mathlib.Algebra.BigOperators.Ring.Finset
import Mathlib.Algebra.Order.Field.Basic
import Mathlib.Tactic.Linarith

/-!
# Shares of the elapsed time

The time spent on a category stops at zero when its counter falls, and the elapsed time is the
difference of two totals that stop at the largest word. So the shares are never negative, and a
share exceeds the whole exactly where the category gained more than the total did. The bounds hold
of the rounded percentages as well.
-/

namespace HostMonitor

namespace Usage

variable {u : Usage} {samples : List Jiffies} {earlier later : Jiffies} {c : Category}

/-! ## Samples -/

/-- Usage after the samples, in the order in which they were taken. -/
def ofSamples (cpus : Option (List Nat)) (samples : List Jiffies) : Usage :=
  samples.foldl push { cpus := cpus }

theorem ofSamples_concat (cpus : Option (List Nat)) (samples : List Jiffies) (sample : Jiffies) :
    ofSamples cpus (samples ++ [sample]) = (ofSamples cpus samples).push sample := by
  simp [ofSamples]

theorem current_ofSamples (cpus : Option (List Nat)) (samples : List Jiffies) :
    (ofSamples cpus samples).current = samples.getLast? := by
  induction samples using List.reverseRecOn with
  | nil => rfl
  | append_singleton samples sample _ =>
    rw [ofSamples_concat, List.getLast?_concat]
    rfl

theorem previous_ofSamples (cpus : Option (List Nat)) (samples : List Jiffies) :
    (ofSamples cpus samples).previous = samples.dropLast.getLast? := by
  induction samples using List.reverseRecOn with
  | nil => rfl
  | append_singleton samples sample _ =>
    rw [ofSamples_concat, List.dropLast_concat, ← current_ofSamples cpus]
    rfl

theorem cpus_ofSamples (cpus : Option (List Nat)) (samples : List Jiffies) :
    (ofSamples cpus samples).cpus = cpus := by
  induction samples using List.reverseRecOn with
  | nil => rfl
  | append_singleton samples sample ih => rwa [ofSamples_concat]

/-- Only the last two samples are kept. -/
theorem ofSamples_append_pair (cpus : Option (List Nat)) (before : List Jiffies)
    (earlier later : Jiffies) :
    ofSamples cpus (before ++ [earlier, later]) = ⟨cpus, some earlier, some later⟩ := by
  simpa [ofSamples, push] using cpus_ofSamples cpus before

theorem value_elapsed_ofSamples_of_length_lt (cpus : Option (List Nat)) (h : samples.length < 2) :
    (ofSamples cpus samples).elapsed.value = 0 := by
  have first : samples.dropLast = [] := List.eq_nil_of_length_eq_zero (by simp; omega)
  unfold elapsed
  rw [previous_ofSamples, first]
  rfl

theorem value_elapsed_ofSamples (cpus : Option (List Nat)) (before : List Jiffies)
    (earlier later : Jiffies) :
    (ofSamples cpus (before ++ [earlier, later])).elapsed.value =
      min later.whole (2 ^ 64 - 1) - min earlier.whole (2 ^ 64 - 1) := by
  rw [← later.value_total, ← earlier.value_total]
  unfold elapsed
  rw [previous_ofSamples, current_ofSamples]
  simp [List.dropLast_append_of_ne_nil]

theorem value_spent_ofSamples (cpus : Option (List Nat)) (before : List Jiffies)
    (earlier later : Jiffies) (c : Category) :
    ((ofSamples cpus (before ++ [earlier, later])).spent c).value =
      (later.get c).value - (earlier.get c).value := by
  unfold spent
  rw [previous_ofSamples, current_ofSamples]
  simp [List.dropLast_append_of_ne_nil]

/-! ## Percentages -/

/-- The percentage without rounding. A quotient by no elapsed time is zero. -/
theorem percent_rat (u : Usage) (c : Category) :
    u.percent ℚ c = (u.spent c).value / u.elapsed.value * 100 := by
  unfold percent
  split
  · next still =>
    rw [still]
    simp
  · simp

theorem percent_rat_le_iff (u : Usage) (c : Category) :
    u.percent ℚ c ≤ 100 ↔ u.elapsed.value = 0 ∨ (u.spent c).value ≤ u.elapsed.value := by
  rw [percent_rat]
  rcases Nat.eq_zero_or_pos u.elapsed.value with still | passed
  · simp [still]
  · have positive : (0 : ℚ) < u.elapsed.value := by exact_mod_cast passed
    have share : ((u.spent c).value / u.elapsed.value * 100 : ℚ) ≤ 100 ↔
        ((u.spent c).value : ℚ) ≤ u.elapsed.value := by
      rw [← div_le_one positive]
      constructor <;> intro h <;> linarith
    rw [share, Nat.cast_le]
    simp [passed.ne']

theorem percent_float_of_elapsed_eq_zero (h : u.elapsed.value = 0) : u.percent Float c = 0 :=
  if_pos (Counter.ext h)

theorem percent_float_bounds (u : Usage) (c : Category) :
    0 ≤ u.percent Float c ∧
      (u.elapsed.value = 0 ∨ (u.spent c).value ≤ u.elapsed.value → u.percent Float c ≤ 100) := by
  rcases Nat.eq_zero_or_pos u.elapsed.value with still | passed
  · rw [percent_float_of_elapsed_eq_zero still]
    exact ⟨by decide +kernel, fun _ => by decide +kernel⟩
  · obtain ⟨m, e, hundred, low, high⟩ := Binary64.exists_isNormal_ofNat (n := 100) (by decide)
      (by decide)
    have bounds := Binary64.share_bounds hundred (by omega) (by omega) passed
      (u.spent c).value_lt u.elapsed.value_lt
    have percent : u.percent Float c = Binary64.ofNat (u.spent c).value /
        Binary64.ofNat u.elapsed.value * Binary64.ofNat 100 :=
      if_neg fun still => passed.ne' (congrArg Counter.value still)
    have whole : Binary64.ofNat 100 = 100 := by decide +kernel
    rw [← percent, whole] at bounds
    exact ⟨bounds.1, fun h => bounds.2 (h.resolve_left passed.ne')⟩

/-- Where the other categories did not fall together, the category gained no more than the total. -/
theorem spent_le_elapsed (fits : later.whole < 2 ^ 64)
    (others : earlier.whole - (earlier.get c).value ≤ later.whole - (later.get c).value) :
    (later.get c).value - (earlier.get c).value ≤
      min later.whole (2 ^ 64 - 1) - min earlier.whole (2 ^ 64 - 1) := by
  have := earlier.get_le_whole c
  have := later.get_le_whole c
  omega

/-- What is reported after any samples. No percentage is negative. A percentage is at most 100 where
no time elapsed or the category gained no more than the totals between the last two samples, and
before rounding only there. A category gains more only if the last total does not fit or the other
categories fell together. -/
theorem percent_ofSamples (cpus : Option (List Nat)) (samples : List Jiffies) (c : Category) :
    let rounded := (ofSamples cpus samples).percent Float c
    let quotient := (ofSamples cpus samples).percent ℚ c
    0 ≤ rounded ∧ 0 ≤ quotient ∧
    (samples.length < 2 → rounded = 0 ∧ quotient = 0) ∧
    ∀ before earlier later, samples = before ++ [earlier, later] →
      let spent : Nat := (later.get c).value - (earlier.get c).value
      let elapsed : Nat := min later.whole (2 ^ 64 - 1) - min earlier.whole (2 ^ 64 - 1)
      quotient = spent / elapsed * 100 ∧
      (elapsed = 0 ∨ spent ≤ elapsed → rounded ≤ 100) ∧
      (elapsed = 0 ∨ spent ≤ elapsed ↔ quotient ≤ 100) ∧
      (later.whole < 2 ^ 64 →
        earlier.whole - (earlier.get c).value ≤ later.whole - (later.get c).value →
          spent ≤ elapsed) := by
  have bounds := percent_float_bounds (ofSamples cpus samples) c
  have value := percent_rat (ofSamples cpus samples) c
  have whole := percent_rat_le_iff (ofSamples cpus samples) c
  refine ⟨bounds.1, value ▸ by positivity, ?short, ?pair⟩
  case short =>
    intro short
    have still := value_elapsed_ofSamples_of_length_lt cpus short
    refine ⟨percent_float_of_elapsed_eq_zero still, ?_⟩
    rw [value, still]
    simp
  case pair =>
    rintro before earlier later rfl
    rw [value_elapsed_ofSamples, value_spent_ofSamples] at bounds value whole
    exact ⟨value, bounds.2, whole.symm, spent_le_elapsed⟩

/-- Fifty jiffies of waiting are taken back while a hundred jiffies of user time pass. -/
def retracted : List Jiffies :=
  [.ofList ([0, 0, 0, 0, 50].map Counter.clamp), .ofList ([100].map Counter.clamp)]

theorem percent_retracted :
    (ofSamples none retracted).percent Float .user = 200 ∧
      ¬(ofSamples none retracted).percent Float .user ≤ 100 ∧
      (ofSamples none retracted).percent ℚ .user = 200 := by
  have spent : ((ofSamples none retracted).spent .user).value = 100 := by rfl
  have elapsed : (ofSamples none retracted).elapsed.value = 50 := by rfl
  refine ⟨by decide +kernel, by decide +kernel, ?_⟩
  rw [percent_rat, spent, elapsed]
  norm_num

/-! ## Whole intervals -/

/-- Where no counter falls, what the categories gain adds up to what the whole gains. -/
theorem whole_add_sum_gained (rising : ∀ c, (earlier.get c).value ≤ (later.get c).value) :
    earlier.whole + (Category.all.map fun c => (later.get c).value - (earlier.get c).value).sum =
      later.whole := by
  unfold Jiffies.whole
  rw [← List.sum_map_add]
  refine congrArg List.sum (List.map_congr_left fun c _ => ?_)
  have := rising c
  omega

theorem sum_percent (passed : 0 < u.elapsed.value)
    (spent : (Category.all.map fun c => (u.spent c).value).sum = u.elapsed.value) :
    (Category.all.map fun c => u.percent ℚ c).sum = 100 := by
  have positive : (u.elapsed.value : ℚ) ≠ 0 := by exact_mod_cast passed.ne'
  calc (Category.all.map fun c => u.percent ℚ c).sum
      = (Category.all.map fun c => ((u.spent c).value : ℚ)).sum / u.elapsed.value * 100 := by
        simp only [percent_rat, List.sum_map_mul_right, div_eq_mul_inv]
    _ = ((Category.all.map fun c => (u.spent c).value).sum : ℕ) / u.elapsed.value * 100 := by
        rw [Nat.cast_list_sum, List.map_map]
        rfl
    _ = 100 := by rw [spent, div_self positive, one_mul]

theorem percent_eq_zero (u : Usage) (h : u.elapsed.value = 0) (c : Category) :
    u.percent ℚ c = 0 ∧ u.percent Float c = 0 :=
  ⟨by simp [percent_rat, h], percent_float_of_elapsed_eq_zero h⟩

/-- How the time between the last two samples splits up, whatever was sampled before. Where no
counter falls and the last total fits into a word, the categories share the difference of the totals
among themselves, so that their percentages add up to 100. -/
theorem percent_decomposition (cpus : Option (List Nat)) (samples : List Jiffies) :
    let u := ofSamples cpus samples
    (samples.length < 2 →
      u.elapsed.value = 0 ∧ ∀ c, u.percent ℚ c = 0 ∧ u.percent Float c = 0) ∧
    ∀ before earlier later, samples = before ++ [earlier, later] →
      (∀ before', u = ofSamples cpus (before' ++ [earlier, later])) ∧
      ((∀ c, (earlier.get c).value ≤ (later.get c).value) → later.whole < 2 ^ 64 →
        let elapsed : Nat := later.whole - earlier.whole
        u.elapsed.value = elapsed ∧
        (elapsed = 0 → ∀ c, u.percent ℚ c = 0 ∧ u.percent Float c = 0) ∧
        (0 < elapsed →
          (∀ c, u.percent ℚ c = ((later.get c).value - (earlier.get c).value) / elapsed * 100 ∧
            0 ≤ u.percent ℚ c ∧ u.percent ℚ c ≤ 100) ∧
          (Category.all.map fun c => u.percent ℚ c).sum = 100)) := by
  intro u
  refine ⟨fun short => ?short, ?pair⟩
  case short =>
    have still := value_elapsed_ofSamples_of_length_lt cpus short
    exact ⟨still, u.percent_eq_zero still⟩
  case pair =>
    rintro before earlier later rfl
    refine ⟨fun before' => by simp only [u, ofSamples_append_pair], fun rising fits => ?_⟩
    intro elapsed
    have gained := whole_add_sum_gained rising
    have total : u.elapsed.value = elapsed := by
      rw [value_elapsed_ofSamples]
      omega
    have spent (c : Category) : (u.spent c).value = (later.get c).value - (earlier.get c).value :=
      value_spent_ofSamples cpus before earlier later c
    refine ⟨total, fun still => u.percent_eq_zero (total.trans still), fun passed => ?_⟩
    have split : (Category.all.map fun c => (u.spent c).value).sum = u.elapsed.value := by
      simp only [spent, total]
      omega
    refine ⟨fun c => ?_, sum_percent (total ▸ passed) split⟩
    have share : (u.spent c).value ≤ u.elapsed.value :=
      split ▸ List.le_sum_of_mem (List.mem_map_of_mem c.mem_all)
    refine ⟨?_, ?_, (u.percent_rat_le_iff c).mpr (.inr share)⟩
    · rw [percent_rat, spent, total, Nat.cast_sub (rising c)]
    · rw [percent_rat]
      positivity

/-- A hundred jiffies, of which sixty are idle ones. -/
def busier : List Jiffies :=
  [.ofList ([100, 5, 50, 800, 5].map Counter.clamp),
    .ofList ([130, 5, 60, 860, 5].map Counter.clamp)]

theorem percent_decomposition_busier :
    let u := ofSamples none (retracted ++ busier)
    (∀ c, (busier[0].get c).value ≤ (busier[1].get c).value) ∧ busier[1].whole < 2 ^ 64 ∧
      u.elapsed.value = 100 ∧ u = ofSamples none busier ∧
      u.percent ℚ .user = 30 ∧ u.percent ℚ .idle = 60 ∧
      (Category.all.map fun c => u.percent ℚ c).sum = 100 ∧
      (∀ c, (ofSamples none (busier.take 1)).percent ℚ c = 0) := by
  intro u
  have rising : ∀ c, (busier[0].get c).value ≤ (busier[1].get c).value := by decide
  have fits : busier[1].whole < 2 ^ 64 := by decide
  obtain ⟨-, pair⟩ := percent_decomposition none (retracted ++ busier)
  obtain ⟨kept, split⟩ := pair retracted busier[0] busier[1] rfl
  obtain ⟨elapsed, -, shares⟩ := split rising fits
  obtain ⟨shares, whole⟩ := shares (by decide)
  have first := ((percent_decomposition none (busier.take 1)).1 (by decide)).2
  have hundred : busier[1].whole - busier[0].whole = 100 := by decide
  refine ⟨rising, fits, elapsed, kept [], ?_, ?_, whole, fun c => (first c).1⟩
  · have gained : (busier[0].get .user).value = 100 ∧ (busier[1].get .user).value = 130 := by decide
    rw [(shares .user).1, gained.1, gained.2, hundred]
    norm_num
  · have gained : (busier[0].get .idle).value = 800 ∧ (busier[1].get .idle).value = 860 := by decide
    rw [(shares .idle).1, gained.1, gained.2, hundred]
    norm_num

end Usage

end HostMonitor
