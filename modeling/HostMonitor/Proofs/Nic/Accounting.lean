import HostMonitor.Proofs.Binary64.Signs
import HostMonitor.Proofs.Nic.Rates
import Mathlib.Tactic.Positivity

/-!
# Bytes accounted for

A rate stands for the time since the reading before. Over readings of counters that only rise, the
rates of a device account for every byte exactly once: the end of one interval is the start of the
next one. Whatever the counters do, no rate is negative.
-/

namespace HostMonitor.Nic

variable {earlier later first last : Reading} {rest : List Reading}

namespace Reading

/-- A reading taken later, with counters that have not fallen. -/
structure Advances (earlier later : Reading) : Prop where
  time : earlier.time < later.time
  received : earlier.record.rxBytes.value ≤ later.record.rxBytes.value
  sent : earlier.record.txBytes.value ≤ later.record.txBytes.value

instance (earlier later : Reading) : Decidable (Advances earlier later) :=
  decidable_of_iff (earlier.time < later.time ∧
      earlier.record.rxBytes.value ≤ later.record.rxBytes.value ∧
      earlier.record.txBytes.value ≤ later.record.txBytes.value)
    ⟨fun ⟨time, received, sent⟩ => ⟨time, received, sent⟩,
      fun ⟨time, received, sent⟩ => ⟨time, received, sent⟩⟩

theorem counted_eq_total {r : Reading} (fits : r.total < 2 ^ 64) : r.counted = r.total := by
  unfold counted
  omega

theorem Advances.total_le (h : Advances earlier later) : earlier.total ≤ later.total :=
  Nat.add_le_add h.received h.sent

end Reading

namespace Throughput

/-! ## Rates that add up -/

section Exact

variable {t : Throughput ℚ}

/-- The bits that a device reports over further readings: after each one, its rate in bits per
second for the seconds since the reading before. -/
def reportedBits (t : Throughput ℚ) (earlier : Reading) : List Reading → ℚ
  | [] => 0
  | later :: rest =>
    let measured := t.observe later.record later.time
    measured.bitsPerSecond * (((later.time : ℚ) - earlier.time) / 1000000000) +
      measured.reportedBits later rest

theorem bitsPerSecond_mul_seconds (t : Throughput ℚ) (ns : Nat) :
    t.bitsPerSecond * seconds ns = 8 * bytesOver t.rate ns := by
  simp only [bitsPerSecond, bytesOver, Scalar.ofNat_rat]
  push_cast
  ring

/-- What is reported after one reading are the bytes since the reading before. -/
theorem reportedBits_cons (known : t.previous = some earlier.sample)
    (advances : earlier.Advances later) (fits : earlier.total < 2 ^ 64)
    (fits' : later.total < 2 ^ 64) (rest : List Reading) :
    t.reportedBits earlier (later :: rest) =
      8 * ((later.total : ℚ) - earlier.total) +
        (t.observe later.record later.time).reportedBits later rest := by
  have elapsed : ((later.time : ℚ) - earlier.time) / 1000000000 =
      seconds (later.time - earlier.time) := by
    rw [seconds_rat, Nat.cast_sub advances.time.le]
  have rate : (t.observe later.record later.time).rate =
      rateBetween earlier.sample later.sample := by
    rw [observe, push, known]
    rfl
  have bytes : bytesOver (rateBetween earlier.sample later.sample) (later.time - earlier.time) =
      (later.total : ℚ) - earlier.total := by
    have moved : ¬later.sample.time ≤ earlier.sample.time := not_le.mpr advances.time
    refine (bytesOver_rateBetween earlier.sample later.sample).trans ?_
    rw [if_neg moved, Reading.value_bytes_sample, Reading.value_bytes_sample,
      Reading.counted_eq_total fits, Reading.counted_eq_total fits',
      Nat.cast_sub advances.total_le]
  rw [reportedBits, elapsed, bitsPerSecond_mul_seconds, rate, bytes]

/-- The end of one interval is the start of the next. -/
theorem reportedBits_eq (known : t.previous = some first.sample)
    (advancing : (first :: rest).IsChain Reading.Advances)
    (fits : ∀ r ∈ first :: rest, r.total < 2 ^ 64)
    (ends : (first :: rest).getLast? = some last) :
    t.reportedBits first rest = 8 * ((last.total : ℚ) - first.total) := by
  -- By induction on what is still to be read, for any reading that is remembered.
  induction rest generalizing t first with
  | nil =>
    cases ends
    simp [reportedBits]
  | cons next rest ih =>
    obtain ⟨advances, later⟩ := List.isChain_cons_cons.mp advancing
    obtain ⟨fitsFirst, fitsLater⟩ := List.forall_mem_cons.mp fits
    have remembered : (t.observe next.record next.time).previous = some next.sample := rfl
    rw [reportedBits_cons known advances fitsFirst (fitsLater next List.mem_cons_self),
      ih remembered later fitsLater (by rwa [List.getLast?_cons_cons] at ends)]
    ring

end Exact

/-! ## Rates that are not negative -/

theorem rate_ofReadings_cases {α : Type} [Scalar α] (device : String) (readings : List Reading) :
    (ofReadings device readings : Throughput α).rate = Scalar.zero ∨
      ∃ earlier later : ByteSample,
        (ofReadings device readings : Throughput α).rate = rateBetween earlier later := by
  rcases List.eq_nil_or_concat readings with rfl | ⟨past, r, rfl⟩
  · exact .inl rfl
  · rw [List.concat_eq_append, ofReadings_concat, push]
    dsimp only
    split
    · exact .inr ⟨_, _, rfl⟩
    · exact .inl rfl

theorem rateBetween_nonneg (earlier later : ByteSample) : 0 ≤ (rateBetween earlier later : ℚ) := by
  rw [rateBetween_rat, seconds_rat, bytesPerMegabyte, Scalar.ofNat_rat]
  positivity

theorem exists_isNormal_bytesPerMegabyte :
    ∃ m e, Binary64.IsNormal (bytesPerMegabyte : Float) m e :=
  have ⟨m, e, normal, _⟩ := Binary64.exists_isNormal_ofNat (n := 1048576) (by decide) (by decide)
  ⟨m, e, normal⟩

theorem isUnsigned_rateBetween (earlier later : ByteSample) :
    Binary64.IsUnsigned (rateBetween earlier later : Float).toModel.unpack := by
  have small : later.bytes.value - earlier.bytes.value < 2 ^ 64 :=
    Nat.lt_of_le_of_lt (Nat.sub_le _ _) later.bytes.value_lt
  obtain ⟨unsigned, bounded⟩ := Binary64.isUnsigned_ofNat small
  obtain ⟨m, e, megabyte⟩ := exists_isNormal_bytesPerMegabyte
  unfold rateBetween
  dsimp only
  split
  · next moved =>
    have elapsed := Binary64.isPositive_of_pos
      (of_decide_eq_true (Bool.and_eq_true_iff.mp moved).1)
    exact (unsigned.div elapsed (.inl bounded)).div megabyte.isPositive (.inr megabyte.isBounded)
  · exact .zero

theorem bitsPerSecond_nonneg {t : Throughput ℚ} (h : 0 ≤ t.rate) : 0 ≤ t.bitsPerSecond := by
  rw [bitsPerSecond, bytesPerMegabyte, Scalar.ofNat_rat, Scalar.ofNat_rat]
  positivity

theorem isUnsigned_bitsPerSecond {t : Throughput Float}
    (h : Binary64.IsUnsigned t.rate.toModel.unpack) :
    Binary64.IsUnsigned t.bitsPerSecond.toModel.unpack := by
  obtain ⟨m, e, eight, -, -⟩ := Binary64.exists_isNormal_ofNat (n := 8) (by decide) (by decide)
  obtain ⟨n, f, megabyte⟩ := exists_isNormal_bytesPerMegabyte
  exact (h.mul eight).mul megabyte

theorem rate_ofReadings_nonneg (device : String) (readings : List Reading) :
    0 ≤ (ofReadings device readings : Throughput ℚ).rate := by
  rcases rate_ofReadings_cases (α := ℚ) device readings with none | ⟨earlier, later, rate⟩
  · rw [none, Scalar.zero_rat]
  · exact rate ▸ rateBetween_nonneg earlier later

theorem isUnsigned_rate_ofReadings (device : String) (readings : List Reading) :
    Binary64.IsUnsigned (ofReadings device readings : Throughput Float).rate.toModel.unpack := by
  rcases rate_ofReadings_cases (α := Float) device readings with none | ⟨earlier, later, rate⟩
  · exact none ▸ .zero
  · exact rate ▸ isUnsigned_rateBetween earlier later

/-! ## All readings of a device -/

/-- While the counters of a device rise and fit into a word together, the bits that it reports after
its first reading are eight for each byte from the first reading to the last. In every run
whatsoever no rate is negative, rounded or not, and the first reading alone makes no rate. -/
theorem reportedBits_ofReadings (device : String) :
    (∀ first last rest, (first :: rest).IsChain Reading.Advances →
      (∀ r ∈ first :: rest, r.total < 2 ^ 64) → (first :: rest).getLast? = some last →
      (ofReadings device [first]).reportedBits first rest =
        8 * ((last.total : ℚ) - first.total)) ∧
    ∀ readings,
      let exact : Throughput ℚ := ofReadings device readings
      let rounded : Throughput Float := ofReadings device readings
      (0 ≤ exact.rate ∧ 0 ≤ exact.bitsPerSecond) ∧ (0 ≤ rounded.rate ∧ 0 ≤ rounded.bitsPerSecond) ∧
      (readings.length = 1 → exact.rate = 0 ∧ exact.bitsPerSecond = 0 ∧
        rounded.rate = 0 ∧ rounded.bitsPerSecond = 0) := by
  refine ⟨fun first last rest advancing fits ends => reportedBits_eq rfl advancing fits ends,
    fun readings => ?_⟩
  have exactRate := rate_ofReadings_nonneg device readings
  have roundedRate := isUnsigned_rate_ofReadings device readings
  refine ⟨⟨exactRate, bitsPerSecond_nonneg exactRate⟩,
    ⟨roundedRate.zero_le, (isUnsigned_bitsPerSecond roundedRate).zero_le⟩, fun single => ?_⟩
  obtain ⟨r, rfl⟩ := List.length_eq_one_iff.mp single
  have exactZero : (ofReadings device [r] : Throughput ℚ).rate = 0 := Scalar.zero_rat
  have roundedZero : (ofReadings device [r] : Throughput Float).rate = 0 := rfl
  refine ⟨exactZero, ?_, roundedZero, ?_⟩
  · rw [bitsPerSecond, exactZero, zero_mul, zero_mul]
  · rw [bitsPerSecond, roundedZero]
    decide +kernel

/-- Three readings at uneven times: one megabyte in two seconds, then nothing for half a second,
then three bytes. -/
theorem reportedBits_ofReadings_uneven :
    let first : Reading := readingAt 0 100 7
    let rest := [readingAt 2 1048676 7, { readingAt 2 1048676 7 with time := 2500000000 },
      readingAt 3 1048677 9]
    (first :: rest).IsChain Reading.Advances ∧ (∀ r ∈ first :: rest, r.total < 2 ^ 64) ∧
      (first :: rest).getLast? = some (readingAt 3 1048677 9) ∧
      (ofReadings "eth0" [first]).reportedBits first rest = 8 * 1048579 ∧
      0 ≤ (ofReadings "eth0" (first :: rest) : Throughput Float).rate := by
  intro first rest
  have advancing : (first :: rest).IsChain Reading.Advances := by decide
  have fits : ∀ r ∈ first :: rest, r.total < 2 ^ 64 := by decide
  have ends : (first :: rest).getLast? = some (readingAt 3 1048677 9) := rfl
  obtain ⟨adding, never⟩ := reportedBits_ofReadings "eth0"
  obtain ⟨-, ⟨rounded, -⟩, -⟩ := never (first :: rest)
  have total : ((readingAt 3 1048677 9).total : ℚ) - first.total = 1048579 := by decide +kernel
  refine ⟨advancing, fits, ends, ?_, rounded⟩
  rw [adding first _ rest advancing fits ends, total]

end Throughput

end HostMonitor.Nic
