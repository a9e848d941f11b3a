import HostMonitor.Proofs.Binary64.Rounding
import HostMonitor.Proofs.Nic.Readings
import Mathlib.Data.List.Induction

/-!
# Rates after a run of readings

A device remembers one number of its last reading, the bytes received and sent together. So its rate
is zero whenever the two counters together have lost as much as they have gained, but a counter that
falls shows as traffic if the other one gains more than that.
-/

namespace HostMonitor.Nic

/-- A record of a device, and when it was read. -/
structure Reading where
  record : Record
  time : Nat

namespace Reading

/-- Bytes received and sent. -/
def total (r : Reading) : Nat :=
  r.record.rxBytes.value + r.record.txBytes.value

/-- The bytes that are counted, which fit into a word. -/
def counted (r : Reading) : Nat :=
  min r.total (2 ^ 64 - 1)

def sample (r : Reading) : ByteSample :=
  ⟨r.record.rxBytes.add r.record.txBytes, r.time⟩

/-- How far the counters of a reading that are ahead of another one's are ahead of them. -/
def excess (r other : Reading) : Nat :=
  (r.record.rxBytes.value - other.record.rxBytes.value) +
    (r.record.txBytes.value - other.record.txBytes.value)

variable {earlier later : Reading}

theorem value_bytes_sample (r : Reading) : r.sample.bytes.value = r.counted :=
  rfl

theorem counted_le_of_excess_le (h : later.excess earlier ≤ earlier.excess later) :
    later.counted ≤ earlier.counted := by
  unfold counted total
  unfold excess at h
  omega

theorem excess_le_of_counted_le (fits : later.total < 2 ^ 64)
    (h : later.counted ≤ earlier.counted) :
    later.excess earlier ≤ earlier.excess later := by
  unfold counted total at h
  unfold total at fits
  unfold excess
  omega

end Reading

namespace Throughput

section Runs

variable {α : Type} [Scalar α]

/-- A device after the readings, in the order in which they were taken. -/
def ofReadings (device : String) (readings : List Reading) : Throughput α :=
  readings.foldl (fun t r => t.observe r.record r.time) (start device)

theorem ofReadings_concat (device : String) (readings : List Reading) (r : Reading) :
    (ofReadings device (readings ++ [r]) : Throughput α) =
      (ofReadings device readings).push r.sample := by
  simp [ofReadings, observe, Reading.sample]

theorem previous_ofReadings (device : String) (readings : List Reading) :
    (ofReadings device readings : Throughput α).previous =
      readings.getLast?.map Reading.sample := by
  induction readings using List.reverseRecOn with
  | nil => rfl
  | append_singleton readings r _ =>
    rw [ofReadings_concat, List.getLast?_concat]
    rfl

theorem rate_ofReadings_of_length_lt (device : String) {readings : List Reading}
    (h : readings.length < 2) : (ofReadings device readings : Throughput α).rate = Scalar.zero := by
  rcases readings with _ | ⟨r, _ | ⟨r', rest⟩⟩
  · rfl
  · rfl
  · simp only [List.length_cons] at h
    omega

theorem rate_ofReadings (device : String) (before : List Reading) (earlier later : Reading) :
    (ofReadings device (before ++ [earlier, later]) : Throughput α).rate =
      rateBetween earlier.sample later.sample := by
  rw [List.append_cons, ofReadings_concat, push, previous_ofReadings, List.getLast?_concat]
  rfl

end Runs

theorem seconds_zero : (seconds 0 : Float) = 0 := by
  decide +kernel

/-- Rounding does not make traffic out of nothing. -/
theorem rateBetween_float_eq_zero {earlier later : ByteSample}
    (h : later.time ≤ earlier.time ∨ later.bytes.value ≤ earlier.bytes.value) :
    (rateBetween earlier later : Float) = 0 := by
  unfold rateBetween
  dsimp only
  split
  · next moved =>
    rw [Bool.and_eq_true, decide_eq_true_eq] at moved
    obtain ⟨elapsed, risen⟩ := moved
    have positive : 0 < (seconds (later.time - earlier.time) : Float) := of_decide_eq_true elapsed
    rcases h with stopped | fallen
    · rw [Nat.sub_eq_zero_of_le stopped, seconds_zero] at positive
      exact absurd positive (by decide +kernel)
    · rw [Nat.sub_eq_zero_of_le fallen]
      change 0 / _ / _ = (0 : Float)
      rw [Binary64.zero_div_of_pos positive]
      exact Binary64.zero_div_of_pos (by decide +kernel)
  · rfl

/-- When a device shows no traffic after its last two readings, whatever was read before. What both
counters together have lost has to make up for what they have gained, as far as they fit into a
word. -/
theorem rate_ofReadings_eq_zero_iff (device : String) (readings : List Reading) :
    let quotient := (ofReadings device readings : Throughput ℚ).rate
    let rounded := (ofReadings device readings : Throughput Float).rate
    (readings.length < 2 → quotient = 0 ∧ rounded = 0) ∧
    ∀ before earlier later, readings = before ++ [earlier, later] →
      let still := later.time ≤ earlier.time ∨ later.counted ≤ earlier.counted
      (quotient = 0 ↔ still) ∧ (still → rounded = 0) ∧
      (later.excess earlier ≤ earlier.excess later → later.counted ≤ earlier.counted) ∧
      (later.total < 2 ^ 64 → later.counted ≤ earlier.counted →
        later.excess earlier ≤ earlier.excess later) := by
  intro quotient rounded
  refine ⟨fun short => ?short, ?pair⟩
  case short =>
    exact ⟨(rate_ofReadings_of_length_lt device short).trans Scalar.zero_rat,
      rate_ofReadings_of_length_lt device short⟩
  case pair =>
    rintro before earlier later rfl
    intro still
    have quotientRate : quotient = rateBetween earlier.sample later.sample :=
      rate_ofReadings device before earlier later
    have roundedRate : rounded = rateBetween earlier.sample later.sample :=
      rate_ofReadings device before earlier later
    refine ⟨?_, ?_, Reading.counted_le_of_excess_le, Reading.excess_le_of_counted_le⟩
    · rw [quotientRate]
      exact rateBetween_eq_zero_iff
    · rw [roundedRate]
      exact fun h => rateBetween_float_eq_zero h

/-- A reading of two counters after some seconds. -/
def readingAt (seconds rx tx : Nat) : Reading where
  record := { interface := "eth0", rxBytes := Counter.clamp rx, txBytes := Counter.clamp tx }
  time := seconds * nanoseconds

/-- The bytes received start again, and fewer bytes are sent in the meantime than are lost. -/
theorem rate_ofReadings_after_full_reset :
    let readings := [readingAt 0 4000 0, readingAt 1 5000 0, readingAt 2 10 4000]
    readings[2].record.rxBytes.value < readings[1].record.rxBytes.value ∧
      readings[2].excess readings[1] ≤ readings[1].excess readings[2] ∧
      (ofReadings "eth0" readings : Throughput ℚ).rate = 0 ∧
      (ofReadings "eth0" readings : Throughput Float).rate = 0 := by
  intro readings
  have fallen : readings[2].record.rxBytes.value < readings[1].record.rxBytes.value := by decide
  have less : readings[2].excess readings[1] ≤ readings[1].excess readings[2] := by decide
  obtain ⟨-, pair⟩ := rate_ofReadings_eq_zero_iff "eth0" readings
  obtain ⟨iff, rounded, counted, -⟩ := pair [readings[0]] readings[1] readings[2] rfl
  exact ⟨fallen, less, iff.mpr (.inr (counted less)), rounded (.inr (counted less))⟩

/-- The bytes received start again, but more bytes are sent in the meantime than are lost. -/
theorem rate_ofReadings_after_hidden_reset :
    let readings := [readingAt 0 5000 0, readingAt 1 10 10000]
    readings[1].record.rxBytes.value < readings[0].record.rxBytes.value ∧
      (ofReadings "eth0" readings : Throughput ℚ).rate = 5010 / 1048576 ∧
      0 < (ofReadings "eth0" readings : Throughput Float).rate ∧
      (ofReadings "eth0" readings : Throughput Float).rate ≠ 0 := by
  refine ⟨by decide, by decide +kernel, by decide +kernel, by decide +kernel⟩

end Throughput

end HostMonitor.Nic
