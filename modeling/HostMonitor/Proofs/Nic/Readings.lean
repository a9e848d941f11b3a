import HostMonitor.Nic.State
import HostMonitor.Nic.Throughput
import HostMonitor.Proofs.ExactArithmetic
import Mathlib.Algebra.Order.Field.Basic
import Mathlib.Algebra.Order.Field.Rat
import Mathlib.Tactic.FieldSimp

/-!
# Byte counters and rates

An update replaces the byte counters of an interface by what its files hold at that moment, and by
zero where a file holds no number or cannot be read. A rate stands for the bytes that were counted
between two samples, unless fewer bytes were counted the second time.
-/

namespace HostMonitor.Nic

variable {files : Files} {directory : Path} {s : State} {r : Record} {addresses : Enumeration}

/-! ## Readings -/

/-- The number in the file of an attribute, if it can be read. -/
def counter? (files : Files) (directory : Path) (a : Attribute) : Option Counter :=
  (files.read? (directory.child a.file)).bind fun s => Counter.read? (Text.trim s.toList)

/-- Bytes received and sent, where a number that cannot be read counts as zero. -/
def bytesCounted (files : Files) (directory : Path) : Counter :=
  ((counter? files directory .rxBytes).getD Counter.zero).add
    ((counter? files directory .txBytes).getD Counter.zero)

theorem bytes_readAttributes (s : State) (files : Files) :
    (s.readAttributes files).rxBytes = (counter? files s.directory .rxBytes).getD Counter.zero ∧
      (s.readAttributes files).txBytes = (counter? files s.directory .txBytes).getD Counter.zero :=
  ⟨rfl, rfl⟩

/-- What no attribute is about stays as it is when the attributes are read. -/
theorem State.readAttributes_keeps {β : Type} {field : Record → β}
    (keeps : ∀ r a content, field (Record.set r a content) = field r) (s : State) (files : Files) :
    field (s.readAttributes files) = field s.record := by
  unfold readAttributes
  generalize s.record = r
  induction Attribute.all generalizing r with
  | nil => rfl
  | cons a rest ih => rw [List.foldl_cons, ih, keeps]

theorem State.interface_readAttributes (s : State) (files : Files) :
    (s.readAttributes files).interface = s.record.interface :=
  readAttributes_keeps (fun _ a _ => by cases a <;> rfl) s files

theorem exists_learn (r : Record) (e : AddressEntry) :
    ∃ flags v4 v6, r.learn e = { r with flags, v4, v6 } := by
  unfold Record.learn
  cases e.address with
  | none => exact ⟨_, _, _, rfl⟩
  | some ip => cases ip <;> exact ⟨_, _, _, rfl⟩

/-- Addresses change nothing else of a record. -/
theorem exists_learnAll (r : Record) (entries : List AddressEntry) :
    ∃ flags v4 v6, r.learnAll entries = { r with flags, v4, v6 } := by
  rw [Record.learnAll]
  generalize entries.filter (·.name == r.interface) = own
  induction own generalizing r with
  | nil => exact ⟨_, _, _, rfl⟩
  | cons e rest ih =>
    obtain ⟨flags, v4, v6, first⟩ := exists_learn r e
    obtain ⟨flags', v4', v6', others⟩ := ih (r.learn e)
    rw [List.foldl_cons, others, first]
    exact ⟨flags', v4', v6', rfl⟩

theorem bytes_learnAll (r : Record) (entries : List AddressEntry) :
    (r.learnAll entries).rxBytes = r.rxBytes ∧ (r.learnAll entries).txBytes = r.txBytes := by
  obtain ⟨flags, v4, v6, learned⟩ := exists_learnAll r entries
  rw [learned]
  exact ⟨rfl, rfl⟩

theorem interface_learnAll (r : Record) (entries : List AddressEntry) :
    (r.learnAll entries).interface = r.interface := by
  obtain ⟨flags, v4, v6, learned⟩ := exists_learnAll r entries
  rw [learned]

namespace State

theorem interface_update :
    (s.update files addresses).record.interface = s.record.interface := by
  unfold update
  dsimp only
  split
  · exact s.interface_readAttributes files
  · exact (interface_learnAll _ _).trans (s.interface_readAttributes files)

theorem directory_update : (s.update files addresses).directory = s.directory := by
  unfold update
  dsimp only
  split <;> rfl

theorem bytes_update :
    (s.update files addresses).record.rxBytes.add (s.update files addresses).record.txBytes =
      bytesCounted files s.directory := by
  obtain ⟨rx, tx⟩ := bytes_readAttributes s files
  unfold update
  dsimp only
  split
  · rw [rx, tx, bytesCounted]
  · obtain ⟨rx', tx'⟩ := bytes_learnAll (s.readAttributes files) (addresses.getD [])
    rw [rx', tx', rx, tx, bytesCounted]

end State

/-! ## Rates -/

namespace Throughput

variable {earlier later : ByteSample}

theorem seconds_rat (ns : Nat) : (seconds ns : ℚ) = ns / 1000000000 := by
  have parts : (1000000000 : ℚ) * (ns / 1000000000 : Nat) + (ns % 1000000000 : Nat) = ns := by
    exact_mod_cast Nat.div_add_mod ns 1000000000
  simp only [seconds, nanoseconds, Scalar.ofNat_rat]
  rw [← parts]
  push_cast
  field_simp

theorem seconds_pos_iff {ns : Nat} : 0 < (seconds ns : ℚ) ↔ 0 < ns := by
  rw [seconds_rat, div_pos_iff_of_pos_right (by norm_num), Nat.cast_pos]

theorem bytesPerMegabyte_pos : 0 < (bytesPerMegabyte : ℚ) := by
  norm_num [bytesPerMegabyte]

/-- Where nothing is to be reported, one of the two divisions already says so. -/
theorem rateBetween_rat (earlier later : ByteSample) :
    (rateBetween earlier later : ℚ) =
      ((later.bytes.value - earlier.bytes.value : Nat) : ℚ) /
        seconds (later.time - earlier.time) / bytesPerMegabyte := by
  unfold rateBetween
  dsimp only
  split
  · rfl
  · next nothing =>
    simp only [Scalar.lt_rat, Scalar.zero_rat, seconds_pos_iff, Bool.and_eq_true,
      decide_eq_true_eq] at nothing ⊢
    by_cases hb : earlier.bytes.value ≤ later.bytes.value
    · have stopped : later.time - earlier.time = 0 := by omega
      rw [stopped, seconds_rat]
      simp
    · have back : later.bytes.value - earlier.bytes.value = 0 := by omega
      rw [back]
      simp

/-- The bytes that a rate stands for over a time in nanoseconds. -/
def bytesOver (rate : ℚ) (ns : Nat) : ℚ :=
  rate * bytesPerMegabyte * seconds ns

theorem bytesOver_rateBetween (earlier later : ByteSample) :
    bytesOver (rateBetween earlier later) (later.time - earlier.time) =
      if later.time ≤ earlier.time then 0
      else ((later.bytes.value - earlier.bytes.value : Nat) : ℚ) := by
  rw [bytesOver, rateBetween_rat, div_mul_cancel₀ _ bytesPerMegabyte_pos.ne']
  split
  · next stopped =>
    rw [Nat.sub_eq_zero_of_le stopped, seconds_rat]
    simp
  · next moved =>
    have elapsed : 0 < (seconds (later.time - earlier.time) : ℚ) := seconds_pos_iff.mpr (by omega)
    exact div_mul_cancel₀ _ elapsed.ne'

theorem rateBetween_eq_zero_iff {earlier later : ByteSample} :
    (rateBetween earlier later : ℚ) = 0 ↔
      later.time ≤ earlier.time ∨ later.bytes.value ≤ earlier.bytes.value := by
  rw [rateBetween_rat, div_eq_zero_iff, div_eq_zero_iff, Nat.cast_eq_zero, seconds_rat]
  have megabyte := bytesPerMegabyte_pos.ne'
  simp only [megabyte, or_false, div_eq_zero_iff, Nat.cast_eq_zero]
  norm_num
  omega

end Throughput

end HostMonitor.Nic
