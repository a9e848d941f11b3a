import HostMonitor.Proofs.ExtendedArithmetic
import HostMonitor.Threshold
import Mathlib.Data.List.Forall2

/-!
# Checks against thresholds

Over the extended numbers a report has one check for each quantity that is measured: three for the
host and one for each device. A limit that is negative or no number turns its check off, and only a
number that is strictly on the wrong side of another number makes a check busy.
-/

namespace HostMonitor

namespace Thresholds

/-! ## What is checked -/

/-- Whether a limit turns its check off. -/
inductive IsOff : Extended → Prop where
  | nan : IsOff .nan
  | negative {x : EReal} (h : x < 0) : IsOff (.of x)

/-- A value is strictly on the busy side of a limit, and both are numbers. -/
inductive IsBeyond : Side → Extended → Extended → Prop where
  | below {value limit : EReal} (h : value < limit) : IsBeyond .below (.of value) (.of limit)
  | above {value limit : EReal} (h : limit < value) : IsBeyond .above (.of value) (.of limit)

/-- A measured quantity, the limit that is set for it, and the limit that it is compared with. -/
structure Gauge where
  name : String
  value : Extended
  given : Extended
  effective : Extended := given
  side : Side

/-- A limit that is a percentage of the number of cpus, which is taken to be at least one. -/
noncomputable def percentOfCpus (cpuCount : Nat) (limit : Extended) : Extended :=
  limit.map fun x => (Max.max cpuCount 1 : ℕ) * x / (100 : ℕ)

noncomputable def hostGauges (t : Thresholds Extended) (m : Measurements Extended) : List Gauge :=
  [{ name := "cpu_idle", value := m.idlePercent, given := t.cpuIdle, side := .below },
    { name := "mem_free", value := .of (m.freeBytes.value / (10 ^ 6 : ℕ)), given := t.memFree,
      side := .below },
    { name := "load_avg", value := m.load, given := t.loadAvg,
      effective := percentOfCpus m.cpuCount t.loadAvg, side := .above }]

def nicGauge (t : Thresholds Extended) (device : String) (rate : Extended) : Gauge :=
  { name := "nic_usage:" ++ device, value := rate, given := t.nicUsage, side := .above }

noncomputable def gauges (t : Thresholds Extended) (m : Measurements Extended) : List Gauge :=
  t.hostGauges m ++ m.nics.map fun (device, rate) => t.nicGauge device rate

/-- A check has a limit exactly if it is not off, and then it is busy exactly if the value is beyond
the limit. -/
structure Gauge.IsCheckedBy (g : Gauge) (c : Check Extended) : Prop where
  name : c.name = g.name
  value : c.value = g.value
  off : c.threshold = none ↔ IsOff g.given
  limit : ¬IsOff g.given → c.threshold = some g.effective
  busy : c.status = .busy ↔ ¬IsOff g.given ∧ IsBeyond g.side g.value g.effective

variable {v limit given effective : Extended} {side : Side}

/-! ## One check -/

theorem isOff_of_iff {x : EReal} : IsOff (.of x) ↔ x < 0 :=
  ⟨fun | .negative h => h, .negative⟩

theorem le_zero_iff : Scalar.le Scalar.zero limit = true ↔ ¬IsOff limit := by
  cases limit with
  | nan => simp [IsOff.nan]
  | of x => simp [isOff_of_iff]

theorem exceeds_iff : exceeds v limit side = true ↔ IsBeyond side v limit := by
  constructor
  · intro h
    cases side <;> cases v <;> cases limit <;> simp [exceeds] at h
    · exact .below h
    · exact .above h
  · rintro (h | h) <;> simpa [exceeds] using h

theorem status_eq_busy_iff_isBeyond :
    status v limit side = .busy ↔ ¬IsOff limit ∧ IsBeyond side v limit := by
  have split : status v limit side = .busy ↔
      isNegative limit = false ∧ exceeds v limit side = true := by
    unfold status
    split <;> simp_all
  rw [split, exceeds_iff]
  -- No value is beyond a limit that is no number, so only the negative limits are left to rule out.
  refine and_congr_left fun beyond => ?_
  cases beyond <;> simp [isNegative, isOff_of_iff, ← Bool.not_eq_true]

/-- A check is made with the effective limit, which has to be off exactly if the given one is. -/
theorem check_isCheckedBy (name : String) (v : Extended) (side : Side)
    (off : IsOff limit ↔ IsOff given) (same : ¬IsOff given → limit = effective) :
    Gauge.IsCheckedBy ⟨name, v, given, effective, side⟩ (check name v limit side) where
  name := rfl
  value := rfl
  off := by
    rw [← off, check, ← not_iff_not (b := IsOff limit), ← le_zero_iff]
    split <;> simp_all
  limit on := by
    rw [← same on, check, if_pos (le_zero_iff.mpr (mt off.mp on))]
  busy := by
    rw [← off]
    refine status_eq_busy_iff_isBeyond.trans (and_congr_right fun on => ?_)
    rw [same (mt off.mpr on)]

theorem check_isCheckedBy_own (name : String) (v limit : Extended) (side : Side) :
    Gauge.IsCheckedBy ⟨name, v, limit, limit, side⟩ (check name v limit side) :=
  check_isCheckedBy name v side .rfl fun _ => rfl

/-! ## Limits and values -/

theorem megabytes_eq (bytes : Counter) :
    (megabytes bytes : Extended) = .of (bytes.value / (10 ^ 6 : ℕ)) :=
  Extended.div_natCast (by decide) _

theorem loadLimit_eq (t : Thresholds Extended) (cpuCount : Nat) (on : ¬IsOff t.loadAvg) :
    t.loadLimit cpuCount = percentOfCpus cpuCount t.loadAvg := by
  have some : 0 < Max.max cpuCount 1 := by omega
  unfold loadLimit
  cases limit : t.loadAvg with
  | nan => exact absurd .nan (limit ▸ on)
  | of x =>
    have sign : isNegative (Extended.of x) = false := by
      simpa [isNegative, limit, isOff_of_iff, ← Bool.not_eq_true] using on
    rw [if_neg (by simp [sign])]
    change Extended.of (Max.max cpuCount 1 : ℕ) * .of x / .of (100 : ℕ) = _
    rw [Extended.natCast_mul some, Extended.div_natCast (by decide)]
    rfl

theorem isOff_percentOfCpus (cpuCount : Nat) (on : ¬IsOff limit) :
    ¬IsOff (percentOfCpus cpuCount limit) := by
  cases limit with
  | nan => exact absurd .nan on
  | of x =>
    rw [isOff_of_iff, not_lt] at on
    rw [percentOfCpus, Extended.map, isOff_of_iff, not_lt]
    exact EReal.div_nonneg (EReal.mul_nonneg (Nat.cast_nonneg' _) on) (Nat.cast_nonneg' _)

/-- A negative limit is not rescaled, and any other stays on the side of zero that it is on. -/
theorem isOff_loadLimit_iff (t : Thresholds Extended) (cpuCount : Nat) :
    IsOff (t.loadLimit cpuCount) ↔ IsOff t.loadAvg := by
  constructor
  · contrapose
    intro on
    rw [loadLimit_eq t cpuCount on]
    exact isOff_percentOfCpus cpuCount on
  · intro off
    unfold loadLimit
    cases limit : t.loadAvg with
    | nan => simp [isNegative, IsOff.nan]
    | of x =>
      rw [limit, isOff_of_iff] at off
      simp [isNegative, isOff_of_iff, off]

/-! ## Reports -/

theorem hostChecks_areCheckedBy (t : Thresholds Extended) (m : Measurements Extended) :
    List.Forall₂ Gauge.IsCheckedBy (t.hostGauges m) (t.hostChecks m) := by
  have idle := check_isCheckedBy_own "cpu_idle" m.idlePercent t.cpuIdle .below
  have free := check_isCheckedBy_own "mem_free" (megabytes m.freeBytes) t.memFree .below
  have load := check_isCheckedBy "load_avg" m.load .above (isOff_loadLimit_iff t m.cpuCount)
    (loadLimit_eq t m.cpuCount)
  rw [megabytes_eq] at free
  rw [hostChecks, megabytes_eq]
  exact .cons idle (.cons free (.cons load .nil))

theorem nicChecks_areCheckedBy (t : Thresholds Extended) (nics : List (String × Extended)) :
    List.Forall₂ Gauge.IsCheckedBy (nics.map fun (device, rate) => t.nicGauge device rate)
      (nics.map fun (device, rate) => t.nicCheck device rate) := by
  simp only [List.forall₂_map_left_iff, List.forall₂_map_right_iff, List.forall₂_same]
  exact fun (device, rate) _ => check_isCheckedBy_own _ rate t.nicUsage .above

/-- A report checks each quantity in order, and is busy exactly if one of its checks is. -/
theorem evaluate_checks (t : Thresholds Extended) (m : Measurements Extended) :
    List.Forall₂ Gauge.IsCheckedBy (t.gauges m) (t.evaluate m).checks ∧
      ((t.evaluate m).overall = .busy ↔ ∃ c ∈ (t.evaluate m).checks, c.status = .busy) :=
  ⟨List.rel_append (hostChecks_areCheckedBy t m) (nicChecks_areCheckedBy t m.nics),
    worst_eq_busy_iff⟩

end Thresholds

end HostMonitor
