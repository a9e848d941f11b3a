import HostMonitor.Proofs.Cpu.Usage

/-!
# Cpus that come and go

Usage of chosen cpus adds up those that a report lists. A cpu that is missing from a report is not
in the sum: when it comes back, all its time since boot counts as elapsed, and when it goes, that
time is taken off. As long as the sum fits into a word, what is reported as elapsed exceeds what the
cpus in both reports have spent exactly if more comes in this way than goes.
-/

namespace HostMonitor

namespace Stat

variable {earlier later s : Stat} {cpus : List Nat} {cpu : Nat}

/-! ## Times -/

/-- The jiffies of a cpu since boot, and none if it is not reported. -/
def timeOf (s : Stat) (cpu : Nat) : Nat :=
  ((s.perCpu.get? cpu).map Jiffies.whole).getD 0

/-- The jiffies of those cpus that are reported. -/
def time (s : Stat) (cpus : List Nat) : Nat :=
  (cpus.map s.timeOf).sum

/-- The jiffies of those cpus that another report leaves out. -/
def timeOutside (s other : Stat) (cpus : List Nat) : Nat :=
  ((cpus.filter fun cpu => !other.perCpu.contains cpu).map s.timeOf).sum

/-- The jiffies that the cpus in both reports have spent between the two. -/
def advance (earlier later : Stat) (cpus : List Nat) : Nat :=
  ((cpus.filter fun cpu => earlier.perCpu.contains cpu && later.perCpu.contains cpu).map
    fun cpu => later.timeOf cpu - earlier.timeOf cpu).sum

/-- No counter of a cpu falls from one report of it to a later one. -/
def Rising (cpus : List Nat) (reports : List Stat) : Prop :=
  ∀ cpu ∈ cpus, (reports.filterMap (·.perCpu.get? cpu)).Pairwise
    fun j j' => ∀ c, (j.get c).value ≤ (j'.get c).value

instance (cpus : List Nat) (reports : List Stat) : Decidable (Rising cpus reports) :=
  inferInstanceAs (Decidable (∀ cpu ∈ cpus, List.Pairwise _ _))

theorem timeOf_of_contains_eq_false (h : s.perCpu.contains cpu = false) : s.timeOf cpu = 0 := by
  simp_all [timeOf, Assoc.contains]

theorem Rising.timeOf_le {before : List Stat} (h : Rising cpus (before ++ [earlier, later]))
    (listed : cpu ∈ cpus) (first : earlier.perCpu.contains cpu = true)
    (second : later.perCpu.contains cpu = true) : earlier.timeOf cpu ≤ later.timeOf cpu := by
  obtain ⟨j, hj⟩ := Option.isSome_iff_exists.mp first
  obtain ⟨j', hj'⟩ := Option.isSome_iff_exists.mp second
  have rising : ∀ c, (j.get c).value ≤ (j'.get c).value := by
    have pairs := h cpu listed
    simp only [List.filterMap_append, List.pairwise_append] at pairs
    simpa [hj, hj'] using pairs.2.1
  have gained := Usage.whole_add_sum_gained rising
  simp only [timeOf, hj, hj', Option.map_some, Option.getD_some]
  omega

/-- What is there afterwards and what has gone is what the cpus in both reports have spent, what was
there before and what has come. -/
theorem time_add_timeOutside
    (rising : ∀ cpu ∈ cpus, earlier.perCpu.contains cpu → later.perCpu.contains cpu →
      earlier.timeOf cpu ≤ later.timeOf cpu) :
    later.time cpus + earlier.timeOutside later cpus =
      earlier.advance later cpus + earlier.time cpus + later.timeOutside earlier cpus := by
  induction cpus with
  | nil => rfl
  | cons cpu cpus ih =>
    obtain ⟨first, rest⟩ := List.forall_mem_cons.mp rising
    have ih := ih rest
    simp only [time, timeOutside, advance, List.filter_cons, List.map_cons, List.sum_cons] at ih ⊢
    -- A cpu that a report leaves out has no time there, so that it stands on one side only.
    cases he : earlier.perCpu.contains cpu <;> cases hl : later.perCpu.contains cpu
    · grind [timeOf_of_contains_eq_false]
    · grind [timeOf_of_contains_eq_false]
    · grind [timeOf_of_contains_eq_false]
    · grind

theorem value_total_sampleOf (cpus : List Nat) (s : Stat) :
    ((Usage.ofCpus cpus).sampleOf s).total.value = min (s.time cpus) (2 ^ 64 - 1) := by
  have times : ((cpus.filterMap s.perCpu.get?).map Jiffies.whole).sum = s.time cpus := by
    induction cpus with
    | nil => rfl
    | cons cpu cpus ih =>
      cases h : s.perCpu.get? cpu <;> simp_all [time, timeOf]
  rw [← times]
  exact Jiffies.value_total_sum _

end Stat

namespace Usage

/-! ## Reports -/

/-- Usage of chosen cpus after the reports, in the order in which they were made. -/
def ofReports (cpus : List Nat) (reports : List Stat) : Usage :=
  reports.foldl observe (ofCpus cpus)

theorem ofReports_eq (cpus : List Nat) (reports : List Stat) :
    ofReports cpus reports = ofSamples (some cpus) (reports.map (ofCpus cpus).sampleOf) := by
  induction reports using List.reverseRecOn with
  | nil => rfl
  | append_singleton reports report ih =>
    have step : ofReports cpus (reports ++ [report]) = (ofReports cpus reports).observe report := by
      simp [ofReports]
    have sample : (ofReports cpus reports).sampleOf report = (ofCpus cpus).sampleOf report := by
      simp [ih, sampleOf, cpus_ofSamples, ofCpus]
    rw [step, observe, sample, ih, List.map_append, List.map_singleton, ofSamples_concat]

theorem value_elapsed_ofReports (cpus : List Nat) (before : List Stat) (earlier later : Stat) :
    (ofReports cpus (before ++ [earlier, later])).elapsed.value =
      min (later.time cpus) (2 ^ 64 - 1) - min (earlier.time cpus) (2 ^ 64 - 1) := by
  rw [ofReports_eq, List.map_append, List.map_cons, List.map_singleton, value_elapsed_ofSamples,
    ← Jiffies.value_total, ← Jiffies.value_total, Stat.value_total_sampleOf,
    Stat.value_total_sampleOf]

/-- What counts as elapsed between the last two reports, of cpus whose counters never fall. It stays
within what the cpus in both reports have spent as long as no more comes back than goes, and as far
as the times fit into a word, only then. -/
theorem elapsed_ofReports_of_rising (cpus : List Nat) (reports : List Stat)
    (rising : Stat.Rising cpus reports) :
    let u := ofReports cpus reports
    (reports.length < 2 → u.elapsed.value = 0) ∧
    ∀ before earlier later, reports = before ++ [earlier, later] →
      let advance := earlier.advance later cpus
      let come := later.timeOutside earlier cpus
      let gone := earlier.timeOutside later cpus
      (come ≤ gone → u.elapsed.value ≤ advance ∧
        (advance = 0 → ∀ c, u.percent ℚ c = 0 ∧ u.percent Float c = 0)) ∧
      (later.time cpus < 2 ^ 64 → u.elapsed.value = advance + come - gone ∧
        (u.elapsed.value ≤ advance → come ≤ gone)) := by
  intro u
  refine ⟨fun short => ?short, ?pair⟩
  case short =>
    simp only [u, ofReports_eq]
    exact value_elapsed_ofSamples_of_length_lt _ (by simpa using short)
  case pair =>
    rintro before earlier later rfl
    intro advance come gone
    have balance : later.time cpus + gone = advance + earlier.time cpus + come :=
      Stat.time_add_timeOutside fun _ => rising.timeOf_le
    have elapsed : u.elapsed.value = _ := value_elapsed_ofReports cpus before earlier later
    refine ⟨fun less => ?_, fun fits => ?_⟩
    · have bounded : u.elapsed.value ≤ advance := by omega
      exact ⟨bounded, fun still => u.percent_eq_zero (by omega)⟩
    · have value : u.elapsed.value = advance + come - gone := by omega
      exact ⟨value, by omega⟩

/-- A report of cpus with their user times. -/
def reportOf (cpus : List (Nat × Nat)) : Stat where
  jiffies := Jiffies.zero
  bootTime := Counter.clamp 1
  perCpu := .ofList (cpus.map fun (cpu, user) => (cpu, .ofList [Counter.clamp user]))

/-- The second cpu gives way to the third, which has been in use almost as long. -/
theorem elapsed_ofReports_of_exchange :
    let earlier := reportOf [(0, 100), (1, 300)]
    let later := reportOf [(0, 150), (2, 290)]
    let u := ofReports [0, 1, 2] [earlier, later]
    Stat.Rising [0, 1, 2] [earlier, later] ∧ earlier.advance later [0, 1, 2] = 50 ∧
      later.timeOutside earlier [0, 1, 2] = 290 ∧ earlier.timeOutside later [0, 1, 2] = 300 ∧
      u.elapsed.value = 40 ∧ u.elapsed.value ≤ earlier.advance later [0, 1, 2] := by
  intro earlier later u
  obtain ⟨rising, spent, come, gone, fits⟩ :
      Stat.Rising [0, 1, 2] [earlier, later] ∧ earlier.advance later [0, 1, 2] = 50 ∧
        later.timeOutside earlier [0, 1, 2] = 290 ∧ earlier.timeOutside later [0, 1, 2] = 300 ∧
        later.time [0, 1, 2] < 2 ^ 64 := by decide
  obtain ⟨bound, value⟩ :=
    (elapsed_ofReports_of_rising [0, 1, 2] [earlier, later] rising).2 [] earlier later rfl
  rw [spent, come, gone] at bound value
  have elapsed : u.elapsed.value = 40 := (value fits).1
  exact ⟨rising, spent, come, gone, elapsed, spent ▸ (bound (by decide)).1⟩

/-- Nothing is spent at all, but a cpu that is back in use after one report without it counts with
all the time since boot. -/
theorem elapsed_ofReports_after_return :
    let both := reportOf [(0, 100), (1, 100)]
    let reports := [both, reportOf [(0, 100)], both]
    let u := ofReports [0, 1] reports
    Stat.Rising [0, 1] reports ∧ reports[1].advance reports[2] [0, 1] = 0 ∧
      u.elapsed.value = 100 ∧ ¬u.elapsed.value ≤ reports[1].advance reports[2] [0, 1] ∧
      u.percent Float .user = 100 := by
  decide +kernel

end Usage

end HostMonitor
