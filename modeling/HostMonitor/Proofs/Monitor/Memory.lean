import HostMonitor.Binary64.Arithmetic
import HostMonitor.Proofs.Binary64.Quotients
import HostMonitor.Proofs.Memory.Reading
import HostMonitor.Proofs.Monitor.Agreement

/-!
# The check of memory

A sample that finds less memory available is busy wherever one that finds more is, but for two cases
in which the counter is taken for one that is not there, so that the free memory is checked in its
place: a counter that is zero, and one that is too large.
-/

namespace HostMonitor

open Text

/-! ## The limit -/

namespace Thresholds

variable {t : Thresholds Float} {a b : Counter}

/-- That many bytes fall below the limit, which is not turned off. -/
def IsShort (t : Thresholds Float) (bytes : Counter) : Prop :=
  ¬t.memFree < 0 ∧ megabytes bytes < t.memFree

theorem status_eq_busy_iff :
    status (megabytes a) t.memFree .below = .busy ↔ t.IsShort a := by
  have negative : isNegative t.memFree = decide (t.memFree < 0) := rfl
  have exceeded : exceeds (megabytes a) t.memFree .below = decide (megabytes a < t.memFree) := rfl
  rw [status, negative, exceeded, IsShort]
  split <;> simp_all

theorem megabytes_le_megabytes (h : a.value ≤ b.value) :
    (megabytes a : Float) ≤ megabytes b := by
  obtain ⟨m, e, million, low, high⟩ :=
    Binary64.exists_isNormal_ofNat (n := 1000000) (by decide) (by decide)
  exact Binary64.ofNat_div_le_ofNat_div million (by omega) (by omega) h b.value_lt

theorem isUnsigned_megabytes (a : Counter) :
    Binary64.IsUnsigned (megabytes a : Float).toModel.unpack := by
  obtain ⟨m, e, million, -, -⟩ :=
    Binary64.exists_isNormal_ofNat (n := 1000000) (by decide) (by decide)
  obtain ⟨unsigned, bounded⟩ := Binary64.isUnsigned_ofNat a.value_lt
  exact unsigned.div million.isPositive (.inl bounded)

/-- What is below a limit stays below it when it shrinks. -/
theorem IsShort.mono (h : a.value ≤ b.value) (short : t.IsShort b) : t.IsShort a :=
  ⟨short.1, (isUnsigned_megabytes a).lt_of_le_of_lt (isUnsigned_megabytes b)
    (megabytes_le_megabytes h) short.2⟩

/-- There is one check of memory. -/
theorem filter_memory_check {α : Type} [Scalar α] (t : Thresholds α) (measured : Measurements α) :
    (t.evaluate measured).checks.filter (·.name = "mem_free") =
      [check "mem_free" (megabytes measured.freeBytes) t.memFree .below] := by
  have host : (t.hostChecks measured).filter (·.name = "mem_free") =
      [check "mem_free" (megabytes measured.freeBytes) t.memFree .below] := rfl
  unfold evaluate
  rw [List.filter_append, host, List.append_right_eq_self, List.filter_eq_nil_iff]
  intro c hc named
  obtain ⟨⟨device, rate⟩, -, rfl⟩ := List.mem_map.mp hc
  -- The name of a check of a device has a prefix that this name has not.
  have prefixed := isNicUsage_nicCheck t device rate
  rw [Check.isNicUsage, of_decide_eq_true named] at prefixed
  exact absurd prefixed (by decide)

end Thresholds

/-! ## The memory that is checked -/

namespace Memory

variable {t : Thresholds Float} {unit n n' : Nat} {free : Counter}

/-- The available memory, if the counter is not zero, and else the free memory. -/
def checked (unit : Nat) (free : Counter) (n : Nat) : Counter :=
  if 0 < (amount unit n).value then amount unit n else free

/-- Less available memory looks better than more where one of the two numbers is taken for none and
the free memory tells otherwise than the other: a zero, or a number that is too large. -/
inductive LooksBetter (t : Thresholds Float) (unit : Nat) (free : Counter) (n n' : Nat) : Prop where
  | zero (none : n = 0) (some : 0 < n') (fits : n' < 2 ^ 64) (short : t.IsShort (amount unit n'))
    (enough : ¬t.IsShort free)
  | tooLarge (some : 0 < n) (fits : n < 2 ^ 64) (large : 2 ^ 64 ≤ n') (short : t.IsShort free)
    (enough : ¬t.IsShort (amount unit n))

theorem checked_of_some (pos : 0 < unit) (some : 0 < n) (fits : n < 2 ^ 64) :
    checked unit free n = amount unit n :=
  if_pos ((amount_pos_iff pos).mpr ⟨some, fits⟩)

theorem checked_of_none (pos : 0 < unit) (none : n = 0 ∨ 2 ^ 64 ≤ n) : checked unit free n = free :=
  if_neg fun shown => by
    have := (amount_pos_iff pos).mp shown
    omega

theorem looksBetter_iff (pos : 0 < unit) (le : n ≤ n') :
    LooksBetter t unit free n n' ↔
      t.IsShort (checked unit free n') ∧ ¬t.IsShort (checked unit free n) := by
  constructor
  · intro better
    cases better with
    | zero none some fits short enough =>
      rw [checked_of_some pos some fits, checked_of_none pos (.inl none)]
      exact ⟨short, enough⟩
    | tooLarge some fits large short enough =>
      rw [checked_of_none pos (.inr large), checked_of_some pos some fits]
      exact ⟨short, enough⟩
  · rintro ⟨short, enough⟩
    by_cases known : 0 < n ∧ n < 2 ^ 64 <;> by_cases known' : 0 < n' ∧ n' < 2 ^ 64
    · -- Both numbers are what they say, so the smaller one is short as well.
      rw [checked_of_some pos known.1 known.2] at enough
      rw [checked_of_some pos known'.1 known'.2] at short
      exact absurd (short.mono (amount_le_amount unit le known'.2)) enough
    · have large : 2 ^ 64 ≤ n' := by omega
      rw [checked_of_some pos known.1 known.2] at enough
      rw [checked_of_none pos (.inr large)] at short
      exact .tooLarge known.1 known.2 large short enough
    · have none : n = 0 := by omega
      rw [checked_of_none pos (.inl none)] at enough
      rw [checked_of_some pos known'.1 known'.2] at short
      exact .zero none known'.1 known'.2 short enough
    · rw [checked_of_none pos (by omega)] at enough short
      exact absurd short enough

/-- What a state checks whose counters come from a report with that number. -/
theorem usable_of_content (slot : Slot "MemAvailable") {token : List Char}
    (denotes : Numeral.Denotes token n) (path : Path) :
    (⟨path, parse (slot.content token)⟩ : MemoryState).usable =
      checked slot.unit (⟨path, parse (slot.content token)⟩ : MemoryState).free n := by
  have available : (⟨path, parse (slot.content token)⟩ : MemoryState).available =
      amount slot.unit n := by
    rw [MemoryState.available, MemoryState.get, slot.get?_parse_content denotes]
    rfl
  rw [MemoryState.usable, available, checked]

/-- The free memory does not depend on the number. -/
theorem free_of_content (slot : Slot "MemAvailable") {token token' : List Char}
    (denotes : Numeral.Denotes token n) (denotes' : Numeral.Denotes token' n') (path : Path) :
    (⟨path, parse (slot.content token)⟩ : MemoryState).free =
      (⟨path, parse (slot.content token')⟩ : MemoryState).free :=
  congrArg (Option.getD · Counter.zero) (slot.get?_parse_content_congr denotes denotes' (by decide))

end Memory

namespace Monitor

variable {f g : Files}

/-! ## Two samples -/

theorem exists_memory_check (m : Monitor Float) (memory : MemoryState) (load : LoadAverage Float) :
    ∃ c : Check Float,
      (({ m with memory } : Monitor Float).report load).thresholds.checks.filter
        (·.name = "mem_free") = [c] ∧
      (c.status = .busy ↔ m.settings.thresholds.IsShort memory.usable) :=
  ⟨_, Thresholds.filter_memory_check _ _, Thresholds.status_eq_busy_iff⟩

theorem free_report (m : Monitor Float) (memory : MemoryState) (load : LoadAverage Float) :
    (({ m with memory } : Monitor Float).report load).memory.free = memory.free := rfl

/-- Less available memory never looks better, except as `LooksBetter` says. Two samples in one state
of a run, of files that differ in nothing but the number on the one line for the available memory,
fail alike, or each has one check of memory; and if the check of the larger number is busy then so
is that of the smaller one, unless one of the two is a zero or too large and was taken for no
number. -/
theorem memory_check_mono_iff {files : Files} {topology : Placement.Topology}
    {given : MonitorSettings Float} {first : Monitor Float}
    (started : start given files topology = .ok first) (calls : List (Call Float))
    (slot : Memory.Slot "MemAvailable") {token token' : List Char} {n n' : Nat}
    (denotes : Numeral.Denotes token n) (denotes' : Numeral.Denotes token' n') (le : n ≤ n')
    (agree : Files.AgreeOff (given.procRoot.child "meminfo") f g)
    (found : f.read (given.procRoot.child "meminfo") = .ok (slot.content token))
    (found' : g.read (given.procRoot.child "meminfo") = .ok (slot.content token'))
    (addresses : Nic.Enumeration) (now : Nat) :
    (∃ e, ((first.afterCalls calls).sample f addresses now).result = .error e ∧
      ((first.afterCalls calls).sample g addresses now).result = .error e) ∨
    ∃ r r' c c', ((first.afterCalls calls).sample f addresses now).result = .ok r ∧
      ((first.afterCalls calls).sample g addresses now).result = .ok r' ∧
      r.thresholds.checks.filter (·.name = "mem_free") = [c] ∧
      r'.thresholds.checks.filter (·.name = "mem_free") = [c'] ∧
      ((c'.status = .busy → c.status = .busy) ↔
        ¬Memory.LooksBetter given.thresholds slot.unit r.memory.free n n') := by
  have reads : ReadsIn given (first.afterCalls calls) := (readsIn_start started).afterCalls calls
  rcases sample_agreeOff reads addresses now agree found found' with
    ⟨e, failed, failed'⟩ | ⟨after, load, rfl, sampled, sampled'⟩
  · exact .inl ⟨e, failed, failed'⟩
  · obtain ⟨c, single, busy⟩ := exists_memory_check after _ load
    obtain ⟨c', single', busy'⟩ := exists_memory_check after _ load
    refine .inr ⟨_, _, c, c', sampled, sampled', single, single', ?_⟩
    rw [busy, busy', free_report, Memory.usable_of_content slot denotes,
      Memory.usable_of_content slot denotes', Memory.free_of_content slot denotes' denotes,
      Memory.looksBetter_iff slot.unit_pos le, not_and_not_right]

/-! ## A host that runs out of memory -/

def memorySettings : MonitorSettings Float where
  procRoot := Path.ofString "/proc"
  sysRoot := Path.ofString "/sys"
  nicPatterns := []
  thresholds := Thresholds.standard
  maxNicPercent := Scalar.ofNat 80

/-- The free memory is well above the limit. -/
def memorySlot : Memory.Slot "MemAvailable" where
  before := ["MemFree: 400000 kB".toList]
  key := "MemAvailable".toList
  gap := [' ']
  rest := " kB".toList
  after := [[]]
  named := by decide
  blank := List.forall_mem_singleton.mpr rfl
  ends := by
    rintro _ ⟨⟩
    rfl
  single := by
    intro line hline rest names
    have parsed := Memory.parseLine?_of_names names
    have others : ∀ line ∈ ["MemFree: 400000 kB".toList] ++ [[]],
        (Memory.parseLine? line).map (·.1) ≠ some "MemAvailable" := by decide
    exact others line hline (by rw [parsed]; rfl)
  unbroken := by decide +kernel

def memoryFiles (kilobytes : String) : Files :=
  ((FileTree.ofList [(Path.ofString "/proc/stat", "cpu 1\nbtime 1\n"),
    (Path.ofString "/proc/loadavg", "0 0 0")]).add (memorySettings.procRoot.child "meminfo")
      (memorySlot.content kilobytes.toList)).files

theorem read_memoryFiles (kilobytes : String) :
    (memoryFiles kilobytes).read (memorySettings.procRoot.child "meminfo") =
      .ok (memorySlot.content kilobytes.toList) :=
  FileTree.read_add ..

theorem agreeOff_memoryFiles (kilobytes kilobytes' : String) :
    Files.AgreeOff (memorySettings.procRoot.child "meminfo") (memoryFiles kilobytes)
      (memoryFiles kilobytes') :=
  (FileTree.agreeOff_add _ _ _).trans (FileTree.agreeOff_add _ _ _).symm

def memoryMonitor : Monitor Float where
  settings := memorySettings
  cpu := CpuState.start (Path.ofString "/proc/stat")
  usage := {}
  sockets := []
  memory := ⟨Path.ofString "/proc/meminfo", Assoc.empty⟩
  nics := []
  devices := []
  ledger := Nic.Ledger.empty (Scalar.ofNat 80)

theorem start_memoryFiles :
    start memorySettings (memoryFiles "50000") Placement.Topology.none = .ok memoryMonitor := by
  have meminfo : MemoryState.start (memorySettings.procRoot.child "meminfo")
      (memoryFiles "50000") = .ok ⟨Path.ofString "/proc/meminfo", Assoc.empty⟩ := rfl
  have found : Nic.discover (memoryFiles "50000") (netRoot memorySettings) = [] := by
    decide +kernel
  rw [start, meminfo]
  show Except.ok _ = _
  rw [found]
  rfl

/-- The statuses of the checks of memory, if there is a report. -/
def memoryStatus? (s : Performed SampleError (Report Float) (Monitor Float)) :
    Option (List Status) :=
  s.result.toOption.map fun r =>
    (r.thresholds.checks.filter (·.name = "mem_free")).map (·.status)

theorem exists_of_memoryStatus? {s : Performed SampleError (Report Float) (Monitor Float)}
    {status : Status}
    (h : memoryStatus? s = some [status]) : ∃ r c, s.result = .ok r ∧
      r.thresholds.checks.filter (·.name = "mem_free") = [c] ∧ c.status = status := by
  obtain ⟨r, hr, statuses⟩ := Option.map_eq_some_iff.mp h
  obtain ⟨c, single, rfl⟩ := List.map_eq_singleton_iff.mp statuses
  exact ⟨r, c, Except.toOption_eq_some_iff.mp hr, single, rfl⟩

/-- Twenty megabytes are below the limit because fifty are. -/
theorem memory_check_mono_of_shrinking :
    start memorySettings (memoryFiles "50000") Placement.Topology.none = .ok memoryMonitor ∧
      ∃ r r' c c', (memoryMonitor.sample (memoryFiles "20000") none 0).result = .ok r ∧
        (memoryMonitor.sample (memoryFiles "50000") none 0).result = .ok r' ∧
        r.thresholds.checks.filter (·.name = "mem_free") = [c] ∧
        r'.thresholds.checks.filter (·.name = "mem_free") = [c'] ∧
        c'.status = .busy ∧ c.status = .busy := by
  have less : Numeral.Denotes "20000".toList 20000 :=
    Numeral.value?_dropPlus_eq_some_iff.mp (by decide)
  have more : Numeral.Denotes "50000".toList 50000 :=
    Numeral.value?_dropPlus_eq_some_iff.mp (by decide)
  have shown :
      memoryStatus? (memoryMonitor.sample (memoryFiles "50000") none 0) = some [.busy] := by
    decide +kernel
  obtain ⟨r'', c'', sampled'', single'', busy⟩ := exists_of_memoryStatus? shown
  refine ⟨start_memoryFiles, ?_⟩
  rcases memory_check_mono_iff start_memoryFiles [] memorySlot less more (by decide)
    (agreeOff_memoryFiles "20000" "50000") (read_memoryFiles _) (read_memoryFiles _) none 0 with
    ⟨e, -, failed⟩ | ⟨r, r', c, c', sampled, sampled', single, single', mono⟩
  · cases sampled''.symm.trans failed
  · cases sampled''.symm.trans sampled'
    cases single''.symm.trans single'
    refine ⟨r, r'', c, c'', sampled, sampled', single, single', busy, mono.mpr ?_ busy⟩
    rintro (⟨none, -⟩ | ⟨-, -, large⟩)
    · exact absurd none (by decide)
    · exact absurd large (by decide)

/-- A host with fifty megabytes available is busy, and with none available it is not. -/
theorem memory_check_of_zero :
    start memorySettings (memoryFiles "50000") Placement.Topology.none = .ok memoryMonitor ∧
      Files.AgreeOff (memorySettings.procRoot.child "meminfo") (memoryFiles "0")
        (memoryFiles "50000") ∧
      (memoryFiles "0").read (memorySettings.procRoot.child "meminfo") =
        .ok (memorySlot.content "0".toList) ∧
      (memoryFiles "50000").read (memorySettings.procRoot.child "meminfo") =
        .ok (memorySlot.content "50000".toList) ∧
      (∃ r c, (memoryMonitor.sample (memoryFiles "50000") none 0).result = .ok r ∧
        r.thresholds.checks.filter (·.name = "mem_free") = [c] ∧ c.status = .busy) ∧
      ∃ r c, (memoryMonitor.sample (memoryFiles "0") none 0).result = .ok r ∧
        r.thresholds.checks.filter (·.name = "mem_free") = [c] ∧ c.status = .ok := by
  obtain ⟨busy, ok⟩ : memoryStatus? (memoryMonitor.sample (memoryFiles "50000") none 0) =
      some [.busy] ∧
      memoryStatus? (memoryMonitor.sample (memoryFiles "0") none 0) = some [.ok] := by
    decide +kernel
  exact ⟨start_memoryFiles, agreeOff_memoryFiles _ _, read_memoryFiles _, read_memoryFiles _,
    exists_of_memoryStatus? busy, exists_of_memoryStatus? ok⟩

end Monitor

end HostMonitor
