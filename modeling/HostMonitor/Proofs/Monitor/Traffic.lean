import HostMonitor.File.Tree
import HostMonitor.Proofs.Monitor.Cycles

/-!
# Traffic that is reported

The rate of a device stands for bytes that were counted between two cycles. A number that cannot be
read is counted as zero, so that all of a counter is reported as traffic in the cycle that can read
it again. What is reported is bounded by how far the counters have really come as long as the cycle
before has counted no less than the last cycle in which both counters could be read.
-/

namespace HostMonitor

namespace Cycle

variable {c p q : Cycle} {directory : Path} {past : List Cycle}

/-- Both numbers can be read. -/
def isComplete (c : Cycle) (directory : Path) : Bool :=
  (Nic.counter? c.files directory .rxBytes).isSome &&
    (Nic.counter? c.files directory .txBytes).isSome

/-- Bytes received and sent, as far as the numbers can be read. -/
def total (c : Cycle) (directory : Path) : Nat :=
  ((Nic.counter? c.files directory .rxBytes).getD Counter.zero).value +
    ((Nic.counter? c.files directory .txBytes).getD Counter.zero).value

/-- The bytes that are counted, which fit into a word. -/
def counted (c : Cycle) (directory : Path) : Nat :=
  (Nic.bytesCounted c.files directory).value

theorem counted_eq (c : Cycle) (directory : Path) :
    c.counted directory = min (c.total directory) (2 ^ 64 - 1) :=
  rfl

/-- The last cycle before in which both numbers could be read, or else the cycle itself. -/
def reference (c : Cycle) (directory : Path) (past : List Cycle) : Cycle :=
  (past.filter (·.isComplete directory)).getLast?.getD c

/-- The numbers that can be read never fall. -/
structure Rising (directory : Path) (cs : List Cycle) : Prop where
  received : (cs.filterMap fun c => Nic.counter? c.files directory .rxBytes).Pairwise
    fun earlier later => earlier.value ≤ later.value
  sent : (cs.filterMap fun c => Nic.counter? c.files directory .txBytes).Pairwise
    fun earlier later => earlier.value ≤ later.value

instance (directory : Path) (cs : List Cycle) : Decidable (Rising directory cs) :=
  decidable_of_iff
    (((cs.filterMap fun c => Nic.counter? c.files directory .rxBytes).Pairwise
        fun earlier later => earlier.value ≤ later.value) ∧
      (cs.filterMap fun c => Nic.counter? c.files directory .txBytes).Pairwise
        fun earlier later => earlier.value ≤ later.value)
    ⟨fun ⟨received, sent⟩ => ⟨received, sent⟩, fun ⟨received, sent⟩ => ⟨received, sent⟩⟩

theorem reference_cases (c : Cycle) (directory : Path) (past : List Cycle) :
    c.reference directory past = c ∨
      c.reference directory past ∈ past ∧ (c.reference directory past).isComplete directory := by
  unfold reference
  cases hq : (past.filter (·.isComplete directory)).getLast? with
  | none => exact .inl rfl
  | some q => exact .inr (List.mem_filter.mp (List.mem_of_getLast? hq))

theorem le_of_pairwise_filterMap {f : Cycle → Option Counter} {a b : Counter}
    (h : ((past ++ [c]).filterMap f).Pairwise fun earlier later => earlier.value ≤ later.value)
    (hq : q ∈ past) (ha : f q = some a) (hb : f c = some b) : a.value ≤ b.value := by
  rw [List.filterMap_append, List.pairwise_append] at h
  refine h.2.2 a (List.mem_filterMap.mpr ⟨q, hq, ha⟩) b ?_
  exact List.mem_filterMap.mpr ⟨c, List.mem_singleton.mpr rfl, hb⟩

theorem Rising.total_le (h : Rising directory (past ++ [c])) (hq : q ∈ past)
    (earlier : q.isComplete directory) (later : c.isComplete directory) :
    q.total directory ≤ c.total directory := by
  rw [isComplete, Bool.and_eq_true, Option.isSome_iff_exists, Option.isSome_iff_exists]
    at earlier later
  obtain ⟨⟨rx, hrx⟩, tx, htx⟩ := earlier
  obtain ⟨⟨rx', hrx'⟩, tx', htx'⟩ := later
  have received := le_of_pairwise_filterMap h.received hq hrx hrx'
  have sent := le_of_pairwise_filterMap h.sent hq htx htx'
  simp only [total, hrx, htx, hrx', htx', Option.getD_some]
  omega

theorem Rising.total_reference_le (h : Rising directory (past ++ [c]))
    (complete : c.isComplete directory) :
    (c.reference directory past).total directory ≤ c.total directory := by
  rcases reference_cases c directory past with same | ⟨hq, earlier⟩
  · rw [same]
  · exact h.total_le hq earlier complete

/-- Nothing is reported beyond what has been added since the reference, if the cycle before has
counted what the reference counts. -/
theorem Rising.counted_sub_le (h : Rising directory (past ++ [c]))
    (complete : c.isComplete directory)
    (kept : (c.reference directory past).counted directory ≤ p.counted directory) :
    c.counted directory - p.counted directory ≤
      c.total directory - (c.reference directory past).total directory := by
  have rise := h.total_reference_le complete
  have now := c.counted_eq directory
  have before := (c.reference directory past).counted_eq directory
  omega

theorem Rising.counted_le (h : Rising directory (past ++ [c])) (complete : c.isComplete directory)
    (fits : c.total directory < 2 ^ 64)
    (bounded : c.counted directory - p.counted directory ≤
      c.total directory - (c.reference directory past).total directory) :
    (c.reference directory past).counted directory ≤ p.counted directory := by
  have rise := h.total_reference_le complete
  have now := c.counted_eq directory
  have before := (c.reference directory past).counted_eq directory
  omega

end Cycle

namespace Monitor

open Nic.Throughput (bytesOver)

variable {m : Monitor ℚ} {d : Device ℚ} {c p : Cycle} {directory : Path}

theorem bytesOver_rateIn (directory : Path) (p c : Cycle) :
    bytesOver (rateIn directory (some p) c) (c.now - p.now) =
      if c.now ≤ p.now then 0 else ((c.counted directory - p.counted directory : Nat) : ℚ) :=
  Nic.Throughput.bytesOver_rateBetween (p.sampleIn directory) (c.sampleIn directory)

theorem rateIn_eq_zero_iff :
    (rateIn directory (some p) c : ℚ) = 0 ↔
      c.now ≤ p.now ∨ c.counted directory ≤ p.counted directory :=
  Nic.Throughput.rateBetween_eq_zero_iff

/-- What a report says of a device in the last cycle of a run, in which `p` is the cycle measured
before it. Where both counters can be read, the bytes that the rate stands for are at most those
that have been added since both could be read last, if `p` has counted as much as was counted then;
and only then, unless no time has passed or the counters do not fit into a word. -/
theorem reported_traffic_le_advance {settings : MonitorSettings ℚ} {files : Files}
    {topology : Placement.Topology} (started : start settings files topology = .ok m) {i : Nat}
    (device : m.devices[i]? = some d) (source : m.directoryOf d = directory) {past : List Cycle}
    {report : Report ℚ} (sampled : ((m.after past).cycle c).result = .ok report)
    (rising : Cycle.Rising directory (m.measured past ++ [c])) :
    ∃ r, report.devices[i]? = some r ∧ r.device = d.name ∧
      ((m.measured past).getLast? = none → r.throughput = 0) ∧
      ∀ p, (m.measured past).getLast? = some p →
        (r.throughput = 0 ↔ c.now ≤ p.now ∨ c.counted directory ≤ p.counted directory) ∧
        (c.isComplete directory →
          let q := c.reference directory (m.measured past)
          let bytes := bytesOver r.throughput (c.now - p.now)
          let advance := c.total directory - q.total directory
          (c.now ≤ p.now ∨ q.counted directory ≤ p.counted directory → bytes ≤ advance) ∧
          (c.total directory < 2 ^ 64 → bytes ≤ advance →
            c.now ≤ p.now ∨ q.counted directory ≤ p.counted directory)) := by
  obtain ⟨r, hr, name, rate⟩ := exists_reported_rate started device past sampled
  rw [source] at rate
  refine ⟨r, hr, name, fun none => ?first, fun p last => ?later⟩
  case first =>
    rw [rate, none]
    exact Scalar.zero_rat
  case later =>
    rw [rate, last]
    refine ⟨rateIn_eq_zero_iff, fun complete => ?_⟩
    dsimp only
    rw [bytesOver_rateIn]
    by_cases stopped : c.now ≤ p.now
    · rw [if_pos stopped]
      exact ⟨fun _ => Nat.cast_nonneg _, fun _ _ => .inl stopped⟩
    · rw [if_neg stopped, Nat.cast_le, or_iff_right stopped]
      exact ⟨rising.counted_sub_le complete, rising.counted_le complete⟩

/-! ## A host with one interface -/

/-- The files of a host, with or without what its only interface has received and sent. -/
def hostFiles (bytes : Option (String × String)) : Files :=
  let system := [(Path.ofString "/proc/stat", "cpu 1\nbtime 1\n"),
    (Path.ofString "/proc/meminfo", ""), (Path.ofString "/proc/loadavg", "0 0 0")]
  let statistics := bytes.toList.flatMap fun (rx, tx) =>
    [(Path.ofString "/sys/class/net/eth0/statistics/rx_bytes", rx),
      (Path.ofString "/sys/class/net/eth0/statistics/tx_bytes", tx)]
  (FileTree.ofList (system ++ statistics)).files

def hostSettings : MonitorSettings ℚ where
  procRoot := Path.ofString "/proc"
  sysRoot := Path.ofString "/sys"
  nicPatterns := []
  thresholds := Thresholds.standard
  maxNicPercent := 80

def hostDirectory : Path := Path.ofString "/sys/class/net/eth0"

def hostDevice : Device ℚ := ⟨0, Nic.Throughput.start "eth0"⟩

def hostMonitor : Monitor ℚ where
  settings := hostSettings
  cpu := CpuState.start (Path.ofString "/proc/stat")
  usage := {}
  sockets := []
  memory := ⟨Path.ofString "/proc/meminfo", Assoc.empty⟩
  nics := [Nic.State.start (Path.ofString "/sys/class/net") "eth0"]
  devices := [hostDevice]
  ledger := Nic.Ledger.empty 80

theorem start_hostFiles :
    start hostSettings (hostFiles (some ("600\n", "400\n"))) Placement.Topology.none =
      .ok hostMonitor := by
  have meminfo : MemoryState.start (hostSettings.procRoot.child "meminfo")
      (hostFiles (some ("600\n", "400\n"))) =
      .ok ⟨Path.ofString "/proc/meminfo", Assoc.empty⟩ := rfl
  have found : Nic.discover (hostFiles (some ("600\n", "400\n"))) (netRoot hostSettings) =
      ["eth0"] := by decide +kernel
  rw [start, meminfo]
  show Except.ok _ = _
  rw [found]
  rfl

/-- The cycle after `n` seconds. -/
def hostCycle (n : Nat) (bytes : Option (String × String)) : Cycle :=
  ⟨hostFiles bytes, none, n * 1000000000⟩

/-- The counters are there, cannot be read once, and are there again. -/
def recovery : List Cycle :=
  [hostCycle 0 (some ("600\n", "400\n")), hostCycle 1 none,
    hostCycle 2 (some ("600\n", "400\n"))]

theorem reported_traffic_after_recovery :
    let c := hostCycle 3 (some ("1000\n", "400\n"))
    start hostSettings (hostFiles (some ("600\n", "400\n"))) Placement.Topology.none =
        .ok hostMonitor ∧
      hostMonitor.devices[0]? = some hostDevice ∧
      hostMonitor.directoryOf hostDevice = hostDirectory ∧
      Cycle.Rising hostDirectory (hostMonitor.measured recovery ++ [c]) ∧
      ∃ report, ((hostMonitor.after recovery).cycle c).result = .ok report ∧
        ∃ r, report.devices[0]? = some r ∧ bytesOver r.throughput 1000000000 ≤ 400 := by
  intro c
  let p := hostCycle 2 (some ("600\n", "400\n"))
  have device : hostMonitor.devices[0]? = some hostDevice := rfl
  have source : hostMonitor.directoryOf hostDevice = hostDirectory := rfl
  have measured : hostMonitor.measured recovery = recovery := rfl
  have reported : ((hostMonitor.after recovery).cycle c).result.toOption.isSome = true := by
    decide +kernel
  obtain ⟨report, hreport⟩ := Option.isSome_iff_exists.mp reported
  have sampled := Except.toOption_eq_some_iff.mp hreport
  obtain ⟨rising, complete, kept, added⟩ : Cycle.Rising hostDirectory (recovery ++ [c]) ∧
      c.isComplete hostDirectory = true ∧
      (c.reference hostDirectory recovery).counted hostDirectory ≤ p.counted hostDirectory ∧
      c.total hostDirectory - (c.reference hostDirectory recovery).total hostDirectory = 400 := by
    decide +kernel
  rw [← measured] at rising
  obtain ⟨r, hr, -, -, later⟩ :=
    reported_traffic_le_advance start_hostFiles device source sampled rising
  have last : (hostMonitor.measured recovery).getLast? = some p := rfl
  have elapsed : c.now - p.now = 1000000000 := by norm_num [c, p, hostCycle]
  have bounded := ((later p last).2 complete).1 (.inr kept)
  rw [measured, added, elapsed, Nat.cast_ofNat] at bounded
  exact ⟨start_hostFiles, device, source, rising, report, sampled, r, hr, bounded⟩

/-- Nothing is sent or received, but the cycle that can read the counters again after one that could
not reports all that they hold. -/
theorem reported_traffic_after_unreadable_cycle :
    let past := [hostCycle 0 (some ("600\n", "400\n")), hostCycle 1 none]
    let c := hostCycle 2 (some ("600\n", "400\n"))
    start hostSettings (hostFiles (some ("600\n", "400\n"))) Placement.Topology.none =
        .ok hostMonitor ∧
      hostMonitor.devices[0]? = some hostDevice ∧
      hostMonitor.directoryOf hostDevice = hostDirectory ∧
      hostMonitor.measured past = past ∧ Cycle.Rising hostDirectory (past ++ [c]) ∧
      c.isComplete hostDirectory ∧
      c.total hostDirectory = (c.reference hostDirectory past).total hostDirectory ∧
      ∃ report, ((hostMonitor.after past).cycle c).result = .ok report ∧
        ∃ r, report.devices[0]? = some r ∧ bytesOver r.throughput 1000000000 = 1000 := by
  intro past c
  have rates : (((hostMonitor.after past).cycle c).result.toOption.map fun report =>
      report.devices.map (·.throughput)) = some [1000 / 1048576] := by decide +kernel
  obtain ⟨report, hreport, rates⟩ := Option.map_eq_some_iff.mp rates
  have sampled := Except.toOption_eq_some_iff.mp hreport
  obtain ⟨r, hr, rate⟩ : ∃ r, report.devices[0]? = some r ∧ r.throughput = 1000 / 1048576 := by
    obtain ⟨r, hr, rate⟩ := List.map_eq_singleton_iff.mp rates
    exact ⟨r, by rw [hr]; rfl, rate⟩
  obtain ⟨rising, complete, unchanged⟩ : Cycle.Rising hostDirectory (past ++ [c]) ∧
      c.isComplete hostDirectory = true ∧
      c.total hostDirectory = (c.reference hostDirectory past).total hostDirectory := by
    decide +kernel
  refine ⟨start_hostFiles, rfl, rfl, rfl, rising, complete, unchanged, report, sampled, r, hr, ?_⟩
  rw [rate, bytesOver, Nic.Throughput.seconds_rat]
  norm_num [Nic.Throughput.bytesPerMegabyte]

end Monitor

end HostMonitor
