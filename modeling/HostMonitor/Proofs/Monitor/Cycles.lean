import HostMonitor.Monitor.Basic
import HostMonitor.Proofs.Except
import HostMonitor.Proofs.Nic.Readings

/-!
# Cycles of sampling

A monitor that is sampled again and again keeps its interfaces and its devices. What it remembers of
a device between two cycles are the bytes that were counted in the last cycle that measured
anything.
-/

namespace HostMonitor

/-- What a host shows in one cycle, and when. -/
structure Cycle where
  files : Files
  addresses : Nic.Enumeration
  now : Nat

/-- The bytes that are counted in the directory of an interface. -/
def Cycle.sampleIn (c : Cycle) (directory : Path) : Nic.ByteSample :=
  ⟨Nic.bytesCounted c.files directory, c.now⟩

namespace Device

variable {α : Type} {ds : List (Device α)} {d : Device α} {position : Nat} {interface : String}
  {interfaces : List String}

/-- What a report says about a device. -/
def report (d : Device α) : DeviceReport α :=
  ⟨d.name, d.throughput.vlansText, d.throughput.rate⟩

/-- A device that has not been measured, with its source among the first `position` interfaces. -/
def IsFresh (d : Device α) (position : Nat) : Prop :=
  d.source < position ∧ d.throughput.previous = none

theorem previous_addVlan (t : Nic.Throughput α) (vlan : String) :
    (t.addVlan vlan).previous = t.previous := by
  unfold Nic.Throughput.addVlan
  split <;> rfl

theorem IsFresh.extend (h : d.IsFresh position) :
    (d.extend position interface).IsFresh (position + 1) := by
  obtain ⟨source, previous⟩ := h
  refine ⟨?_, (previous_addVlan _ _).trans previous⟩
  unfold Device.extend
  dsimp only
  split <;> omega

variable [Scalar α]

theorem isFresh_start : (start position interface : Device α).IsFresh (position + 1) :=
  ⟨Nat.lt_succ_self position, previous_addVlan _ _⟩

theorem isFresh_of_mem_place (fresh : ∀ d ∈ ds, d.IsFresh position)
    (h : d ∈ place position interface ds) : d.IsFresh (position + 1) := by
  induction ds with
  | nil =>
    rw [place, List.mem_singleton] at h
    subst h
    exact isFresh_start
  | cons d' ds ih =>
    obtain ⟨first, rest⟩ := List.forall_mem_cons.mp fresh
    rw [place] at h
    split at h
    · rcases List.mem_cons.mp h with rfl | h
      · exact first.extend
      · exact ⟨Nat.lt_succ_of_lt (rest d h).1, (rest d h).2⟩
    · rcases List.mem_cons.mp h with rfl | h
      · exact ⟨Nat.lt_succ_of_lt first.1, first.2⟩
      · exact ih rest h

theorem isFresh_of_mem_groupFrom (fresh : ∀ d ∈ ds, d.IsFresh position)
    (h : d ∈ groupFrom ds position interfaces) : d.IsFresh (position + interfaces.length) := by
  induction interfaces generalizing ds position with
  | nil => exact fresh d h
  | cons interface rest ih =>
    rw [List.length_cons, Nat.add_comm rest.length, ← Nat.add_assoc]
    exact ih (fun d hd => isFresh_of_mem_place fresh hd) h

theorem isFresh_of_mem_group (h : d ∈ group interfaces) : d.IsFresh interfaces.length := by
  have none : ∀ d ∈ ([] : List (Device α)), d.IsFresh 0 := fun _ hd => nomatch hd
  have fresh := isFresh_of_mem_groupFrom none h
  rwa [Nat.zero_add] at fresh

end Device

namespace Monitor

variable {α : Type} {m first : Monitor α} {past : List Cycle} {last : Option Cycle}
  {d d₀ : Device α}

/-! ## What a run keeps -/

/-- The directory of the interface on which a device is measured. -/
def directoryOf (m : Monitor α) (d : Device α) : Path :=
  ((m.nics[d.source]?).map (·.directory)).getD Nic.defaultRoot

/-- The device `d` is what a run has made of the device `d₀`. It remembers the cycle that was
measured last. -/
structure Tracks (first : Monitor α) (last : Option Cycle) (d₀ d : Device α) : Prop where
  watched : d₀.source < first.nics.length
  source : d.source = d₀.source
  name : d.name = d₀.name
  previous : d.throughput.previous = last.map (·.sampleIn (first.directoryOf d₀))

/-- The monitor `m` is what a run has made of the monitor `first`, having measured the cycles
`past`. -/
structure Follows (first m : Monitor α) (past : List Cycle) : Prop where
  directories : m.nics.map (·.directory) = first.nics.map (·.directory)
  devices : ∀ {i : Nat} {d₀ : Device α}, first.devices[i]? = some d₀ →
    ∃ d, m.devices[i]? = some d ∧ Tracks first past.getLast? d₀ d

theorem Follows.source_lt (h : Follows first m past) (tracks : Tracks first last d₀ d) :
    d.source < m.nics.length := by
  have lengths := congrArg List.length h.directories
  rw [List.length_map, List.length_map] at lengths
  rw [tracks.source, lengths]
  exact tracks.watched

theorem Follows.directoryOf_eq (h : Follows first m past) (tracks : Tracks first last d₀ d) :
    m.directoryOf d = first.directoryOf d₀ := by
  rw [directoryOf, directoryOf, ← List.getElem?_map, ← List.getElem?_map, h.directories,
    tracks.source]

/-! ## One cycle -/

variable [Scalar α] {c : Cycle} {report : Report α}

def cycle (m : Monitor α) (c : Cycle) : Performed SampleError (Report α) (Monitor α) :=
  m.sample c.files c.addresses c.now

/-- A device that is measured after every interface has been read. -/
def measuredIn (m : Monitor α) (c : Cycle) (d : Device α) : Device α :=
  let read : Monitor α := { m with nics := m.nics.map fun s => s.update c.files c.addresses }
  ⟨d.source, d.throughput.observe (read.sourceOf d) c.now⟩

/-- All that a cycle can do to the interfaces, the devices and the ledger. The report of a cycle is
about the monitor that the cycle leaves. -/
theorem cycle_cases (m : Monitor α) (c : Cycle) :
    (∃ e, (m.cycle c).result = .error e ∧ (m.cycle c).state.nics = m.nics ∧
      (m.cycle c).state.devices = m.devices ∧ (m.cycle c).state.ledger = m.ledger) ∨
    ∃ load, (m.cycle c).result = .ok ((m.cycle c).state.report load) ∧
      (m.cycle c).state.nics = m.nics.map (fun s => s.update c.files c.addresses) ∧
      (m.cycle c).state.devices = m.devices.map (m.measuredIn c) ∧
      (m.cycle c).state.ledger = m.ledger := by
  unfold cycle sample
  dsimp only
  cases (m.cpu.update c.files).result with
  | error e => exact .inl ⟨_, rfl, rfl, rfl, rfl⟩
  | ok u =>
    cases (m.memory.update c.files).result with
    | error e => exact .inl ⟨_, rfl, rfl, rfl, rfl⟩
    | ok u =>
      dsimp only [measure]
      cases LoadAverage.sample (α := α) c.files (m.settings.procRoot.child "loadavg") with
      | error e => exact .inl ⟨_, rfl, rfl, rfl, rfl⟩
      | ok load => exact .inr ⟨_, rfl, rfl, rfl, rfl⟩

theorem throughput_measuredIn (h : d.source < m.nics.length) :
    (m.measuredIn c d).throughput = d.throughput.push (c.sampleIn (m.directoryOf d)) := by
  have source : m.nics[d.source]? = some m.nics[d.source] := List.getElem?_eq_getElem h
  have directory : m.directoryOf d = m.nics[d.source].directory := by
    rw [directoryOf, source]
    rfl
  rw [measuredIn, Nic.Throughput.observe, sourceOf, List.getElem?_map, source]
  dsimp only [Option.map_some, Option.getD_some]
  rw [Nic.State.bytes_update, directory]
  rfl

namespace Follows

theorem throughput_measuredIn (h : Follows first m past) (tracks : Tracks first last d₀ d) :
    (m.measuredIn c d).throughput = d.throughput.push (c.sampleIn (first.directoryOf d₀)) := by
  rw [Monitor.throughput_measuredIn (h.source_lt tracks), h.directoryOf_eq tracks]

theorem of_error {e : SampleError} (h : Follows first m past)
    (failed : (m.cycle c).result = .error e) : Follows first (m.cycle c).state past := by
  rcases cycle_cases m c with ⟨e, -, nics, devices, -⟩ | ⟨load, ok, -⟩
  · exact ⟨nics ▸ h.directories, devices ▸ h.devices⟩
  · rw [ok] at failed
    cases failed

theorem of_ok (h : Follows first m past) (sampled : (m.cycle c).result = .ok report) :
    Follows first (m.cycle c).state (past ++ [c]) := by
  rcases cycle_cases m c with ⟨e, failed, -⟩ | ⟨load, -, nics, devices, -⟩
  · rw [sampled] at failed
    cases failed
  · refine ⟨?_, fun hd₀ => ?_⟩
    · rw [nics, List.map_map, ← h.directories]
      exact List.map_congr_left fun s _ => Nic.State.directory_update
    · obtain ⟨d, hd, tracks⟩ := h.devices hd₀
      have throughput := h.throughput_measuredIn (c := c) tracks
      refine ⟨m.measuredIn c d, by rw [devices, List.getElem?_map, hd]; rfl, tracks.watched,
        tracks.source, ?_, ?_⟩
      · rw [Device.name, throughput]
        exact tracks.name
      · rw [throughput, List.getLast?_concat]
        rfl

end Follows

/-! ## Runs -/

/-- The monitor after a list of cycles. -/
def after (m : Monitor α) (cs : List Cycle) : Monitor α :=
  cs.foldl (fun m c => (m.cycle c).state) m

/-- The cycles that are not ended by a reading that fails. -/
def measured (m : Monitor α) : List Cycle → List Cycle
  | [] => []
  | c :: cs =>
    match (m.cycle c).result with
    | .ok _ => c :: (m.cycle c).state.measured cs
    | .error _ => (m.cycle c).state.measured cs

theorem follows_start {settings : MonitorSettings α} {files : Files} {topology : Placement.Topology}
    (started : start settings files topology = .ok m) : Follows m m [] := by
  obtain ⟨memory, -, h⟩ := Except.bind_eq_ok_iff.mp started
  cases h
  refine ⟨rfl, fun hd => ⟨_, hd, ?_⟩⟩
  obtain ⟨source, previous⟩ := Device.isFresh_of_mem_group (List.mem_of_getElem? hd)
  exact ⟨by simpa using source, rfl, rfl, previous⟩

/-- What one cycle keeps, a run keeps. -/
theorem Follows.after (h : Follows first m past) (cs : List Cycle) :
    Follows first (m.after cs) (past ++ m.measured cs) := by
  -- By induction on what is still to come, for any past: a cycle that fails adds nothing to it.
  induction cs generalizing m past with
  | nil => rwa [Monitor.measured, List.append_nil]
  | cons c cs ih =>
    rw [Monitor.measured]
    cases hr : (m.cycle c).result with
    | error e => exact ih (h.of_error hr)
    | ok report =>
      rw [List.append_cons]
      exact ih (h.of_ok hr)

/-- The rate between what is counted in one cycle and in the last one before, if there is one. -/
def rateIn (directory : Path) (last : Option Cycle) (c : Cycle) : α :=
  match last with
  | some p => Nic.Throughput.rateBetween (p.sampleIn directory) (c.sampleIn directory)
  | none => Scalar.zero

/-- A report lists every device, each with the rate since the last cycle that measured anything. -/
theorem exists_reported_rate {settings : MonitorSettings α} {files : Files}
    {topology : Placement.Topology} (started : start settings files topology = .ok m) {i : Nat}
    (device : m.devices[i]? = some d) (past : List Cycle)
    (sampled : ((m.after past).cycle c).result = .ok report) :
    ∃ r, report.devices[i]? = some r ∧ r.device = d.name ∧
      r.throughput = rateIn (m.directoryOf d) (m.measured past).getLast? c := by
  have follows : Follows m (m.after past) (m.measured past) := (follows_start started).after past
  obtain ⟨d', hd', tracks⟩ := follows.devices device
  have throughput := follows.throughput_measuredIn (c := c) tracks
  rcases cycle_cases (m.after past) c with ⟨e, failed, -⟩ | ⟨load, ok, -, devices, -⟩
  · rw [failed] at sampled
    cases sampled
  · rw [ok] at sampled
    cases sampled
    refine ⟨((m.after past).measuredIn c d').report, ?_, ?_, ?_⟩
    · rw [report, devices, List.getElem?_map, List.getElem?_map, hd']
      rfl
    · rw [Device.report, Device.name, throughput]
      exact tracks.name
    · rw [Device.report, throughput, Nic.Throughput.push, tracks.previous]
      cases (m.measured past).getLast? with
      | none => rfl
      | some p => rfl

end Monitor

end HostMonitor
