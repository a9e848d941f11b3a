import HostMonitor.Proofs.Monitor.Calls
import HostMonitor.Proofs.Monitor.Traffic
import HostMonitor.Proofs.Monitor.Watching
import HostMonitor.Proofs.Nic.Holdings
import Mathlib.Data.List.Permutation

/-!
# Consistent reports

A report is put together from the interfaces, the devices, the checks and the ledger. They fit
together because a monitor is made with one device for the interfaces of that device, no call adds
or removes either, and every reservation names a device.
-/

namespace HostMonitor

open Nic (Reservation deviceOf)

variable {α : Type}

/-! ## What a report has to agree on -/

/-- Whether a check is about the throughput of a device. -/
def Check.isNicUsage (c : Check α) : Bool :=
  "nic_usage:".toList.isPrefixOf c.name.toList

variable [Scalar α]

/-- The parts of a report agree with each other, with the interfaces that are watched, and with the
reservations that are held. -/
structure Report.Consistent (watched : List String) (held : List (Reservation α))
    (r : Report α) : Prop where
  interfaces : r.nics.map (·.record.interface) = watched
  ascending : (r.nics.map (·.record.interface)).Pairwise (· < ·)
  distinct : (r.devices.map (·.device)).Nodup
  devices : ∀ device, device ∈ r.devices.map (·.device) ↔ ∃ n ∈ r.nics, n.record.device = device
  throughput : ∀ n ∈ r.nics, ∀ d ∈ r.devices, d.device = n.record.device →
    n.throughput = d.throughput
  checks : (r.thresholds.checks.filter Check.isNicUsage).map (fun c => (c.name, c.value)) =
    r.devices.map fun d => ("nic_usage:" ++ d.device, d.throughput)
  allocated : ∀ n ∈ r.nics, n.allocated =
    Scalar.sum ((r.reservations.filter (·.interface == n.record.device)).map Reservation.required) /
      Scalar.ofNat 1000000
  identifiers : r.reservations.Pairwise fun a b => a.identifier < b.identifier
  reservations : r.reservations.Perm held
  served : ∀ a ∈ r.reservations, a.interface ∈ r.devices.map (·.device)
  overall : r.thresholds.overall = .busy ↔ ∃ c ∈ r.thresholds.checks, c.status = .busy

/-! ## Checks -/

namespace Thresholds

theorem isNicUsage_nicCheck (t : Thresholds α) (device : String) (rate : α) :
    (t.nicCheck device rate).isNicUsage = true := by
  show "nic_usage:".toList.isPrefixOf ("nic_usage:" ++ device).toList = true
  rw [String.toList_append, List.isPrefixOf_iff_prefix]
  exact List.prefix_append _ _

/-- The checks of the host itself have other names. -/
theorem checks_evaluate (t : Thresholds α) (measured : Measurements α) :
    ((t.evaluate measured).checks.filter Check.isNicUsage).map (fun c => (c.name, c.value)) =
      measured.nics.map fun (device, rate) => ("nic_usage:" ++ device, rate) := by
  have others : ∀ name ∈ ["cpu_idle", "mem_free", "load_avg"],
      ¬"nic_usage:".toList.isPrefixOf name.toList = true := by decide
  have host : (t.hostChecks measured).filter Check.isNicUsage = [] :=
    List.filter_eq_nil_iff.mpr fun c hc => others c.name (List.mem_map_of_mem hc)
  have nics : ∀ c ∈ measured.nics.map (fun (device, rate) => t.nicCheck device rate),
      c.isNicUsage = true := by
    simp only [List.mem_map, Prod.exists]
    rintro c ⟨device, rate, -, rfl⟩
    exact isNicUsage_nicCheck t device rate
  unfold evaluate
  dsimp only
  rw [List.filter_append, host, List.nil_append, List.filter_eq_self.mpr nics, List.map_map]
  rfl

end Thresholds

namespace Monitor

variable {m : Monitor α} {watched : List String} {held : List (Reservation α)}

/-- What the parts of a monitor have to do with each other. -/
structure Consistent (watched : List String) (held : List (Reservation α)) (m : Monitor α) :
    Prop where
  interfaces : m.interfaces = watched
  ascending : watched.Pairwise (· < ·)
  distinct : m.deviceNames.Nodup
  devices : ∀ device, device ∈ m.deviceNames ↔ device ∈ watched.map deviceOf
  ledger : m.ledger.Holds held
  served : ∀ r ∈ m.ledger.reservations, r.interface ∈ m.deviceNames

/-! ## Reports -/

theorem throughputOf_of_mem {d : Device α} (distinct : m.deviceNames.Nodup) (hd : d ∈ m.devices) :
    m.throughputOf d.name = d.throughput.rate := by
  have found : m.devices.find? (·.name == d.name) = some d := by
    unfold deviceNames at distinct
    generalize m.devices = ds at distinct hd
    induction ds with
    | nil => cases hd
    | cons d' ds ih =>
      obtain ⟨new, others⟩ := List.nodup_cons.mp distinct
      rcases List.mem_cons.mp hd with rfl | hd
      · simp
      · have other : d'.name ≠ d.name := fun same => new (same ▸ List.mem_map_of_mem hd)
        rw [List.find?_cons_of_neg (by simpa using other)]
        exact ih others hd
  rw [throughputOf, found]

/-- A report of a monitor whose parts fit together is consistent. -/
theorem Consistent.report (h : m.Consistent watched held) (load : LoadAverage α) :
    (m.report load).Consistent watched held := by
  have interfaces : (m.report load).nics.map (·.record.interface) = watched := by
    rw [← h.interfaces]
    exact List.map_map
  have names : (m.report load).devices.map (·.device) = m.deviceNames := List.map_map
  constructor
  case interfaces => exact interfaces
  case ascending => exact interfaces ▸ h.ascending
  case distinct => exact names ▸ h.distinct
  case devices =>
    intro device
    rw [names, h.devices, ← interfaces]
    simp [Nic.Record.device, deviceOf]
  case throughput =>
    intro n hn d hd same
    obtain ⟨s, -, rfl⟩ := List.mem_map.mp hn
    obtain ⟨d, hd', rfl⟩ := List.mem_map.mp hd
    exact (congrArg m.throughputOf same.symm).trans (throughputOf_of_mem h.distinct hd')
  case checks =>
    refine (Thresholds.checks_evaluate _ _).trans ?_
    rw [Monitor.report, measurements, List.map_map, List.map_map]
    rfl
  case allocated =>
    intro n hn
    obtain ⟨s, -, rfl⟩ := List.mem_map.mp hn
    rfl
  case identifiers => exact h.ledger.pairwise_identifier
  case reservations => exact h.ledger.reservations
  case served => exact names ▸ h.served
  case overall => exact Thresholds.worst_eq_busy_iff

/-! ## Calls -/

/-- The device that serves a request, if it is granted. -/
def servedBy (m : Monitor α) (r : Reservation α) : Option String := do
  let needsMulticast ← r.validate.toOption
  let c ← m.ledger.serving? r needsMulticast m.capacities
  return c.device

/-- The reservations that are held after a call, given those held before: one more where the answer
grants a request, one less where it confirms a release. -/
def heldAfter (m : Monitor α) (held : List (Reservation α)) (c : Call α) : List (Reservation α) :=
  match c, (m.call c).answer with
  | .allocate request, .allocated (.ok true) =>
    { request with interface := (m.servedBy request).getD "" } :: held
  | .release identifier, .released (.ok ()) => held.filter (·.identifier ≠ identifier)
  | _, _ => held

/-- The reservations that have been granted in a run and not been released since. -/
def outstanding (m : Monitor α) (held : List (Reservation α)) : List (Call α) → List (Reservation α)
  | [] => held
  | c :: cs => (m.call c).monitor.outstanding (m.heldAfter held c) cs

/-- A cycle keeps everything that the parts of a monitor have to do with each other. -/
theorem cycle_kept (m : Monitor α) (c : Cycle) :
    (m.cycle c).state.interfaces = m.interfaces ∧
      (m.cycle c).state.deviceNames = m.deviceNames ∧
      (m.cycle c).state.ledger = m.ledger := by
  unfold interfaces deviceNames
  rcases cycle_cases m c with ⟨e, -, nics, devices, ledger⟩ | ⟨load, -, nics, devices, ledger⟩
  · rw [nics, devices]
    exact ⟨rfl, rfl, ledger⟩
  · rw [nics, devices, List.map_map, List.map_map]
    exact ⟨List.map_congr_left fun s _ => Nic.State.interface_update, rfl, ledger⟩

theorem exists_load_of_cycle {c : Cycle} {report : Report α}
    (sampled : (m.cycle c).result = .ok report) :
    ∃ load, report = (m.cycle c).state.report load := by
  rcases cycle_cases m c with ⟨e, failed, -⟩ | ⟨load, ok, -⟩
  · rw [sampled] at failed
    cases failed
  · rw [sampled] at ok
    exact ⟨load, Except.ok.inj ok⟩

theorem Consistent.cycle (h : m.Consistent watched held) (c : Cycle) :
    (m.cycle c).state.Consistent watched held := by
  obtain ⟨interfaces, names, ledger⟩ := cycle_kept m c
  constructor
  case interfaces => exact interfaces.trans h.interfaces
  case ascending => exact h.ascending
  case distinct => exact names ▸ h.distinct
  case devices => exact names ▸ h.devices
  case ledger => exact ledger ▸ h.ledger
  case served => exact ledger ▸ names ▸ h.served

/-- What a request can come to. -/
theorem allocate_cases (m : Monitor α) (request : Reservation α) :
    (∃ c, m.ledger.Grants request m.capacities c ∧ m.allocate request =
      ⟨.ok true, { m with ledger := m.ledger.grant request c.device }⟩) ∨
      m.allocate request = ⟨.ok false, m⟩ ∨ ∃ e, m.allocate request = ⟨.error e, m⟩ := by
  unfold allocate
  rcases Nic.Ledger.allocate_cases m.ledger request m.capacities with
    ⟨c, grants, h⟩ | h | ⟨e, h⟩ <;> rw [h]
  · exact .inl ⟨c, grants, rfl⟩
  · exact .inr (.inl rfl)
  · exact .inr (.inr ⟨e, rfl⟩)

omit [Scalar α] in
theorem release_cases (m : Monitor α) (identifier : String) :
    m.release identifier = ⟨.ok (), { m with ledger := m.ledger.freed identifier }⟩ ∨
      ∃ e, m.release identifier = ⟨.error e, m⟩ := by
  unfold release
  rcases Nic.Ledger.release_cases m.ledger identifier with ⟨-, h⟩ | ⟨e, h⟩ <;> rw [h]
  · exact .inl rfl
  · exact .inr ⟨e, rfl⟩

theorem servedBy_of_grants {request : Reservation α} {c : Nic.Capacity α}
    (h : m.ledger.Grants request m.capacities c) : m.servedBy request = some c.device := by
  obtain ⟨needsMulticast, valid, serving⟩ := h.served
  simp [servedBy, valid, serving, Except.toOption]

/-- A reservation is granted on one of the devices. -/
theorem Consistent.grant {request : Reservation α} {c : Nic.Capacity α}
    (h : m.Consistent watched held) (grants : m.ledger.Grants request m.capacities c) :
    Consistent watched ({ request with interface := c.device } :: held)
      { m with ledger := m.ledger.grant request c.device } := by
  refine ⟨h.interfaces, h.ascending, h.distinct, h.devices, h.ledger.grant grants.fresh _,
    fun r hr => ?_⟩
  have member := (Nic.Ledger.reservations_grant_perm c.device grants.fresh).mem_iff.mp hr
  rcases List.mem_cons.mp member with rfl | hr
  · obtain ⟨d, hd, same⟩ := List.mem_map.mp grants.mem
    exact same ▸ List.mem_map_of_mem hd
  · exact h.served r hr

omit [Scalar α] in
theorem Consistent.freed (h : m.Consistent watched held) (identifier : String) :
    Consistent watched (held.filter (·.identifier ≠ identifier))
      { m with ledger := m.ledger.freed identifier } :=
  ⟨h.interfaces, h.ascending, h.distinct, h.devices, h.ledger.freed identifier, fun r hr =>
    h.served r ((Nic.Ledger.reservations_freed_sublist m.ledger identifier).subset hr)⟩

/-- What one call keeps. -/
theorem Consistent.call (h : m.Consistent watched held) (c : Call α) :
    (m.call c).monitor.Consistent watched (m.heldAfter held c) := by
  cases c with
  | sample files addresses now => exact h.cycle ⟨files, addresses, now⟩
  | allocate request =>
    unfold heldAfter Monitor.call
    dsimp only
    rcases allocate_cases m request with ⟨c, grants, done⟩ | done | ⟨e, done⟩ <;> rw [done]
    · dsimp only
      rw [servedBy_of_grants grants]
      exact h.grant grants
    · exact h
    · exact h
  | release identifier =>
    unfold heldAfter Monitor.call
    dsimp only
    rcases release_cases m identifier with done | ⟨e, done⟩ <;> rw [done]
    · exact h.freed identifier
    · exact h
  | _ => exact h

/-! ## Runs -/

theorem consistent_start {settings : MonitorSettings α} {files : Files}
    {topology : Placement.Topology} (once : files.ListsOnce)
    (started : start settings files topology = .ok m) :
    m.Consistent ((Nic.discover files (netRoot settings)).filter settings.watches) [] := by
  obtain ⟨memory, -, h⟩ := Except.bind_eq_ok_iff.mp started
  cases h
  obtain ⟨distinct, devices⟩ := Device.names_group (α := α)
    ((Nic.discover files (netRoot settings)).filter settings.watches)
  constructor
  case interfaces =>
    rw [Monitor.interfaces, List.map_map]
    exact List.map_id _
  case ascending => exact (Nic.discover_ascending once _).filter _
  case distinct => exact distinct
  case devices => exact devices
  case ledger => exact Nic.Ledger.Holds.empty _
  case served => exact fun r hr => nomatch hr

/-- What is said in a run is said by a monitor whose parts fit together. -/
theorem exists_consistent_of_transcript {calls : List (Call α)} {past rest : List (Exchange α)}
    {e : Exchange α} (h : m.Consistent watched held)
    (said : m.transcript calls = past ++ e :: rest) :
    ∃ now : Monitor α, now.Consistent watched (m.outstanding held (past.map (·.call))) ∧
      (now.call e.call).answer = e.answer := by
  -- By induction on what was said before, for any monitor and any reservations held at its start.
  induction past generalizing m calls held with
  | nil =>
    cases calls with
    | nil => cases said
    | cons c cs =>
      obtain ⟨rfl, -⟩ := List.cons.inj said
      exact ⟨m, h, rfl⟩
  | cons first past ih =>
    cases calls with
    | nil => cases said
    | cons c cs =>
      obtain ⟨rfl, later⟩ := List.cons.inj said
      exact ih (h.call c) later

/-- In every run every report is consistent with the interfaces that were watched from the start and
the reservations that were granted and not released before it. -/
theorem report_consistent {settings : MonitorSettings α} {files : Files}
    {topology : Placement.Topology} (once : files.ListsOnce)
    (started : start settings files topology = .ok m) {calls : List (Call α)}
    {past rest : List (Exchange α)} {found : Files} {addresses : Nic.Enumeration} {now : Nat}
    {report : Report α}
    (said : m.transcript calls =
      past ++ ⟨.sample found addresses now, .sampled (.ok report)⟩ :: rest) :
    report.Consistent ((Nic.discover files (netRoot settings)).filter settings.watches)
      (m.outstanding [] (past.map (·.call))) := by
  obtain ⟨m', h, answer⟩ := exists_consistent_of_transcript (consistent_start once started) said
  obtain ⟨load, rfl⟩ := exists_load_of_cycle (c := ⟨found, addresses, now⟩)
    (Answer.sampled.inj answer)
  exact (h.cycle ⟨found, addresses, now⟩).report load

/-! ## A host with a VLAN -/

/-- A host whose device has an interface of its own and a VLAN. -/
def vlanFiles : Files :=
  (FileTree.ofList [(Path.ofString "/proc/stat", "cpu 1\nbtime 1\n"),
    (Path.ofString "/proc/meminfo", ""), (Path.ofString "/proc/loadavg", "0 0 0"),
    (Path.ofString "/sys/class/net/eth0/statistics/rx_bytes", "600\n"),
    (Path.ofString "/sys/class/net/eth0/speed", "1000\n"),
    (Path.ofString "/sys/class/net/eth0.7/statistics/rx_bytes", "200\n")]).files

def vlanMonitor : Monitor ℚ :=
  { hostMonitor with
    nics := ["eth0", "eth0.7"].map (Nic.State.start (Path.ofString "/sys/class/net"))
    devices := Device.group ["eth0", "eth0.7"] }

theorem discover_vlanFiles :
    (Nic.discover vlanFiles (netRoot hostSettings)).filter hostSettings.watches =
      ["eth0", "eth0.7"] := by cbv

theorem start_vlanFiles :
    start hostSettings vlanFiles Placement.Topology.none = .ok vlanMonitor := by
  have meminfo : MemoryState.start (hostSettings.procRoot.child "meminfo") vlanFiles =
      .ok ⟨Path.ofString "/proc/meminfo", Assoc.empty⟩ := rfl
  rw [start, meminfo]
  show Except.ok _ = _
  rw [discover_vlanFiles]
  rfl

/-- A sample, a request for eight megabits per second, and a sample again. -/
def vlanCalls : List (Call ℚ) :=
  [.sample vlanFiles none 0, .allocate ⟨"stream", 1000, 1000, "", "", "eth0.7"⟩]

/-- The second report lists the reservation, which both interfaces of the device show. -/
theorem report_consistent_vlan :
    vlanFiles.ListsOnce ∧ start hostSettings vlanFiles Placement.Topology.none = .ok vlanMonitor ∧
      ∃ report, (∃ past, past.map (·.call) = vlanCalls ∧
          vlanMonitor.transcript (vlanCalls ++ [.sample vlanFiles none 1000000000]) =
            past ++ [⟨.sample vlanFiles none 1000000000, .sampled (.ok report)⟩]) ∧
        report.Consistent ["eth0", "eth0.7"] (vlanMonitor.outstanding [] vlanCalls) ∧
        report.nics.map (·.allocated) = [8, 8] := by
  have once : vlanFiles.ListsOnce := FileTree.listsOnce (FileTree.nodup_keys_ofList _)
  let last : Call ℚ := .sample vlanFiles none 1000000000
  let later := (vlanMonitor.call (.sample vlanFiles none 0)).monitor
  let latest := (later.call (.allocate ⟨"stream", 1000, 1000, "", "", "eth0.7"⟩)).monitor
  have allocated : ((latest.sample vlanFiles none 1000000000).result.toOption.map fun report =>
      report.nics.map (·.allocated)) = some [8, 8] := by decide +kernel
  obtain ⟨report, hreport, allocated⟩ := Option.map_eq_some_iff.mp allocated
  have sampled := Except.toOption_eq_some_iff.mp hreport
  have said : vlanMonitor.transcript (vlanCalls ++ [last]) =
      (vlanMonitor.transcript vlanCalls) ++ ⟨last, .sampled (.ok report)⟩ :: [] := by
    rw [← sampled]
    rfl
  have consistent := report_consistent once start_vlanFiles said
  rw [discover_vlanFiles] at consistent
  exact ⟨once, start_vlanFiles, report, ⟨_, rfl, said⟩, consistent, allocated⟩

end Monitor

end HostMonitor
