import HostMonitor.Proofs.File.Agreement
import HostMonitor.Proofs.Memory.Reading
import HostMonitor.Proofs.Monitor.Consistency
import HostMonitor.Proofs.Monitor.FailedSamples
import HostMonitor.Proofs.Nic.Attributes

/-!
# Samples of files that differ in one place

A monitor reads the memory counters from a file of their own, in every state that it reaches. Two
samples in one state, of files that differ in the content of that file alone, fail alike, or make
reports that differ only in what is said about memory.
-/

namespace HostMonitor

/-! ## Files that are read -/

section

variable {f g : Files} {path : Path}

theorem CpuState.update_congr {s : CpuState} (same : f.read s.path = g.read s.path) :
    s.update f = s.update g := by
  rw [update, update, Files.sample, Files.sample, same]

theorem LoadAverage.sample_congr {α : Type} [Scalar α] (same : f.read path = g.read path) :
    (sample f path : Except SampleError (LoadAverage α)) = sample g path := by
  rw [sample, sample, Files.sample, Files.sample, same]

theorem Nic.State.update_congr {s : Nic.State}
    (same : ∀ a : Nic.Attribute, f.read? (s.directory.child a.file) =
      g.read? (s.directory.child a.file)) (addresses : Nic.Enumeration) :
    s.update f addresses = s.update g addresses := by
  have attributes : s.readAttributes f = s.readAttributes g := by
    simp only [readAttributes, same]
  rw [update, update, attributes]

end

/-! ## Paths -/

namespace Path

theorem isName_meminfo : IsName "meminfo" :=
  ⟨by decide, by decide⟩

theorem same_child_name {name name' : String} (h : IsName name) (h' : IsName name')
    (other : name ≠ name') (p : Path) : (p.child name).same (p.child name') = false := by
  rw [← Bool.not_eq_true, same_iff, components_child p h, components_child p h']
  simpa using other

/-- No attribute of an interface is kept in a file that is called `meminfo`. -/
theorem same_child_file_meminfo (directory procRoot : Path) (a : Nic.Attribute) :
    (directory.child a.file).same (procRoot.child "meminfo") = false := by
  have last : ∃ name, (ofString a.file).steps.getLast? = some (.name name) ∧ name ≠ "meminfo" := by
    cases a <;> exact ⟨_, rfl, by decide⟩
  obtain ⟨name, last, other⟩ := last
  rw [← Bool.not_eq_true, same_iff, Nic.components_child_file, components_child _ isName_meminfo]
  intro same
  have ends := congrArg List.getLast? same
  rw [List.getLast?_append, last, List.getLast?_concat] at ends
  exact other (by simpa using ends)

end Path

namespace Monitor

variable {α : Type} {m : Monitor α} {given : MonitorSettings α}

/-! ## What every call keeps -/

/-- A monitor with these settings reads the cpu times and the memory counters where they say. -/
structure ReadsIn (given : MonitorSettings α) (m : Monitor α) : Prop where
  settings : m.settings = given
  cpu : m.cpu.path = given.procRoot.child "stat"
  memory : m.memory.path = given.procRoot.child "meminfo"

variable [Scalar α]

/-- The monitor after a list of calls. -/
def afterCalls (m : Monitor α) (calls : List (Call α)) : Monitor α :=
  calls.foldl (fun m c => (m.call c).monitor) m

/-- A call that is no sample changes nothing but the reservations. -/
theorem call_cases (m : Monitor α) (c : Call α) :
    (∃ files addresses now, c = .sample files addresses now) ∨
      ∃ ledger, (m.call c).monitor = { m with ledger } := by
  cases c with
  | sample files addresses now => exact .inl ⟨files, addresses, now, rfl⟩
  | allocate request =>
    unfold call
    dsimp only
    rcases allocate_cases m request with ⟨c, -, done⟩ | done | ⟨e, done⟩ <;> rw [done] <;>
      exact .inr ⟨_, rfl⟩
  | release identifier =>
    unfold call
    dsimp only
    rcases release_cases m identifier with done | ⟨e, done⟩ <;> rw [done] <;> exact .inr ⟨_, rfl⟩
  | _ => exact .inr ⟨_, rfl⟩

theorem ReadsIn.sample (h : ReadsIn given m) (files : Files) (addresses : Nic.Enumeration)
    (now : Nat) : ReadsIn given (m.sample files addresses now).state := by
  have cpuPath := (m.cpu.path_update files).trans h.cpu
  have memoryPath := (m.memory.path_update files).trans h.memory
  unfold Monitor.sample
  dsimp only
  split
  · exact ⟨h.settings, cpuPath, h.memory⟩
  split
  · exact ⟨h.settings, cpuPath, memoryPath⟩
  · unfold measure
    split <;> exact ⟨h.settings, cpuPath, memoryPath⟩

theorem ReadsIn.call (h : ReadsIn given m) (c : Call α) :
    ReadsIn given (m.call c).monitor := by
  rcases call_cases m c with ⟨files, addresses, now, rfl⟩ | ⟨ledger, step⟩
  · exact h.sample files addresses now
  · rw [step]
    exact ⟨h.settings, h.cpu, h.memory⟩

theorem ReadsIn.afterCalls (h : ReadsIn given m) (calls : List (Call α)) :
    ReadsIn given (m.afterCalls calls) := by
  induction calls generalizing m with
  | nil => exact h
  | cons c calls ih => exact ih (h.call c)

theorem readsIn_start {files : Files} {topology : Placement.Topology}
    (started : start given files topology = .ok m) : ReadsIn given m := by
  obtain ⟨memory, hm, h⟩ := Except.bind_eq_ok_iff.mp started
  obtain ⟨content, -, hs⟩ := Except.bind_eq_ok_iff.mp hm
  cases hs
  cases h
  exact ⟨rfl, rfl, rfl⟩

/-! ## Two samples -/

variable {f g : Files} {content content' : String}

theorem observeNics_congr {addresses : Nic.Enumeration}
    (same : ∀ s : Nic.State, s.update f addresses = s.update g addresses) (now : Nat) :
    m.observeNics f addresses now = m.observeNics g addresses now := by
  unfold observeNics
  rw [List.map_congr_left fun s _ => same s]

/-- Two samples of files that differ in the memory counters alone fail alike, or their reports
differ in nothing that does not come from these counters. -/
theorem sample_agreeOff (h : ReadsIn given m) (addresses : Nic.Enumeration) (now : Nat)
    (agree : Files.AgreeOff (given.procRoot.child "meminfo") f g)
    (found : f.read (given.procRoot.child "meminfo") = .ok content)
    (found' : g.read (given.procRoot.child "meminfo") = .ok content') :
    (∃ e, (m.sample f addresses now).result = .error e ∧
      (m.sample g addresses now).result = .error e) ∨
    ∃ (after : Monitor α) (load : LoadAverage α), after.settings = given ∧
      (m.sample f addresses now).result =
        .ok ({ after with memory := ⟨m.memory.path, Memory.parse content⟩ }.report load) ∧
      (m.sample g addresses now).result =
        .ok ({ after with memory := ⟨m.memory.path, Memory.parse content'⟩ }.report load) := by
  obtain ⟨rfl, cpuPath, memoryPath⟩ := h
  have named (name : String) (isName : Path.IsName name) (other : name ≠ "meminfo") :
      f.read (m.settings.procRoot.child name) = g.read (m.settings.procRoot.child name) :=
    agree _ (Path.same_child_name isName Path.isName_meminfo other _)
  have stat : m.cpu.update g = m.cpu.update f := by
    refine CpuState.update_congr ?_
    rw [cpuPath]
    exact (named "stat" ⟨by decide, by decide⟩ (by decide)).symm
  have loads : (LoadAverage.sample g _ : Except SampleError (LoadAverage α)) = _ :=
    LoadAverage.sample_congr (named "loadavg" ⟨by decide, by decide⟩ (by decide)).symm
  have nics (m : Monitor α) : m.observeNics g addresses now = m.observeNics f addresses now :=
    observeNics_congr (fun s => Nic.State.update_congr
      (fun a => (agree.read? (Path.same_child_file_meminfo _ _ a)).symm) addresses) now
  unfold sample
  dsimp only
  rw [stat, MemoryState.update_of_read (memoryPath ▸ found),
    MemoryState.update_of_read (memoryPath ▸ found')]
  cases (m.cpu.update f).result with
  | error e => exact .inl ⟨e, rfl, rfl⟩
  | ok u =>
    dsimp only [measure]
    rw [loads]
    cases (LoadAverage.sample f (m.settings.procRoot.child "loadavg") :
      Except SampleError (LoadAverage α)) with
    | error e => exact .inl ⟨e, rfl, rfl⟩
    | ok load =>
      rw [nics]
      let updated : Monitor α := { m with cpu := (m.cpu.update f).state }
      exact .inr ⟨updated.observeCpus.observeNics f addresses now, load, rfl, rfl, rfl⟩

end Monitor

end HostMonitor
