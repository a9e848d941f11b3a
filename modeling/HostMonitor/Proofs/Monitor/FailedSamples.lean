import HostMonitor.Proofs.Except
import HostMonitor.Proofs.Monitor.Calls

/-!
# Samples that fail

A sample that fails may leave new cpu times and new memory counters behind. No call reads either of
them before a sample has replaced both, so two monitors that differ in nothing else answer alike.
-/

namespace HostMonitor

/-- An update reads the same whatever was known before, and is kept if it succeeds. -/
theorem CpuState.update_cases (path : Path) (files : Files) :
    (∃ stat, ∀ s : CpuState, s.path = path → s.update files = ⟨.ok (), ⟨path, stat⟩⟩) ∨
      ∃ e, ∀ s : CpuState, s.path = path → s.update files = ⟨.error e, s⟩ := by
  unfold update
  cases read : files.sample path with
  | error e =>
    refine .inr ⟨e, ?_⟩
    rintro s rfl
    rw [read]
  | ok content =>
    cases parsed : Stat.parse .empty content with
    | error e =>
      refine .inr ⟨.malformedStat path e, ?_⟩
      rintro s rfl
      simp only [read, parsed]
    | ok stat =>
      refine .inl ⟨stat, ?_⟩
      rintro s rfl
      simp only [read, parsed]

theorem MemoryState.update_cases (path : Path) (files : Files) :
    (∃ counters, ∀ s : MemoryState, s.path = path →
      s.update files = ⟨.ok (), ⟨path, counters⟩⟩) ∨
      ∃ e, ∀ s : MemoryState, s.path = path → s.update files = ⟨.error e, s⟩ := by
  unfold update
  cases read : files.sample path with
  | error e =>
    refine .inr ⟨e, ?_⟩
    rintro s rfl
    rw [read]
  | ok content =>
    refine .inl ⟨Memory.parse content, ?_⟩
    rintro s rfl
    rw [read]

theorem CpuState.path_update (s : CpuState) (files : Files) :
    (s.update files).state.path = s.path := by
  rcases update_cases s.path files with ⟨stat, read⟩ | ⟨e, failed⟩
  · rw [read s rfl]
  · rw [failed s rfl]

theorem MemoryState.path_update (s : MemoryState) (files : Files) :
    (s.update files).state.path = s.path := by
  rcases update_cases s.path files with ⟨counters, read⟩ | ⟨e, failed⟩
  · rw [read s rfl]
  · rw [failed s rfl]

namespace Monitor

variable {α : Type} {m : Monitor α}

/-- The monitor with nothing read yet of what every sample reads first. -/
def withoutReadings (m : Monitor α) : Monitor α :=
  { m with cpu := CpuState.start m.cpu.path, memory := ⟨m.memory.path, Assoc.empty⟩ }

theorem withoutReadings_update {cpu : CpuState} {memory : MemoryState}
    (hc : cpu.path = m.cpu.path) (hm : memory.path = m.memory.path) :
    { m with cpu, memory }.withoutReadings = m.withoutReadings := by
  simp [withoutReadings, hc, hm]

/-- Whether a sample failed and this is its answer. -/
def Answer.isFailedSample : Answer α → Bool
  | .sampled (.error _) => true
  | _ => false

/-- A failed sample is left out, anything else is kept. -/
def Exchange.isKept (e : Exchange α) : Bool :=
  !e.answer.isFailedSample

/-! ## One call -/

theorem release_withoutReadings (m : Monitor α) (identifier : String) :
    m.withoutReadings.release identifier = (m.release identifier).within withoutReadings := rfl

variable [Scalar α]

theorem allocate_withoutReadings (m : Monitor α) (r : Nic.Reservation α) :
    m.withoutReadings.allocate r = (m.allocate r).within withoutReadings := rfl

theorem withoutReadings_of_sample_eq_error {files : Files} {addresses : Nic.Enumeration}
    {now : Nat} {e : SampleError} (h : (m.sample files addresses now).result = .error e) :
    (m.sample files addresses now).state.withoutReadings = m.withoutReadings := by
  have cpuPath := m.cpu.path_update files
  have memoryPath := m.memory.path_update files
  unfold sample at h ⊢
  dsimp only at h ⊢
  cases read : (m.cpu.update files).result with
  | error e => exact withoutReadings_update cpuPath rfl
  | ok u =>
    cases read' : (m.memory.update files).result with
    | error e => exact withoutReadings_update cpuPath memoryPath
    | ok u =>
      simp only [read, read', measure] at h ⊢
      split
      · exact withoutReadings_update cpuPath memoryPath
      · next loaded => simp [loaded] at h

/-- Only the monitor that is left when the cpu times or the memory counters cannot be read depends
on earlier readings. -/
theorem sample_withoutReadings (m : Monitor α) (files : Files) (addresses : Nic.Enumeration)
    (now : Nat) :
    (m.withoutReadings.sample files addresses now).result =
        (m.sample files addresses now).result ∧
      (m.withoutReadings.sample files addresses now).state.withoutReadings =
        (m.sample files addresses now).state.withoutReadings := by
  unfold sample
  dsimp only
  rcases CpuState.update_cases m.cpu.path files with ⟨stat, read⟩ | ⟨e, failed⟩
  · rw [read m.cpu rfl, read m.withoutReadings.cpu rfl]
    rcases MemoryState.update_cases m.memory.path files with ⟨counters, read'⟩ | ⟨e, failed'⟩
    · rw [read' m.memory rfl, read' m.withoutReadings.memory rfl]
      exact ⟨rfl, rfl⟩
    · rw [failed' m.memory rfl, failed' m.withoutReadings.memory rfl]
      exact ⟨rfl, rfl⟩
  · rw [failed m.cpu rfl, failed m.withoutReadings.cpu rfl]
    exact ⟨rfl, rfl⟩

theorem call_withoutReadings (m : Monitor α) (c : Call α) :
    (m.withoutReadings.call c).answer = (m.call c).answer ∧
      (m.withoutReadings.call c).monitor.withoutReadings =
        (m.call c).monitor.withoutReadings := by
  cases c with
  | sample files addresses now =>
    obtain ⟨result, monitor⟩ := sample_withoutReadings m files addresses now
    exact ⟨congrArg Answer.sampled result, monitor⟩
  | allocate request =>
    rw [call, call, allocate_withoutReadings]
    exact ⟨rfl, rfl⟩
  | release identifier =>
    rw [call, call, release_withoutReadings]
    exact ⟨rfl, rfl⟩
  | settings => exact ⟨rfl, rfl⟩
  | interfaces => exact ⟨rfl, rfl⟩
  | deviceNames => exact ⟨rfl, rfl⟩
  | throughputOf device => exact ⟨rfl, rfl⟩
  | capacities => exact ⟨rfl, rfl⟩
  | ledger => exact ⟨rfl, rfl⟩

theorem withoutReadings_of_isFailedSample {c : Call α} (h : (m.call c).answer.isFailedSample) :
    (m.call c).monitor.withoutReadings = m.withoutReadings := by
  cases c with
  | sample files addresses now =>
    cases hr : (m.sample files addresses now).result with
    | error e => exact withoutReadings_of_sample_eq_error hr
    | ok report => simp [call, hr, Answer.isFailedSample] at h
  | _ => cases h

/-! ## Runs -/

theorem transcript_withoutReadings (m : Monitor α) (calls : List (Call α)) :
    m.withoutReadings.transcript calls = m.transcript calls := by
  induction calls generalizing m with
  | nil => rfl
  | cons c cs ih =>
    obtain ⟨answer, monitor⟩ := call_withoutReadings m c
    rw [transcript_cons, transcript_cons, answer, ← ih, monitor, ih]

/-- Monitors that differ at most in what the next sample replaces answer every run alike. -/
theorem transcript_congr {m m' : Monitor α} (h : m.withoutReadings = m'.withoutReadings)
    (calls : List (Call α)) : m.transcript calls = m'.transcript calls := by
  rw [← transcript_withoutReadings m, h, transcript_withoutReadings]

/-- A run without the samples that fail in it gets the answers that the other calls get in the whole
run. -/
theorem transcript_kept (m : Monitor α) (calls : List (Call α)) :
    m.transcript (((m.transcript calls).filter (·.isKept)).map (·.call)) =
      (m.transcript calls).filter (·.isKept) := by
  induction calls generalizing m with
  | nil => rfl
  | cons c cs ih =>
    rw [transcript_cons]
    cases failed : (m.call c).answer.isFailedSample with
    | true =>
      -- The call drops out, and what it left behind is not seen by the others.
      have same := transcript_congr (withoutReadings_of_isFailedSample failed)
      rw [List.filter_cons_of_neg (by simp [Exchange.isKept, failed]), ← same]
      exact ih _
    | false =>
      rw [List.filter_cons_of_pos (by simp [Exchange.isKept, failed]), List.map_cons,
        transcript_cons, ih]

end Monitor

end HostMonitor
