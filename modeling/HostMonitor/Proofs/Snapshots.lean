import HostMonitor.Proofs.Except
import HostMonitor.Proofs.File.History
import HostMonitor.Proofs.Memory.Reading
import HostMonitor.Proofs.Stat.Reading
import Mathlib.Data.List.Induction

/-!
# Snapshots of a changing tree

Files come and go, and now and then the cpu times and the memory counters are read from them. What
is known is always one whole report, the one that was there at the last update that succeeded. An
update that fails, however much of its file it has read by then, leaves everything as it was.
-/

namespace HostMonitor

/-- Files in memory, and what is read from them. -/
structure Snapshots where
  tree : FileTree
  cpu : CpuState
  memory : MemoryState

namespace Snapshots

open FileTree

inductive Event where
  | edit (change : Edit)
  | updateCpu
  | updateMemory
  deriving DecidableEq, Repr

def act (s : Snapshots) : Event → Performed SampleError Unit Snapshots
  | .edit change => ⟨.ok (), { s with tree := s.tree.edit change }⟩
  | .updateCpu => (s.cpu.update s.tree.files).within fun cpu => { s with cpu }
  | .updateMemory => (s.memory.update s.tree.files).within fun memory => { s with memory }

/-- No files yet, and nothing read. -/
def start (cpuPath memoryPath : Path) : Snapshots :=
  ⟨.empty, .start cpuPath, ⟨memoryPath, .empty⟩⟩

def run (s : Snapshots) (events : List Event) : Snapshots :=
  events.foldl (fun s event => (s.act event).state) s

/-! ## What has happened -/

def Event.edit? : Event → Option Edit
  | .edit change => some change
  | _ => none

/-- The changes of files among events. -/
def edits (events : List Event) : List Edit :=
  events.filterMap Event.edit?

/-- An event, and all events before it. -/
structure Moment where
  before : List Event
  event : Event

def momentsFrom (before : List Event) : List Event → List Moment
  | [] => []
  | event :: events => ⟨before, event⟩ :: momentsFrom (before ++ [event]) events

def moments (events : List Event) : List Moment :=
  momentsFrom [] events

/-- The cpu times are updated from a file whose content is a report of `stat`. -/
def ReadsStat (path : Path) (m : Moment) (stat : Stat) : Prop :=
  m.event = .updateCpu ∧
    ∃ content, HoldsFile (edits m.before) path content ∧ Stat.parse .empty content = .ok stat

/-- The memory counters are updated from a file, whatever its content. -/
def ReadsCounters (path : Path) (m : Moment) (counters : Assoc String Counter) : Prop :=
  m.event = .updateMemory ∧
    ∃ content, HoldsFile (edits m.before) path content ∧ Memory.parse content = counters

/-- Why an event fails after others: the file of an update is not there, or the scan of the cpu
times stops at a fault. -/
inductive Fails (cpuPath memoryPath : Path) (before : List Event) : Event → SampleError → Prop where
  | noStat (missing : ∀ content, ¬HoldsFile (edits before) cpuPath content) :
    Fails cpuPath memoryPath before .updateCpu (.unreadable cpuPath (.missingFile cpuPath))
  | malformedStat {content fault} (held : HoldsFile (edits before) cpuPath content)
      (stopped : (Stat.scan .empty content).fault = some fault) :
    Fails cpuPath memoryPath before .updateCpu (.malformedStat cpuPath fault)
  | noCounters (missing : ∀ content, ¬HoldsFile (edits before) memoryPath content) :
    Fails cpuPath memoryPath before .updateMemory (.unreadable memoryPath (.missingFile memoryPath))

/-- The files are those that the edits lead to. The cpu times and the memory counters are what was
read at the last update that succeeded, and empty before the first. -/
structure Follows (cpuPath memoryPath : Path) (events : List Event) (s : Snapshots) : Prop where
  tree : s.tree = ofEdits (edits events)
  cpuFile : s.cpu.path = cpuPath
  memoryFile : s.memory.path = memoryPath
  stat : LatestOr (ReadsStat cpuPath) Stat.empty (moments events) s.cpu.stat
  counters : LatestOr (ReadsCounters memoryPath) Assoc.empty (moments events) s.memory.counters

variable {s : Snapshots} {events before : List Event} {event : Event} {cpuPath memoryPath : Path}
  {e : SampleError}

theorem momentsFrom_concat (before events : List Event) (event : Event) :
    momentsFrom before (events ++ [event]) =
      momentsFrom before events ++ [⟨before ++ events, event⟩] := by
  induction events generalizing before with
  | nil => simp [momentsFrom]
  | cons first events ih => simp [momentsFrom, ih]

theorem moments_concat (events : List Event) (event : Event) :
    moments (events ++ [event]) = moments events ++ [⟨events, event⟩] :=
  momentsFrom_concat [] events event

theorem ofEdits_edits_concat (events : List Event) (change : Edit) :
    ofEdits (edits (events ++ [.edit change])) = (ofEdits (edits events)).edit change := by
  simp [edits, ofEdits, Event.edit?]

theorem edits_concat_of_update (h : event.edit? = none) :
    edits (events ++ [event]) = edits events := by
  simp [edits, h]

/-! ## Updates -/

theorem Fails.not_readsStat (h : Fails cpuPath memoryPath before .updateCpu e) (stat : Stat) :
    ¬ReadsStat cpuPath ⟨before, .updateCpu⟩ stat := by
  rintro ⟨-, content, held, read⟩
  cases h with
  | noStat missing => exact missing content held
  | malformedStat held' stopped =>
    rw [held.unique held', Stat.parse_eq_error_iff.mpr stopped] at read
    cases read

theorem Fails.not_readsCounters (h : Fails cpuPath memoryPath before .updateMemory e)
    (counters : Assoc String Counter) :
    ¬ReadsCounters memoryPath ⟨before, .updateMemory⟩ counters := by
  rintro ⟨-, content, held, -⟩
  cases h with
  | noCounters missing => exact missing content held

theorem Fails.unique {e' : SampleError} (h : Fails cpuPath memoryPath before event e)
    (h' : Fails cpuPath memoryPath before event e') : e = e' := by
  cases h with
  | noStat missing =>
    cases h' with
    | noStat => rfl
    | malformedStat held => exact absurd held (missing _)
  | malformedStat held stopped =>
    cases h' with
    | noStat missing => exact absurd held (missing _)
    | malformedStat held' stopped' =>
      rw [held.unique held', stopped', Option.some.injEq] at stopped
      rw [stopped]
  | noCounters missing =>
    cases h'
    rfl

/-- An update of the cpu times reads the whole report, or it fails and keeps all. -/
theorem act_updateCpu_cases (tree : s.tree = ofEdits (edits before)) :
    (∃ stat, ReadsStat s.cpu.path ⟨before, .updateCpu⟩ stat ∧
      s.act .updateCpu = ⟨.ok (), { s with cpu := ⟨s.cpu.path, stat⟩ }⟩) ∨
    ∃ e, Fails s.cpu.path s.memory.path before .updateCpu e ∧ s.act .updateCpu = ⟨.error e, s⟩ := by
  unfold act
  by_cases there : ∃ content, HoldsFile (edits before) s.cpu.path content
  · obtain ⟨content, held⟩ := there
    have found : s.tree.files.read s.cpu.path = .ok content :=
      tree ▸ read_ofEdits_eq_ok_iff.mpr held
    cases read : Stat.parse .empty content with
    | ok stat =>
      refine .inl ⟨stat, ⟨rfl, content, held, read⟩, ?_⟩
      rw [Stat.update_of_parse s.cpu found .empty, read]
      rfl
    | error fault =>
      refine .inr ⟨_, .malformedStat held (Stat.parse_eq_error_iff.mp read), ?_⟩
      rw [Stat.update_of_parse s.cpu found .empty, read]
      rfl
  · have missing := not_exists.mp there
    have unread := tree ▸ read_ofEdits_of_missing missing
    refine .inr ⟨_, .noStat missing, ?_⟩
    rw [Stat.update_of_unreadable unread]
    rfl

/-- An update of the memory counters reads whatever is there, or it fails and keeps all. -/
theorem act_updateMemory_cases (tree : s.tree = ofEdits (edits before)) :
    (∃ counters, ReadsCounters s.memory.path ⟨before, .updateMemory⟩ counters ∧
      s.act .updateMemory = ⟨.ok (), { s with memory := ⟨s.memory.path, counters⟩ }⟩) ∨
    ∃ e, Fails s.cpu.path s.memory.path before .updateMemory e ∧
      s.act .updateMemory = ⟨.error e, s⟩ := by
  unfold act
  by_cases there : ∃ content, HoldsFile (edits before) s.memory.path content
  · obtain ⟨content, held⟩ := there
    have found : s.tree.files.read s.memory.path = .ok content :=
      tree ▸ read_ofEdits_eq_ok_iff.mpr held
    refine .inl ⟨_, ⟨rfl, content, held, rfl⟩, ?_⟩
    rw [MemoryState.update_of_read found]
    rfl
  · have missing := not_exists.mp there
    have unread := tree ▸ read_ofEdits_of_missing missing
    refine .inr ⟨_, .noCounters missing, ?_⟩
    rw [MemoryState.update_of_unreadable unread]
    rfl

/-! ## One event -/

theorem Follows.start (cpuPath memoryPath : Path) :
    Follows cpuPath memoryPath [] (Snapshots.start cpuPath memoryPath) :=
  ⟨rfl, rfl, rfl, .nil, .nil⟩

theorem Follows.act (h : Follows cpuPath memoryPath events s) (event : Event) :
    Follows cpuPath memoryPath (events ++ [event]) (s.act event).state := by
  obtain ⟨tree, rfl, rfl, stat, counters⟩ := h
  have keepStat (quiet : ∀ stat, ¬ReadsStat s.cpu.path ⟨events, event⟩ stat) :
      LatestOr (ReadsStat s.cpu.path) Stat.empty (moments (events ++ [event])) s.cpu.stat :=
    moments_concat events event ▸ stat.unheard quiet
  have keepCounters (quiet : ∀ counters, ¬ReadsCounters s.memory.path ⟨events, event⟩ counters) :
      LatestOr (ReadsCounters s.memory.path) Assoc.empty (moments (events ++ [event]))
        s.memory.counters :=
    moments_concat events event ▸ counters.unheard quiet
  cases event with
  | edit change =>
    have tree' := (ofEdits_edits_concat events change).trans (congrArg (·.edit change) tree.symm)
    refine ⟨tree'.symm, rfl, rfl, keepStat ?_, keepCounters ?_⟩
    · exact fun _ reads => nomatch reads.1
    · exact fun _ reads => nomatch reads.1
  | updateCpu =>
    have kept := keepCounters fun _ reads => nomatch reads.1
    have tree' : s.tree = ofEdits (edits (events ++ [.updateCpu])) := by
      rw [edits_concat_of_update rfl, tree]
    rcases act_updateCpu_cases tree with ⟨stat', reads, acted⟩ | ⟨e, fails, acted⟩ <;> rw [acted]
    · exact ⟨tree', rfl, rfl, moments_concat events _ ▸ .heard reads, kept⟩
    · exact ⟨tree', rfl, rfl, keepStat fails.not_readsStat, kept⟩
  | updateMemory =>
    have kept := keepStat fun _ reads => nomatch reads.1
    have tree' : s.tree = ofEdits (edits (events ++ [.updateMemory])) := by
      rw [edits_concat_of_update rfl, tree]
    rcases act_updateMemory_cases tree with ⟨counters', reads, acted⟩ | ⟨e, fails, acted⟩ <;>
      rw [acted]
    · exact ⟨tree', rfl, rfl, kept, moments_concat events _ ▸ .heard reads⟩
    · exact ⟨tree', rfl, rfl, kept, keepCounters fails.not_readsCounters⟩

/-- An event that fails changes nothing. -/
theorem Follows.act_of_fails (h : Follows cpuPath memoryPath events s)
    (fails : Fails cpuPath memoryPath events event e) : s.act event = ⟨.error e, s⟩ := by
  obtain ⟨tree, rfl, rfl, -, -⟩ := h
  cases event with
  | edit change => cases fails
  | updateCpu =>
    rcases act_updateCpu_cases tree with ⟨stat, reads, -⟩ | ⟨e', fails', acted⟩
    · exact absurd reads (fails.not_readsStat stat)
    · rw [acted, fails.unique fails']
  | updateMemory =>
    rcases act_updateMemory_cases tree with ⟨counters, reads, -⟩ | ⟨e', fails', acted⟩
    · exact absurd reads (fails.not_readsCounters counters)
    · rw [acted, fails.unique fails']

theorem Follows.result_eq_error_iff (h : Follows cpuPath memoryPath events s) :
    (s.act event).result = .error e ↔ Fails cpuPath memoryPath events event e := by
  refine ⟨fun failed => ?_, fun fails => by rw [h.act_of_fails fails]⟩
  obtain ⟨tree, rfl, rfl, -, -⟩ := h
  cases event with
  | edit change => cases failed
  | updateCpu =>
    rcases act_updateCpu_cases tree with ⟨stat, -, acted⟩ | ⟨e', fails, acted⟩ <;>
      rw [acted] at failed <;> cases failed
    exact fails
  | updateMemory =>
    rcases act_updateMemory_cases tree with ⟨counters, -, acted⟩ | ⟨e', fails, acted⟩ <;>
      rw [acted] at failed <;> cases failed
    exact fails

/-! ## Runs -/

theorem follows_run (cpuPath memoryPath : Path) (events : List Event) :
    Follows cpuPath memoryPath events ((start cpuPath memoryPath).run events) := by
  induction events using List.reverseRecOn with
  | nil => exact .start cpuPath memoryPath
  | append_singleton events event ih =>
    rw [run, List.foldl_concat]
    exact ih.act event

/-- Whatever happens to the files, the cpu times are those of the whole report that was there at
their last update that succeeded, and so are the memory counters. An update fails if its file is not
there, and that of the cpu times also if their report has a fault. It changes nothing then. -/
theorem run_keeps_last_reports (cpuPath memoryPath : Path) (events : List Event) :
    Follows cpuPath memoryPath events ((start cpuPath memoryPath).run events) ∧ ∀ event e,
      ((((start cpuPath memoryPath).run events).act event).result = .error e ↔
        Fails cpuPath memoryPath events event e) ∧
      (Fails cpuPath memoryPath events event e →
        (((start cpuPath memoryPath).run events).act event).state =
          (start cpuPath memoryPath).run events) := by
  have follows := follows_run cpuPath memoryPath events
  refine ⟨follows, fun event e => ⟨follows.result_eq_error_iff, fun fails => ?_⟩⟩
  rw [follows.act_of_fails fails]

/-- A report of cpu times with a fault in its last line. -/
def tornText : String :=
  "cpu 8 9\ncpu0 8\nbtime x\n"

/-- Both reports are read once. Then that of the cpu times is torn, and the other one is removed. -/
def tornEvents : List Event :=
  [.edit (.add CpuState.defaultPath "cpu 1 2\ncpu0 3\nbtime 7\n"), .updateCpu,
    .edit (.add MemoryState.defaultPath "MemFree: 5 kB\n"), .updateMemory,
    .edit (.add (Path.ofString "/proc/./stat") tornText), .updateCpu,
    .edit (.remove (Path.ofString "/proc//meminfo"))]

theorem run_tornEvents :
    let s := (start CpuState.defaultPath MemoryState.defaultPath).run tornEvents
    (Stat.scan .empty tornText).stat.jiffies = .ofList [.clamp 8, .clamp 9] ∧
      s.cpu.stat = ⟨.ofList [.clamp 1, .clamp 2], .clamp 7, ⟨[(0, .ofList [.clamp 3])]⟩⟩ ∧
      s.memory.counters = ⟨[("MemFree", .clamp 5000)]⟩ ∧
      Follows CpuState.defaultPath MemoryState.defaultPath tornEvents s ∧
      Fails CpuState.defaultPath MemoryState.defaultPath tornEvents .updateCpu
        (.malformedStat CpuState.defaultPath (.invalidBootTime "btime x")) ∧
      (s.act .updateCpu).state = s ∧ (s.act .updateMemory).state = s := by
  intro s
  obtain ⟨follows, fails⟩ :=
    run_keeps_last_reports CpuState.defaultPath MemoryState.defaultPath tornEvents
  have torn : (s.act .updateCpu).result =
      .error (.malformedStat CpuState.defaultPath (.invalidBootTime "btime x")) := by
    decide +kernel
  have gone : (s.act .updateMemory).result =
      .error (.unreadable MemoryState.defaultPath (.missingFile MemoryState.defaultPath)) := by
    decide +kernel
  have stopped := (fails _ _).1.mp torn
  have missing := (fails _ _).1.mp gone
  exact ⟨by decide +kernel, by decide +kernel, by decide +kernel, follows, stopped,
    (fails _ _).2 stopped, (fails _ _).2 missing⟩

end Snapshots

end HostMonitor
