import HostMonitor.Performed
import HostMonitor.SampleError

/-!
# The latest cpu times

The last report of cpu times that was read without fault. An update that fails changes nothing.
-/

namespace HostMonitor

structure CpuState where
  path : Path
  stat : Stat
  deriving DecidableEq, Repr

namespace CpuState

def defaultPath : Path := Path.ofString "/proc/stat"

/-- Nothing has been read yet. -/
def start (path : Path) : CpuState := ⟨path, Stat.empty⟩

/-- Reads the file anew. The report takes the place of an empty one, and is kept if it is
complete. -/
def update (s : CpuState) (files : Files) : Performed SampleError Unit CpuState :=
  match files.sample s.path with
  | .error e => ⟨.error e, s⟩
  | .ok content =>
    match Stat.parse .empty content with
    | .error e => ⟨.error (.malformedStat s.path e), s⟩
    | .ok stat => ⟨.ok (), { s with stat }⟩

end CpuState

end HostMonitor
