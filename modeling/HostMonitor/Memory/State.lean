import HostMonitor.Memory.Counters
import HostMonitor.Performed
import HostMonitor.SampleError

/-!
# The latest memory counters

The memory counters that were read last. A state is only made for a file that can be read.
-/

namespace HostMonitor

structure MemoryState where
  path : Path
  counters : Assoc String Counter
  deriving DecidableEq, Repr

namespace MemoryState

def defaultPath : Path := Path.ofString "/proc/meminfo"

/-- Fails unless the file can be read now; its content does not matter yet. -/
def start (path : Path) (files : Files) : Except SampleError MemoryState := do
  let _ ← files.sample path
  return ⟨path, Assoc.empty⟩

def update (s : MemoryState) (files : Files) : Performed SampleError Unit MemoryState :=
  match files.sample s.path with
  | .error e => ⟨.error e, s⟩
  | .ok content => ⟨.ok (), { s with counters := Memory.parse content }⟩

/-- Zero for a name that the kernel did not report. -/
def get (s : MemoryState) (name : String) : Counter :=
  (s.counters.get? name).getD Counter.zero

def total (s : MemoryState) : Counter := s.get "MemTotal"
def free (s : MemoryState) : Counter := s.get "MemFree"
def available (s : MemoryState) : Counter := s.get "MemAvailable"
def swapFree (s : MemoryState) : Counter := s.get "SwapFree"

/-- Free memory and free swap space together. -/
def virtualFree (s : MemoryState) : Counter :=
  s.free.add s.swapFree

/-- What new work can use: what the kernel calls available, or else what is free. -/
def usable (s : MemoryState) : Counter :=
  if 0 < s.available.value then s.available else s.free

end MemoryState

end HostMonitor
