import HostMonitor.SampleError

/-!
# Sampling the load averages
-/

namespace HostMonitor.LoadAverage

variable {α : Type} [Scalar α]

def defaultPath : Path := Path.ofString "/proc/loadavg"

def sample (files : Files) (path : Path) : Except SampleError (LoadAverage α) := do
  let content ← files.sample path
  (parse content).mapError (.malformedLoad path)

end HostMonitor.LoadAverage
