import HostMonitor.Cpu.Stat
import HostMonitor.File.Access
import HostMonitor.Load.Average

/-!
# Sampling errors

Why a kernel file gave no sample: it could not be read, or its content is malformed.
-/

namespace HostMonitor

inductive SampleError where
  | unreadable (path : Path) (cause : FileError)
  | malformedStat (path : Path) (cause : StatError)
  | malformedLoad (path : Path) (cause : LoadAverage.Error)
  deriving DecidableEq, Repr

namespace SampleError

def malformedText (path : Path) (cause : String) : String :=
  "Failed to parse " ++ path.text ++ ": " ++ cause

def message : SampleError → String
  | .unreadable path cause => "Failed to read " ++ path.text ++ ": " ++ cause.message
  | .malformedStat path cause => malformedText path cause.message
  | .malformedLoad path cause => malformedText path cause.message

end SampleError

def Files.sample (f : Files) (path : Path) : Except SampleError String :=
  (f.read path).mapError (.unreadable path)

end HostMonitor
