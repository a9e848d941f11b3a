import HostMonitor.CommandLine.Host
import HostMonitor.CommandLine.Response
import HostMonitor.Document.JsonText
import HostMonitor.Document.YamlText
import HostMonitor.Monitor.Basic
import HostMonitor.Monitor.ReportDocument

/-!
# Sampling

Sampling goes in cycles, each of which reads the host as it is at that moment and prints a report. A
cycle that fails prints nothing and is not repeated; sampling as a whole fails when every cycle did.
A report that cannot be published breaks sampling off.
-/

namespace HostMonitor.CommandLine

/-- The host at the time of one cycle. -/
structure Moment where
  files : Files
  addresses : Nic.Enumeration
  /-- Nanoseconds since some fixed time. -/
  now : Nat
  /-- The time as reports show it. -/
  time : String

structure Sampling where
  monitor : Monitor Float
  format : ReportFormat
  /-- Seconds between two cycles. -/
  interval : Nat
  /-- How many cycles there are to be; none for sampling without end. -/
  limit : Option Nat
  cycles : Nat := 0
  reports : Nat := 0

/-- The files without which there is no sampling. -/
def requiredInputs (s : Settings) : List Path :=
  ["stat", "meminfo", "loadavg"].map s.procPath.child

/-- The first required file that cannot be read. -/
def missingInput? (files : Files) : List Path → Option Failure
  | [] => none
  | path :: rest =>
    match files.read path with
    | .ok _ => missingInput? files rest
    | .error e => some ⟨"Required input missing: " ++ path.text ++ ": " ++ e.message, []⟩

def sampleCauses : SampleError → List String
  | .unreadable path cause => [(SampleError.unreadable path cause).message, cause.message]
  | e => [e.message]

def ReportFormat.write (format : ReportFormat) (d : Document) : String :=
  match format with
  | .yaml => Response.lines ["---", d.toYaml]
  | .json => Response.lines [d.toJson]

namespace Sampling

def start (h : Host) (s : Settings) (limit : Option Nat) (format : ReportFormat) :
    Except Failure Sampling := do
  if let some failure := missingInput? h.files (requiredInputs s) then throw failure
  let settings ← s.monitorSettings.mapError fun text =>
    ⟨"Invalid nic_interfaces pattern", [text]⟩
  let monitor ← (Monitor.start settings h.files (h.topology s)).mapError fun e =>
    ⟨"Failed to initialize system monitor", sampleCauses e⟩
  return { monitor, format, interval := s.interval, limit }

def isFinished (s : Sampling) : Bool :=
  s.limit.any (· ≤ s.cycles)

/-- One cycle: what it prints, and sampling after it. -/
def cycle (s : Sampling) (m : Moment) : Except Overflow (String × Sampling) :=
  let sampled := s.monitor.sample m.files m.addresses m.now
  let s := { s with monitor := sampled.state, cycles := s.cycles + 1 }
  match sampled.result with
  | .ok report => do
    let document ← report.document m.time
    return (s.format.write document, { s with reports := s.reports + 1 })
  | .error _ => .ok ("", s)

def failure? (s : Sampling) : Option Failure :=
  if s.limit.any (0 < ·) && s.reports = 0 then
    some ⟨"All " ++ Text.Numeral.text (s.limit.getD 0) ++ " sampling cycles failed", []⟩
  else none

/-- The next `n` cycles, the host being what `moments` says at each: what they print, and sampling
after them unless one broke it off. -/
def run (moments : Nat → Moment) : Nat → Sampling → String × Except Overflow Sampling
  | 0, s => ("", .ok s)
  | n + 1, s =>
    match s.cycle (moments s.cycles) with
    | .error e => ("", .error e)
    | .ok (printed, s) =>
      let (more, s) := run moments n s
      (printed ++ more, s)

def response (s : Sampling) (disk : Disk) (output : String) : Response :=
  match s.failure? with
  | none => { output, disk }
  | some failure => .failed disk failure output

/-- All cycles of sampling that has an end. -/
def finish (s : Sampling) (disk : Disk) (moments : Nat → Moment) : Response :=
  match run moments (s.limit.getD 0 - s.cycles) s with
  | (output, .ok s) => s.response disk output
  | (output, .error e) => .brokenOff disk e output

end Sampling

end HostMonitor.CommandLine
