import HostMonitor.CommandLine.Host
import HostMonitor.CommandLine.Response
import HostMonitor.Cpu.State
import HostMonitor.Load.Sample
import HostMonitor.Memory.Counters
import HostMonitor.Nic.State
import HostMonitor.Settings.Validity

/-!
# Checking the system

Whether the kernel's files can be read and understood and the settings are valid. Something that
only limits what the program can do is shown and does not fail the check.
-/

namespace HostMonitor.CommandLine

/-- One line of a check, and whether the check can still succeed after it. -/
structure Finding where
  line : String
  passes : Bool
  deriving DecidableEq, Repr

namespace Finding

def good (text : String) : Finding := ⟨"   ✅ " ++ text, true⟩

def limited (text : String) : Finding := ⟨"   ⚠️  " ++ text, true⟩

def bad (text : String) : Finding := ⟨"   ❌ " ++ text, false⟩

/-- A heading after an empty line. -/
def heading (text : String) : List Finding := [⟨"", true⟩, ⟨text, true⟩]

def ofSample {α : Type} (describe : α → String) : Except SampleError α → Finding
  | .ok x => good (describe x)
  | .error e => bad e.message

end Finding

open Finding Text.Numeral

def checkStat (files : Files) (path : Path) : Finding :=
  let read := (CpuState.start path).update files
  ofSample (fun _ => "stat parsed: " ++ text read.state.stat.perCpu.size ++ " cpus, boot time " ++
    text read.state.stat.bootTime.value) read.result

def checkMemory (files : Files) (path : Path) : Finding :=
  ofSample (fun content => "meminfo parsed: " ++ text (Memory.parse content).size ++ " counters")
    (files.sample path)

def checkLoad (files : Files) (path : Path) : Finding :=
  ofSample (fun l : LoadAverage Float => "loadavg parsed: " ++ Binary64.fixed 2 l.one)
    (LoadAverage.sample files path)

def checkInterrupts (files : Files) (path : Path) : Finding :=
  if files.contains path then good (path.text ++ " present")
  else limited (path.text ++ " not found - NIC affinity unavailable")

def procFindings (files : Files) (root : Path) : List Finding :=
  heading ("📁 Checking " ++ root.text ++ " inputs...") ++
    [checkStat files (root.child "stat"), checkMemory files (root.child "meminfo"),
      checkLoad files (root.child "loadavg"), checkInterrupts files (root.child "interrupts")]

def checkInterfaces (files : Files) (root : Path) : Finding :=
  let names := Nic.discover files (root.child "class/net")
  if names.isEmpty then limited "No network interfaces with statistics found"
  else good ("Interfaces: " ++ ", ".intercalate names)

def checkSocket (t : Placement.Topology) (node : Nat) : Except Overflow Finding :=
  let title := "Socket " ++ text node ++ ": "
  match t.cpusOfNode node with
  | .ok cpus => (CpuList.format cpus).map fun list => good (title ++ "cpus " ++ list)
  | .error e => .ok (limited (title ++ e.message))

/-- Each node in turn, up to one whose cpus break the check off. -/
def checkNodes (t : Placement.Topology) : List Nat → List Finding × Option Overflow
  | [] => ([], none)
  | node :: rest =>
    match checkSocket t node with
    | .error e => ([], some e)
    | .ok finding =>
      let (more, overflow) := checkNodes t rest
      (finding :: more, overflow)

def checkSockets (t : Placement.Topology) : List Finding × Option Overflow :=
  if t.available then checkNodes t t.nodes
  else ([limited "No NUMA topology - socket, nic and cpu affinity are skipped"], none)

def checkPrivileges (isRoot : Bool) : Finding :=
  if isRoot then good "Running as root"
  else limited "Not running as root - binding other processes may fail"

def sysFindings (h : Host) (s : Settings) : List Finding × Option Overflow :=
  let (sockets, overflow) := checkSockets (h.topology s)
  (heading ("🖧  Checking " ++ s.sysPath.text ++ " inputs...") ++
    [checkInterfaces h.files s.sysPath] ++ sockets ++
    (if overflow.isSome then [] else [checkPrivileges h.isRoot]), overflow)

def settingsFindings (s : Settings) : List Finding :=
  heading "⚙️  Checking configuration..." ++
    [match s.fault? with
      | none => good "Configuration is valid"
      | some fault => bad ("Configuration invalid: " ++ fault.message)]

/-- What is found about the kernel's files, and what broke the check off. -/
def inputFindings (h : Host) (s : Settings) (procInputs sysInputs : Bool) :
    List Finding × Option Overflow :=
  let proc := if procInputs then procFindings h.files s.procPath else []
  let (sys, overflow) := if sysInputs then sysFindings h s else ([], none)
  (proc ++ sys, overflow)

def summaryFinding (passes : Bool) : Finding :=
  if passes then good "All checks passed - system is ready"
  else bad "Some checks failed - please review warnings"

def checkOutput (found : List Finding) : String :=
  Response.lines
    (["🔍 GPP Monitor - System Check", "============================="] ++ found.map (·.line))

def checkSystem (h : Host) (s : Settings) (procInputs sysInputs : Bool) : Response :=
  match inputFindings h s procInputs sysInputs with
  | (found, some e) => .brokenOff h.disk e (checkOutput found)
  | (found, none) =>
    let found := found ++ settingsFindings s
    let passes := found.all (·.passes)
    { code := if passes then 0 else 1
      output := checkOutput (found ++ heading "📋 Summary:" ++ [summaryFinding passes])
      disk := h.disk }

end HostMonitor.CommandLine
