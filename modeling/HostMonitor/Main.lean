import HostMonitor.Calendar
import HostMonitor.CommandLine.Inputs
import HostMonitor.CommandLine.Program
import Std.Time.DateTime.Timestamp

/-!
# The executable

Reads what a run looks at, carries the run out on that, and prints and writes what comes of it. A
cpu mask cannot be set from here, since the runtime offers no such call.
-/

namespace HostMonitor.Live

open CommandLine

/-- Stands for the working directory on the disk that is read beforehand. -/
def workingDirectory : List String := ["."]

def placeOf (path : Path) : List String :=
  (if path.isAbsolute then [] else workingDirectory) ++
    path.pieces.filter fun piece => piece != "" && piece != "."

def addIfThere (disk : Disk) (path : Path) : IO Disk := do
  try
    let bytes ← IO.FS.readBinFile path.text
    return disk.addFile (placeOf path) (String.fromUTF8? bytes)
  catch _ => return disk

def readDisk (paths : List Path) : IO Disk :=
  paths.foldlM addIfThere (Disk.empty workingDirectory)

def readText (name : String) : IO String := do
  let disk ← readDisk [Path.ofString name]
  return (disk.files.read? (Path.ofString name)).getD ""

def wordOf (text : String) (n : Nat) : List Char :=
  ((Text.words text.toList)[n]?).getD []

def ownPid : IO Int := do
  let stat ← readText "/proc/self/stat"
  return ((Text.Numeral.word? (wordOf stat 0)).getD 0 : Nat)

/-- Whether the effective user is the first one. -/
def isRoot : IO Bool := do
  let status ← readText "/proc/self/status"
  let line := (Text.lines status.toList).find? (Text.startsWith "Uid:".toList)
  return wordOf (String.ofList (line.getD [])) 2 == ['0']

def environment : IO Environment := do
  let names := [Placement.Config.disableVariable, Placement.Config.cpusetVariable,
    Placement.Config.cgroupVariable]
  let values ← names.mapM fun name => do return (name, ← IO.getEnv name)
  return values.filterMap fun (name, value) => value.map fun value => (name, value)

/-- Masks of processes that are there cannot be set. -/
def refuseMask (running : Bool) : Placement.Topology.Kernel := fun _ _ =>
  some (if running then .other 38 "Unsupported" "Function not implemented" else .noProcess)

def targetOf (own : Int) : Option Command → Int
  | some (.place request) => request.pid.getD own
  | _ => own

def readHost (a : Arguments) (s : Settings) : IO Host := do
  let own ← ownPid
  let env ← environment
  let root ← isRoot
  let target ← readText ("/proc/" ++ Text.Numeral.signedText (targetOf own a.command) ++ "/stat")
  let interfaces := interfacesOf (← readText "/proc/net/dev")
  let first := settingsInputs a ++ procInputs s ++ possibleInputs s ++ nicInputs s interfaces
  let known ← readDisk first
  let host : Host := {
    disk := known, environment := env, ownPid := own
    kernel := refuseMask (target != ""), isRoot := root }
  let rest := nodeInputs s known.files ++ controlInputs (host.resolver s) a.command
  return { host with disk := ← rest.foldlM addIfThere known }

def finish (r : Response) : IO UInt32 := do
  IO.print r.output
  IO.eprint r.errors
  for (path, content) in r.written do
    IO.FS.writeFile path.text content
  return UInt32.ofNat r.code

def now : IO Nat := do
  return (← Std.Time.Timestamp.now).toNanosecondsSinceUnixEpoch.val.toNat

/-- The addresses of interfaces are not to be had here. -/
def readMoment (host : Host) : IO Moment := do
  return ⟨host.files, none, ← IO.monoNanosNow, Calendar.timeText (← now)⟩

partial def sampleOn (look : IO Host) (s : Sampling) : IO UInt32 := do
  if s.isFinished then
    return ← finish (s.response (Disk.empty workingDirectory) "")
  if 0 < s.cycles then IO.sleep (UInt32.ofNat (1000 * s.interval))
  match s.cycle (← readMoment (← look)) with
  | .error e => finish (.brokenOff (Disk.empty workingDirectory) e "")
  | .ok (printed, s) =>
    IO.print printed
    (← IO.getStdout).flush
    sampleOn look s

def run (args : List String) : IO UInt32 := do
  match Arguments.parse args with
  | .error refused => finish (refuse (Disk.empty workingDirectory) refused)
  | .ok a =>
    let disk ← readDisk (settingsInputs a)
    let s := ((a.settings disk.files).toOption).getD Settings.standard
    match carryOutArguments (← readHost a s) a with
    | .done r => finish r
    | .sampling sampling => sampleOn (readHost a s) sampling

end HostMonitor.Live

def main (args : List String) : IO UInt32 :=
  HostMonitor.Live.run args
