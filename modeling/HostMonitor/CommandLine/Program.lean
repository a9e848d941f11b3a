import HostMonitor.CommandLine.Help
import HostMonitor.CommandLine.InterruptReport
import HostMonitor.CommandLine.Placing
import HostMonitor.CommandLine.Sampling
import HostMonitor.CommandLine.SettingsCommands
import HostMonitor.CommandLine.SystemCheck

/-!
# The program

A run goes from arguments to a response, or to sampling, which needs to see the host again at every
cycle.
-/

namespace HostMonitor.CommandLine

inductive Progress where
  | done (r : Response)
  | sampling (s : Sampling)

/-- The exit code for arguments that are wrong. -/
def usageCode : Nat := 2

def refuse (disk : Disk) (r : RefusedArguments) : Response :=
  match r.reason with
  | .usage =>
    { code := usageCode
      errors := Response.lines ["error: invalid arguments, try '" ++ programName ++ " --help'"]
      disk }
  | .version => { output := Response.lines [versionText r.command], disk }
  | .help brief => { output := helpText r.command brief, disk }

def startSampling (h : Host) (s : Settings) (limit : Option Nat) (format : ReportFormat) :
    Progress :=
  match Sampling.start h s limit format with
  | .ok sampling => .sampling sampling
  | .error failure => .done (.failed h.disk failure "")

/-- A command under valid settings; without a command the host is sampled without end. -/
def runCommand (h : Host) (s : Settings) : Option Command → Progress
  | none => startSampling h s none .yaml
  | some (.sample cycles format) => startSampling h s (some cycles) format
  | some (.place request) => .done (place h s request)
  | some (.interrupts iface) => .done (reportInterrupts h s iface)
  | some (.check procInputs sysInputs) => .done (checkSystem h s procInputs sysInputs)
  | some .properties =>
    .done { output := Placement.Properties.definitions, disk := h.disk }
  | some (.writeSettings output format commented) =>
    .done (writeSettings h.disk output format commented)

def withSettings (h : Host) (a : Arguments) (use : Settings → Progress) : Progress :=
  match a.settings h.files with
  | .error e => .done (.failed h.disk ⟨e.diagnostic, []⟩ "")
  | .ok s => use s

def withValidSettings (h : Host) (a : Arguments) (use : Settings → Progress) : Progress :=
  withSettings h a fun s =>
    match s.fault? with
    | some fault => .done (refuseSettings h.disk fault)
    | none => use s

/-- Checking or showing the settings comes before any command, and a file of standard settings is
written without regard to the settings in force. -/
def carryOutArguments (h : Host) (a : Arguments) : Progress :=
  if a.checkSettings then withSettings h a fun s => .done (checkSettings h.disk s)
  else if a.showSettings then
    withSettings h a fun s => .done (showSettings h.disk s a.showFormat)
  else match a.command with
    | some (.writeSettings output format commented) =>
      .done (writeSettings h.disk output format commented)
    | command => withValidSettings h a fun s => runCommand h s command

def start (h : Host) (args : List String) : Progress :=
  match Arguments.parse args with
  | .error refused => .done (refuse h.disk refused)
  | .ok a => carryOutArguments h a

/-- A whole run on a host that is what `moments` says at each cycle. -/
def run (h : Host) (moments : Nat → Moment) (args : List String) : Response :=
  match start h args with
  | .done r => r
  | .sampling s => s.finish h.disk moments

end HostMonitor.CommandLine
