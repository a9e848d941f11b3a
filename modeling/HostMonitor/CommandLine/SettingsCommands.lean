import HostMonitor.CommandLine.Host
import HostMonitor.CommandLine.Response
import HostMonitor.Settings.Validity

/-!
# Commands on settings

Showing the settings in force, checking them, and writing a file of standard settings to start from.
-/

namespace HostMonitor.CommandLine

/-- Settings that are not valid end every command that needs them. -/
def refuseSettings (disk : Disk) (fault : SettingsFault) : Response where
  code := 1
  errors := Response.lines ["❌ Configuration invalid: " ++ fault.message]
  disk := disk

def checkSettings (disk : Disk) (s : Settings) : Response :=
  match s.fault? with
  | some fault => refuseSettings disk fault
  | none => { output := Response.lines ["✅ Configuration is valid"], disk }

def showSettings (disk : Disk) (s : Settings) (format : FileFormat) : Response where
  output := Response.lines [s.render format]
  disk := disk

/-- What a commented file says before the settings. -/
def settingsComments : String := "# GPP Monitor Configuration
# ==========================
#
# Sampling
# --------
# interval_seconds: 1          # Seconds between sampling cycles
# proc_root: \"/proc\"           # Root of the proc filesystem
# sys_root: \"/sys\"             # Root of the sys filesystem
# nic_interfaces: []           # Interface regexes (empty = all but lo)
# nic_max_throughput_percent: 80  # Share of link speed NIC allocations may reserve
#
# Logging
# -------
# log_level: \"info\"            # off, error, warn, info, debug, trace
#
# Thresholds (negative value disables a monitor)
# ----------------------------------------------
# thresholds:
#   cpu_idle: 10.0             # Busy below this idle percent
#   mem_free_mb: 100.0         # Busy below this much free memory
#   load_avg: 80.0             # Busy above this percent of cpu count
#   nic_usage: 900.0           # Busy above this many MB/s per interface
#
# Affinity
# --------
# affinity:
#   enabled: true              # REDHAWK_DISABLE_AFFINITY also disables
#   promote_nic_to_socket: true  # Widen single-cpu NIC binding to its socket
#   cpuset_root: null          # Default REDHAWK_CPUSET_ROOT or /dev/cpuset
#   cgroup_root: null          # Default REDHAWK_CGROUP_ROOT or /cgroup
#   blacklist: null            # CPUs never handed out, e.g. \"0-1\"
"

/-- Only YAML is commented. -/
def standardFile (format : FileFormat) (commented : Bool) : String :=
  let content := Settings.standard.render format
  if commented && format = .yaml then settingsComments ++ "\n" ++ content else content

def usualOutput : String := "gpp-monitor.yaml"

/-- The name that stands for the standard output. -/
def standardOutput : String := "-"

def writeSettings (disk : Disk) (output : Option String) (format : FileFormat)
    (commented : Bool) : Response :=
  let name := output.getD usualOutput
  let content := standardFile format commented
  if name = standardOutput then { output := content, disk }
  else
    let written := disk.write (Path.ofString name) content
    match written.result with
    | .error e => .failed written.state ⟨e.diagnostic, []⟩ ""
    | .ok () =>
      { output := Response.lines ["✅ Configuration written to: " ++ name]
        disk := written.state
        written := [(Path.ofString name, content)] }

end HostMonitor.CommandLine
