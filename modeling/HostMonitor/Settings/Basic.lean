import HostMonitor.Binary64.Arithmetic
import HostMonitor.Cpu.List
import HostMonitor.Monitor.Settings
import HostMonitor.Placement.Config
import HostMonitor.Settings.LogLevel

/-!
# Settings

What an operator can set, where everything may be left out. `Settings.standard` is what holds when
no settings are given at all; a field that is left out of given settings falls back to its standard
value only when it is used.
-/

namespace HostMonitor

structure PlacementSettings where
  enabled : Option Bool
  promoteToSocket : Option Bool
  cpusetRoot : Option String
  cgroupRoot : Option String
  /-- The list of cpus that are never handed out. -/
  blacklist : Option String

structure Settings where
  intervalSeconds : Option Nat
  procRoot : Option String
  sysRoot : Option String
  logLevel : Option String
  /-- Patterns of the interfaces to watch. -/
  nicInterfaces : Option (List String)
  /-- The percentage of a link's speed that reservations may take. -/
  nicMaxPercent : Option Float
  thresholds : Thresholds Float
  placement : PlacementSettings

namespace PlacementSettings

def standard : PlacementSettings where
  enabled := some true
  promoteToSocket := some true
  cpusetRoot := none
  cgroupRoot := none
  blacklist := none

def config (s : PlacementSettings) (procRoot : Path) : Placement.Config where
  enabled := s.enabled.getD true
  promoteToSocket := s.promoteToSocket.getD true
  cpusetRoot := s.cpusetRoot.map Path.ofString
  cgroupRoot := s.cgroupRoot.map Path.ofString
  interruptsPath := procRoot.child "interrupts"

/-- The blacklisted cpus; none when the list is blank. -/
def blacklistedCpus (s : PlacementSettings) : Except CpuList.ParseError (List Nat) :=
  match s.blacklist with
  | none => .ok []
  | some list => if (Text.trim list.toList).isEmpty then .ok [] else CpuList.parse list []

end PlacementSettings

namespace Settings

def standardInterval : Nat := 1

def standardProcRoot : String := "/proc"

def standardSysRoot : String := "/sys"

def standardLogLevel : LogLevel := .info

def standardNicPercent : Float := 80

def standard : Settings where
  intervalSeconds := some standardInterval
  procRoot := some standardProcRoot
  sysRoot := some standardSysRoot
  logLevel := some standardLogLevel.name
  nicInterfaces := some []
  nicMaxPercent := some standardNicPercent
  thresholds := Thresholds.standard
  placement := PlacementSettings.standard

def interval (s : Settings) : Nat :=
  s.intervalSeconds.getD standardInterval

def procPath (s : Settings) : Path :=
  Path.ofString (s.procRoot.getD standardProcRoot)

def sysPath (s : Settings) : Path :=
  Path.ofString (s.sysRoot.getD standardSysRoot)

def nicPercent (s : Settings) : Float :=
  s.nicMaxPercent.getD standardNicPercent

def nicPatterns (s : Settings) : List String :=
  s.nicInterfaces.getD []

/-- The level in force; a name that is no level counts for nothing. -/
def level (s : Settings) : LogLevel :=
  (s.logLevel.bind LogLevel.ofName?).getD standardLogLevel

def placementConfig (s : Settings) : Placement.Config :=
  s.placement.config s.procPath

/-- What a monitor is made from, or the first interface pattern that is no pattern. -/
def monitorSettings (s : Settings) : Except String (MonitorSettings Float) := do
  let nicPatterns ← NamePattern.parseAll s.nicPatterns
  return {
    procRoot := s.procPath
    sysRoot := s.sysPath
    nicPatterns
    thresholds := s.thresholds
    maxNicPercent := s.nicPercent }

end Settings

end HostMonitor
