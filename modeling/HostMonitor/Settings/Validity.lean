import HostMonitor.Binary64.Layout
import HostMonitor.Settings.Basic

/-!
# Valid settings

What can be wrong with settings that were read, and the wording of it. Faults are looked for in a
fixed order and the first one counts.
-/

namespace HostMonitor

inductive SettingsFault where
  | zeroInterval
  | unknownLevel (name : String)
  | invalidPattern (text : String)
  | idleTooLarge (percent : Float)
  | loadTooLarge (percent : Float)
  | nicPercentOutside (percent : Float)
  | invalidBlacklist (cause : CpuList.ParseError)

namespace SettingsFault

open Binary64 (Layout)

def percentText (field : String) (percent : Float) : String :=
  field ++ " is a percentage and must not exceed 100 (got " ++ Layout.plain.write percent ++ ")"

def message : SettingsFault → String
  | .zeroInterval => "interval_seconds must be greater than 0"
  | .unknownLevel name =>
    "Invalid log_level '" ++ name ++ "', expected off/error/warn/info/debug/trace"
  | .invalidPattern text => "Invalid nic_interfaces pattern '" ++ text ++ "': not a pattern"
  | .idleTooLarge percent => percentText "thresholds.cpu_idle" percent
  | .loadTooLarge percent => percentText "thresholds.load_avg" percent
  | .nicPercentOutside percent =>
    "nic_max_throughput_percent must be between 0 and 100 (got " ++
      Layout.plain.write percent ++ ")"
  | .invalidBlacklist cause => "Invalid affinity.blacklist: " ++ cause.message

end SettingsFault

namespace Settings

def intervalFault? (s : Settings) : Option SettingsFault :=
  if s.interval = 0 then some .zeroInterval else none

def levelFault? (s : Settings) : Option SettingsFault :=
  s.logLevel.bind fun name =>
    if (LogLevel.ofName? name).isNone then some (.unknownLevel name) else none

def patternFault? (s : Settings) : Option SettingsFault :=
  match NamePattern.parseAll s.nicPatterns with
  | .ok _ => none
  | .error text => some (.invalidPattern text)

def idleFault? (s : Settings) : Option SettingsFault :=
  if 100 < s.thresholds.cpuIdle then some (.idleTooLarge s.thresholds.cpuIdle) else none

def loadFault? (s : Settings) : Option SettingsFault :=
  if 100 < s.thresholds.loadAvg then some (.loadTooLarge s.thresholds.loadAvg) else none

/-- A percentage that is no number is outside every range. -/
def nicPercentFault? (s : Settings) : Option SettingsFault :=
  if 0 ≤ s.nicPercent && s.nicPercent ≤ 100 then none else some (.nicPercentOutside s.nicPercent)

def blacklistFault? (s : Settings) : Option SettingsFault :=
  match s.placement.blacklistedCpus with
  | .ok _ => none
  | .error cause => some (.invalidBlacklist cause)

/-- The first fault, if there is one. -/
def fault? (s : Settings) : Option SettingsFault :=
  [s.intervalFault?, s.levelFault?, s.patternFault?, s.idleFault?, s.loadFault?,
    s.nicPercentFault?, s.blacklistFault?].firstM id

end Settings

end HostMonitor
