import HostMonitor.CommandLine.Arguments
import HostMonitor.Placement.Resolver

/-!
# The host of a run

What a run finds around it, and the settings that are in force there.
-/

namespace HostMonitor.CommandLine

structure Host where
  disk : Disk
  environment : Environment
  ownPid : Int
  kernel : Placement.Topology.Kernel
  isRoot : Bool

namespace Overrides

def apply (o : Overrides) (s : Settings) : Settings :=
  { s with
    intervalSeconds := o.interval.or s.intervalSeconds
    procRoot := o.procRoot.or s.procRoot
    sysRoot := o.sysRoot.or s.sysRoot
    logLevel := (o.logLevel.map LogLevel.name).or s.logLevel
    placement :=
      if o.disablePlacement then { s.placement with enabled := some false } else s.placement }

end Overrides

namespace Arguments

/-- The settings that the arguments name, under those that the arguments make. -/
def settings (a : Arguments) (files : Files) : Except LoadError Settings := do
  let s ← if a.withoutFile then .ok Settings.standard else Settings.load files a.settingsPath
  return a.overrides.apply s

end Arguments

namespace Host

def files (h : Host) : Files := h.disk.files

def topology (h : Host) (s : Settings) : Placement.Topology :=
  .ofFiles h.files (.under s.sysPath) h.kernel

def resolver (h : Host) (s : Settings) : Placement.Resolver where
  config := s.placementConfig
  environment := h.environment
  files := h.files
  topology := h.topology s
  ownPid := h.ownPid

end Host

end HostMonitor.CommandLine
