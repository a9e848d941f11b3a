import HostMonitor.Placement.Property
import HostMonitor.Cpu.Interrupts

/-!
# Placement settings

Whether placement is on, where its control files are, and the hook that may take a request over.
Some settings can also be made by environment variables.
-/

namespace HostMonitor

/-- The environment variables of a process. -/
abbrev Environment := List (String × String)

def Environment.get? (env : Environment) (name : String) : Option String :=
  (env.find? (·.1 == name)).map (·.2)

namespace Placement

/-- Takes over whole requests: directives, process and blacklist. -/
abbrev Hook := List Directive → Int → List Nat → Except Error Unit

structure Config where
  enabled : Bool := true
  promoteToSocket : Bool := true
  cpusetRoot : Option Path := none
  cgroupRoot : Option Path := none
  interruptsPath : Path := Interrupts.defaultPath
  hook : Option Hook := none

namespace Config

def disableVariable : String := "REDHAWK_DISABLE_AFFINITY"
def cpusetVariable : String := "REDHAWK_CPUSET_ROOT"
def cgroupVariable : String := "REDHAWK_CGROUP_ROOT"

/-- The variable turns placement off whatever its value is. -/
def isDisabled (c : Config) (env : Environment) : Bool :=
  !c.enabled || (env.get? disableVariable).isSome

/-- The configured root, else the one of the environment, else the standard one. -/
def root (configured : Option Path) (env : Environment) (name standard : String) : Path :=
  configured.getD (Path.ofString ((env.get? name).getD standard))

def controlRoot (c : Config) (env : Environment) : ControlGroup → Path
  | .cpuset => root c.cpusetRoot env cpusetVariable "/dev/cpuset"
  | .cgroup => root c.cgroupRoot env cgroupVariable "/cgroup"

def boolText (b : Bool) : String :=
  if b then "true" else "false"

def optionText : Option Path → String
  | none => "None"
  | some p => "Some(" ++ Text.quoted p.text ++ ")"

/-- All settings on one line, for diagnostics. -/
def summary (c : Config) : String :=
  "AffinityConfig \x7b enabled: " ++ boolText c.enabled ++
    ", promote_nic_to_socket: " ++ boolText c.promoteToSocket ++
    ", cpuset_root: " ++ optionText c.cpusetRoot ++
    ", cgroup_root: " ++ optionText c.cgroupRoot ++
    ", interrupts_path: " ++ Text.quoted c.interruptsPath.text ++
    ", override_fn: " ++ boolText c.hook.isSome ++ " \x7d"

end Config

end Placement

end HostMonitor
