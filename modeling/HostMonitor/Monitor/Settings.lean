import HostMonitor.Path
import HostMonitor.Pattern.Parser
import HostMonitor.Threshold

/-!
# What a monitor watches

Where the kernel's files are, which interfaces are watched, and the limits.
-/

namespace HostMonitor

/-- A pattern of interface names, with the text that it was read from. -/
structure NamePattern where
  text : String
  pattern : Pattern

namespace NamePattern

def parse? (text : String) : Option NamePattern :=
  (Pattern.parse? text).map (NamePattern.mk text)

/-- The patterns of all texts, or else the first text that is no pattern. -/
def parseAll : List String → Except String (List NamePattern)
  | [] => .ok []
  | text :: rest =>
    match parse? text with
    | none => .error text
    | some p => (parseAll rest).map (p :: ·)

def occursIn (p : NamePattern) (name : String) : Bool :=
  p.pattern.occursIn name

end NamePattern

structure MonitorSettings (α : Type) where
  procRoot : Path
  sysRoot : Path
  /-- Interfaces to watch; with none, every interface but the loopback is watched. -/
  nicPatterns : List NamePattern
  thresholds : Thresholds α
  /-- The percentage of a link's speed that reservations may take. -/
  maxNicPercent : α

namespace MonitorSettings

variable {α : Type}

def loopback : String := "lo"

def watches (s : MonitorSettings α) (interface : String) : Bool :=
  if s.nicPatterns.isEmpty then interface != loopback
  else s.nicPatterns.any (·.occursIn interface)

end MonitorSettings

end HostMonitor
