import HostMonitor.Text.Lines

/-!
# Log levels

How much of what happens is logged, from nothing to everything.
-/

namespace HostMonitor

inductive LogLevel where
  | off
  | error
  | warn
  | info
  | debug
  | trace
  deriving DecidableEq, Repr

namespace LogLevel

def all : List LogLevel := [.off, .error, .warn, .info, .debug, .trace]

def name : LogLevel → String
  | .off => "off"
  | .error => "error"
  | .warn => "warn"
  | .info => "info"
  | .debug => "debug"
  | .trace => "trace"

/-- The level of that name, in any case. -/
def ofName? (text : String) : Option LogLevel :=
  all.find? fun level => level.name.toList = Text.asciiLower text.toList

end LogLevel

end HostMonitor
