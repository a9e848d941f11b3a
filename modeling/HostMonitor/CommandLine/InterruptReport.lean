import HostMonitor.CommandLine.Host
import HostMonitor.CommandLine.Response

/-!
# Who serves an interface

The cpus that serve an interface's interrupts, and the socket of the first of them.
-/

namespace HostMonitor.CommandLine

def socketText : Option Nat → String
  | some socket => Text.Numeral.text socket
  | none => "unknown"

def reportInterrupts (h : Host) (s : Settings) (iface : String) : Response :=
  let r := h.resolver s
  let cpus := r.interruptCpus iface
  if cpus.isEmpty then
    { output := Response.lines ["⚠️  No interrupt activity found for " ++ iface], disk := h.disk }
  else
    let title := "🖧  " ++ iface
    match CpuList.format cpus with
    | .error e => .brokenOff h.disk e (Response.lines [title])
    | .ok text =>
      { output := Response.lines [title, "   ├─ cpus: " ++ text,
          "   └─ socket: " ++ socketText (r.findSocket iface true [])]
        disk := h.disk }

end HostMonitor.CommandLine
