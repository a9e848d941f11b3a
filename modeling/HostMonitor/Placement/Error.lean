import HostMonitor.Cpu.List
import HostMonitor.File.Error

/-!
# Placement errors

Why a process could not be placed, and the wording of each cause.
-/

namespace HostMonitor.Placement

/-- The two kinds of control files. -/
inductive ControlGroup where
  | cpuset
  | cgroup
  deriving DecidableEq, Repr

/-- What a mask was applied for. -/
inductive Binding where
  | interfaceNodes (iface : String)
  | interfaceCpus (iface : String)
  | socket (nodes : String)
  | cpu (list : String)
  deriving DecidableEq, Repr

inductive Error where
  | unreadableNode (node : Nat) (cause : FileError)
  | invalidNode (node : Nat) (cause : CpuList.ParseError)
  | unknownNode (node : Nat)
  | noTopology (node : Nat)
  | noRoomInMask (cpu : Nat)
  | maskRefused (pid : Int) (cause : SystemError)
  | refused (reason : String)
  | invalidCpuQuery (list : String) (cause : CpuList.ParseError)
  | invalidSockets (nodes : String) (cause : CpuList.ParseError)
  | invalidCpus (list : String) (cause : CpuList.ParseError)
  | noInterrupts (iface : String)
  | noSocket (cpu : Nat) (iface : String)
  | allBlacklisted (binding : Binding)
  | bindingFailed (binding : Binding) (cause : Error)
  | controlFile (group : ControlGroup) (name : String) (cause : FileError)
  | noProperty
  | noDirective
  deriving DecidableEq, Repr

namespace Error

def blacklistedText : Binding → String
  | .interfaceNodes iface => "Binding to NIC, no cpus available all blacklisted : " ++ iface
  | .interfaceCpus iface => "Binding to NIC, no cpus available all blacklisted : " ++ iface
  | .socket nodes =>
    "Binding to PROCESSOR SOCKET, no cpus available all blacklisted, socket=" ++ nodes
  | .cpu list => "Binding to CPU, no cpus available all blacklisted, cpu=" ++ list

def bindingText : Binding → String
  | .interfaceNodes iface => "Binding to NIC with node affinity, nic=" ++ iface
  | .interfaceCpus iface => "Binding to NIC with cpu affinity, nic=" ++ iface
  | .socket nodes => "Binding to PROCESSOR SOCKET, socket=" ++ nodes
  | .cpu list => "Binding to CPU: " ++ list

def controlText (name : String) : ControlGroup → String
  | .cpuset => "CPUSET affinity failed, could not open cpuset : " ++ name
  | .cgroup => "CGROUP affinity failed, for cgroup: " ++ name

/-- The cause in words, without the general heading. -/
def explanation : Error → String
  | unreadableNode node cause =>
    "Unable to read cpu list for node " ++ Text.Numeral.text node ++ ": " ++ cause.message
  | invalidNode node cause =>
    "Invalid cpu list for node " ++ Text.Numeral.text node ++ ": " ++ cause.message
  | unknownNode node => "Unknown node " ++ Text.Numeral.text node
  | noTopology node =>
    "No NUMA topology available to resolve node " ++ Text.Numeral.text node
  | noRoomInMask cpu =>
    "CPU " ++ Text.Numeral.text cpu ++ " cannot be placed in a cpu mask: EINVAL: Invalid argument"
  | maskRefused pid cause =>
    "sched_setaffinity failed for pid " ++ Text.Numeral.signedText pid ++ ": " ++ cause.message
  | refused reason => reason
  | invalidCpuQuery list cause => "Unable to parse cpu list " ++ list ++ ": " ++ cause.message
  | invalidSockets nodes cause =>
    "Processor Socket affinity failed, unable to parse: " ++ nodes ++ " (" ++ cause.message ++ ")"
  | invalidCpus list cause =>
    "CPU affinity failed, unable to parse: " ++ list ++ " (" ++ cause.message ++ ")"
  | noInterrupts iface =>
    "Binding to NIC, unable to set directive, cannot determine socket or cpu list from " ++
      "interrupt mapping, directive: " ++ iface
  | noSocket cpu iface =>
    "Binding to NIC, unable to find socket for cpu " ++ Text.Numeral.text cpu ++
      " of interface " ++ iface
  | allBlacklisted binding => blacklistedText binding
  | bindingFailed binding cause => bindingText binding ++ ": " ++ cause.explanation
  | controlFile group name cause => controlText name group ++ ": " ++ cause.message
  | noProperty => "No Affinity property provided"
  | noDirective => "No recognized affinity directive in affinity property"

def message (e : Error) : String :=
  "Affinity failed: " ++ e.explanation

/-- The refusal of the operating system behind the error, if it is one. -/
def systemCause? : Error → Option String
  | unreadableNode _ cause => some cause.message
  | maskRefused _ cause => some cause.message
  | controlFile _ _ cause => some cause.message
  | _ => none

end Error

end HostMonitor.Placement
