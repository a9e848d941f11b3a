import HostMonitor.Cpu.Stat
import HostMonitor.Scalar

/-!
# Cpu usage

How the time between the last two samples was spent, as percentages by category. Usage covers either
the aggregate of all cpus or the sum of chosen ones.
-/

namespace HostMonitor

/-- The chosen cpus, if only some are covered, and the last two samples. -/
structure Usage where
  cpus : Option (List Nat) := none
  previous : Option Jiffies := none
  current : Option Jiffies := none
  deriving DecidableEq, Repr

namespace Usage

/-- The number of cpus covered, unless it is all of them. -/
def cpuCount? (u : Usage) : Option Nat :=
  u.cpus.map List.length

def push (u : Usage) (sample : Jiffies) : Usage :=
  { u with previous := u.current, current := some sample }

/-- The jiffies of the covered cpus; a cpu that is not reported adds nothing. -/
def sampleOf (u : Usage) (s : Stat) : Jiffies :=
  match u.cpus with
  | none => s.jiffies
  | some cpus => Jiffies.sum (cpus.filterMap s.perCpu.get?)

def observe (u : Usage) (s : Stat) : Usage :=
  u.push (u.sampleOf s)

/-- The jiffies that passed between the last two samples. -/
def elapsed (u : Usage) : Counter :=
  match u.previous, u.current with
  | some previous, some current => Counter.since current.total previous.total
  | _, _ => Counter.zero

/-- The jiffies spent on `c` between the last two samples. -/
def spent (u : Usage) (c : Category) : Counter :=
  match u.previous, u.current with
  | some previous, some current => Counter.since (current.get c) (previous.get c)
  | _, _ => Counter.zero

/-- The share of `c` in the elapsed jiffies, and zero if none elapsed. -/
def percent (α : Type) [Scalar α] (u : Usage) (c : Category) : α :=
  if u.elapsed = Counter.zero then Scalar.zero
  else Scalar.ofNat (u.spent c).value / Scalar.ofNat u.elapsed.value * Scalar.ofNat 100

end Usage

end HostMonitor
