import HostMonitor.Counter
import HostMonitor.Scalar

/-!
# Thresholds

Each measured quantity is checked against a limit that the operator sets; a negative limit turns its
check off. A host is busy when one of its checks is.
-/

namespace HostMonitor

inductive Status where
  | ok
  | busy
  deriving DecidableEq, Repr

def Status.text : Status → String
  | .ok => "ok"
  | .busy => "busy"

/-- Which side of a limit is busy. -/
inductive Side where
  | below
  | above
  deriving DecidableEq, Repr

/-- The limits: the least idle cpu percentage, the least free memory in megabytes, the largest load
as a percentage of the number of cpus, and the largest throughput in megabytes per second. -/
structure Thresholds (α : Type) where
  cpuIdle : α
  memFree : α
  loadAvg : α
  nicUsage : α

structure Check (α : Type) where
  name : String
  value : α
  /-- The limit, unless the check is off. -/
  threshold : Option α
  status : Status

structure ThresholdReport (α : Type) where
  checks : List (Check α)
  overall : Status

/-- What one sample measured. -/
structure Measurements (α : Type) where
  idlePercent : α
  freeBytes : Counter
  load : α
  cpuCount : Nat
  /-- Devices and their throughput in megabytes per second. -/
  nics : List (String × α)

namespace Thresholds

variable {α : Type} [Scalar α]

def standard : Thresholds α where
  cpuIdle := Scalar.ofNat 10
  memFree := Scalar.ofNat 100
  loadAvg := Scalar.ofNat 80
  nicUsage := Scalar.ofNat 900

def isNegative (x : α) : Bool :=
  Scalar.lt x Scalar.zero

def exceeds (value threshold : α) : Side → Bool
  | .below => Scalar.lt value threshold
  | .above => Scalar.lt threshold value

def status (value threshold : α) (side : Side) : Status :=
  if !isNegative threshold && exceeds value threshold side then .busy else .ok

def check (name : String) (value threshold : α) (side : Side) : Check α where
  name := name
  value := value
  threshold := if Scalar.le Scalar.zero threshold then some threshold else none
  status := status value threshold side

def megabytes (bytes : Counter) : α :=
  Scalar.ofNat bytes.value / Scalar.ofNat 1000000

/-- The limit for a host with `cpuCount` cpus, which is taken to have at least one. -/
def loadLimit (t : Thresholds α) (cpuCount : Nat) : α :=
  if isNegative t.loadAvg then t.loadAvg
  else Scalar.ofNat (Nat.max cpuCount 1) * t.loadAvg / Scalar.ofNat 100

def hostChecks (t : Thresholds α) (m : Measurements α) : List (Check α) :=
  [check "cpu_idle" m.idlePercent t.cpuIdle .below,
    check "mem_free" (megabytes m.freeBytes) t.memFree .below,
    check "load_avg" m.load (t.loadLimit m.cpuCount) .above]

def nicCheck (t : Thresholds α) (device : String) (throughput : α) : Check α :=
  check ("nic_usage:" ++ device) throughput t.nicUsage .above

def worst (checks : List (Check α)) : Status :=
  if checks.any (·.status = .busy) then .busy else .ok

omit [Scalar α] in
theorem worst_eq_busy_iff {checks : List (Check α)} :
    worst checks = .busy ↔ ∃ c ∈ checks, c.status = .busy := by
  have any : (checks.any (·.status = .busy)) = true ↔ ∃ c ∈ checks, c.status = .busy := by simp
  rw [← any, worst]
  split <;> simp_all

def evaluate (t : Thresholds α) (m : Measurements α) : ThresholdReport α :=
  let checks := t.hostChecks m ++
    m.nics.map fun (device, throughput) => t.nicCheck device throughput
  ⟨checks, worst checks⟩

end Thresholds

end HostMonitor
