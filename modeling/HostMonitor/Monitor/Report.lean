import HostMonitor.Counter
import HostMonitor.Load.Average
import HostMonitor.Nic.Ledger
import HostMonitor.Threshold

/-!
# Reports

What one sampling cycle found out about the host.
-/

namespace HostMonitor

/-- Percentages of the elapsed cpu time. -/
structure CpuShares (α : Type) where
  user : α
  system : α
  idle : α

structure CpuReport (α : Type) where
  cpuCount : Nat
  shares : CpuShares α

structure SocketReport (α : Type) where
  socket : Nat
  cpus : List Nat
  shares : CpuShares α

/-- Bytes of memory. -/
structure MemoryReport where
  total : Counter
  free : Counter
  available : Counter
  swapFree : Counter
  virtualFree : Counter
  deriving DecidableEq, Repr

/-- An interface with the throughput and the reserved capacity of its device. -/
structure NicReport (α : Type) where
  record : Nic.Record
  /-- Megabytes per second. -/
  throughput : α
  /-- Megabits per second. -/
  allocated : α

structure DeviceReport (α : Type) where
  device : String
  vlans : String
  /-- Megabytes per second. -/
  throughput : α

structure Report (α : Type) where
  bootTime : Counter
  cpu : CpuReport α
  sockets : List (SocketReport α)
  memory : MemoryReport
  load : LoadAverage α
  nics : List (NicReport α)
  devices : List (DeviceReport α)
  reservations : List (Nic.Reservation α)
  thresholds : ThresholdReport α

end HostMonitor
