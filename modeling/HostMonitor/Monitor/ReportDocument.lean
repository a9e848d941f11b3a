import HostMonitor.Cpu.List
import HostMonitor.Document.Basic
import HostMonitor.Monitor.Report

/-!
# Reports as documents

The fields of a report under the names by which they are published. The cpus of a socket are
published as a list in text form, which not every list has.
-/

namespace HostMonitor

open Document (named)

namespace Document

def ofCounter (c : Counter) : Document := .integer c.value

def ofNat (n : Nat) : Document := .integer n

end Document

/-- The fields that socket reports and the report on all cpus share. -/
def CpuShares.fields (s : CpuShares Float) : List (String × Document) :=
  [("user_percent", .float s.user), ("system_percent", .float s.system),
    ("idle_percent", .float s.idle)]

def CpuReport.document (r : CpuReport Float) : Document :=
  named (("ncpus", .ofNat r.cpuCount) :: r.shares.fields)

def SocketReport.document (r : SocketReport Float) : Except Overflow Document := do
  let cpus ← CpuList.format r.cpus
  return named (("socket", .ofNat r.socket) :: ("cpus", .text cpus) :: r.shares.fields)

def MemoryReport.document (r : MemoryReport) : Document :=
  named [("total", .ofCounter r.total), ("free", .ofCounter r.free),
    ("available", .ofCounter r.available), ("swap_free", .ofCounter r.swapFree),
    ("virtual_free", .ofCounter r.virtualFree)]

def LoadAverage.document (l : LoadAverage Float) : Document :=
  named [("one_min", .float l.one), ("five_min", .float l.five), ("fifteen_min", .float l.fifteen)]

def Nic.Record.fields (r : Nic.Record) : List (String × Document) :=
  [("interface", .text r.interface), ("device", .text r.device), ("vlan", .text r.vlan),
    ("flags", .ofNat r.flags.toNat), ("v4_address", .text r.v4Address),
    ("v4_netmask", .text r.v4Netmask), ("v4_broadcast", .text r.v4Broadcast),
    ("v6_address", .text r.v6Address), ("v6_netmask", .text r.v6Netmask),
    ("v6_scope_id", .ofNat r.v6Scope), ("mac_address", .text r.macAddress),
    ("speed_mbit_per_sec", .ofCounter r.speed), ("mtu", .ofCounter r.mtu), ("state", .text r.state),
    ("tx_queue_len", .ofCounter r.txQueueLength), ("rx_bytes", .ofCounter r.rxBytes),
    ("rx_packets", .ofCounter r.rxPackets), ("rx_errors", .ofCounter r.rxErrors),
    ("rx_dropped", .ofCounter r.rxDropped), ("rx_compressed", .ofCounter r.rxCompressed),
    ("rx_crc_errors", .ofCounter r.rxCrcErrors), ("tx_bytes", .ofCounter r.txBytes),
    ("tx_packets", .ofCounter r.txPackets), ("tx_errors", .ofCounter r.txErrors),
    ("tx_dropped", .ofCounter r.txDropped), ("tx_compressed", .ofCounter r.txCompressed)]

def NicReport.document (r : NicReport Float) : Document :=
  named (r.record.fields ++ [("throughput_mb_per_sec", .float r.throughput),
    ("rate_allocated_mbit_per_sec", .float r.allocated)])

def DeviceReport.document (r : DeviceReport Float) : Document :=
  named [("device", .text r.device), ("vlans", .text r.vlans),
    ("throughput_mb_per_sec", .float r.throughput)]

def Nic.Reservation.document (r : Nic.Reservation Float) : Document :=
  named [("identifier", .text r.identifier), ("data_rate", .float r.dataRate),
    ("data_size", .ofNat r.dataSize), ("multicast_support", .text r.multicast),
    ("ip_addressable", .text r.address), ("interface", .text r.interface)]

def Check.document (c : Check Float) : Document :=
  named [("name", .text c.name), ("value", .float c.value),
    ("threshold", .ofOption .float c.threshold), ("status", .text c.status.text)]

def ThresholdReport.document (r : ThresholdReport Float) : Document :=
  named [("checks", .list (r.checks.map Check.document)),
    ("overall_status", .text r.overall.text)]

/-- A report made at the given time. -/
def Report.document (r : Report Float) (time : String) : Except Overflow Document := do
  let sockets ← r.sockets.mapM SocketReport.document
  return named [("timestamp", .text time), ("os_start_time", .ofCounter r.bootTime),
    ("cpu", r.cpu.document), ("sockets", .list sockets),
    ("memory", r.memory.document), ("load_average", r.load.document),
    ("nics", .list (r.nics.map NicReport.document)),
    ("devices", .list (r.devices.map DeviceReport.document)),
    ("nic_allocation_status", .list (r.reservations.map Nic.Reservation.document)),
    ("thresholds", r.thresholds.document)]

end HostMonitor
