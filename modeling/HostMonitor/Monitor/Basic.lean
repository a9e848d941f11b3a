import HostMonitor.Cpu.State
import HostMonitor.Cpu.Usage
import HostMonitor.Load.Sample
import HostMonitor.Memory.State
import HostMonitor.Monitor.Devices
import HostMonitor.Monitor.Report
import HostMonitor.Monitor.Settings
import HostMonitor.Placement.Topology

/-!
# The monitor

A monitor watches the sockets and interfaces that it finds when it is made. Each sample reads every
source once and answers with a report. A sample that fails keeps what it has read up to then, and
takes no measurement.
-/

namespace HostMonitor

/-- The usage of the cpus of one socket. -/
structure Socket where
  id : Nat
  cpus : List Nat
  usage : Usage
  deriving DecidableEq, Repr

structure Monitor (α : Type) where
  settings : MonitorSettings α
  cpu : CpuState
  usage : Usage
  sockets : List Socket
  memory : MemoryState
  nics : List Nic.State
  devices : List (Device α)
  ledger : Nic.Ledger α

namespace Socket

/-- The sockets of a host that have cpus. -/
def ofTopology (t : Placement.Topology) : List Socket :=
  if !t.available then []
  else t.nodes.filterMap fun node =>
    match t.cpusOfNode node with
    | .ok [] => none
    | .ok cpus => some ⟨node, cpus, { cpus := some cpus }⟩
    | .error _ => none

def observe (s : Socket) (stat : Stat) : Socket :=
  { s with usage := s.usage.observe stat }

end Socket

namespace Monitor

variable {α : Type} [Scalar α]

def netRoot (s : MonitorSettings α) : Path :=
  s.sysRoot.child "class/net"

/-- Fails only if the memory counters cannot be read. -/
def start (settings : MonitorSettings α) (files : Files) (topology : Placement.Topology) :
    Except SampleError (Monitor α) := do
  let memory ← MemoryState.start (settings.procRoot.child "meminfo") files
  let watched := (Nic.discover files (netRoot settings)).filter settings.watches
  return {
    settings
    cpu := CpuState.start (settings.procRoot.child "stat")
    usage := {}
    sockets := Socket.ofTopology topology
    memory
    nics := watched.map (Nic.State.start (netRoot settings))
    devices := Device.group watched
    ledger := Nic.Ledger.empty settings.maxNicPercent }

def interfaces (m : Monitor α) : List String :=
  m.nics.map (·.record.interface)

def deviceNames (m : Monitor α) : List String :=
  m.devices.map Device.name

/-- Megabytes per second as of the last sample; zero for a device that is not watched. -/
def throughputOf (m : Monitor α) (device : String) : α :=
  match m.devices.find? (·.name == device) with
  | some d => d.throughput.rate
  | none => Scalar.zero

def sourceOf (m : Monitor α) (d : Device α) : Nic.Record :=
  ((m.nics[d.source]?).map (·.record)).getD { interface := d.name }

/-- The addresses of the interfaces of a device. -/
def addressesOf (m : Monitor α) (device : String) : List String :=
  (m.nics.filter (·.record.device == device)).flatMap (·.record.addresses)

def capacityOf (m : Monitor α) (d : Device α) : Nic.Capacity α where
  device := d.name
  speed := (m.sourceOf d).speed.value
  multicast := (m.sourceOf d).isMulticast
  addresses := m.addressesOf d.name
  throughput := d.throughput.bitsPerSecond

/-- What every device offers as of the last sample. -/
def capacities (m : Monitor α) : List (Nic.Capacity α) :=
  m.devices.map m.capacityOf

/-- Grants the request if the ledger does, by what the devices offer as of the last sample. -/
def allocate (m : Monitor α) (r : Nic.Reservation α) :
    Performed Nic.ReservationError Bool (Monitor α) :=
  (m.ledger.allocate r m.capacities).within fun ledger => { m with ledger }

def release (m : Monitor α) (identifier : String) :
    Performed Nic.ReservationError Unit (Monitor α) :=
  (m.ledger.release identifier).within fun ledger => { m with ledger }

/-- Measures the usage of the cpus by the latest cpu times. -/
def observeCpus (m : Monitor α) : Monitor α :=
  { m with
    usage := m.usage.observe m.cpu.stat
    sockets := m.sockets.map (·.observe m.cpu.stat) }

/-- Reads every interface, then measures the devices at the time `now`. -/
def observeNics (m : Monitor α) (files : Files) (addresses : Nic.Enumeration) (now : Nat) :
    Monitor α :=
  let nics := m.nics.map fun s => s.update files addresses
  let m := { m with nics }
  let measure (d : Device α) : Device α :=
    ⟨d.source, d.throughput.observe (m.sourceOf d) now⟩
  { m with devices := m.devices.map measure }

def sharesOf (u : Usage) : CpuShares α where
  user := u.percent α .user
  system := u.percent α .system
  idle := u.percent α .idle

def bitsPerMegabit : α := Scalar.ofNat 1000000

def nicReport (m : Monitor α) (s : Nic.State) : NicReport α where
  record := s.record
  throughput := m.throughputOf s.record.device
  allocated := m.ledger.allocated s.record.device / bitsPerMegabit

def measurements (m : Monitor α) (load : LoadAverage α) : Measurements α where
  idlePercent := m.usage.percent α .idle
  freeBytes := m.memory.usable
  load := load.one
  cpuCount := m.cpu.stat.perCpu.size
  nics := m.devices.map fun d => (d.name, d.throughput.rate)

/-- What a monitor that has just been brought up to date reports. -/
def report (m : Monitor α) (load : LoadAverage α) : Report α where
  bootTime := m.cpu.stat.bootTime
  cpu := ⟨m.cpu.stat.perCpu.size, sharesOf m.usage⟩
  sockets := m.sockets.map fun s => ⟨s.id, s.cpus, sharesOf s.usage⟩
  memory := ⟨m.memory.total, m.memory.free, m.memory.available, m.memory.swapFree,
    m.memory.virtualFree⟩
  load := load
  nics := m.nics.map m.nicReport
  devices := m.devices.map fun d => ⟨d.name, d.throughput.vlansText, d.throughput.rate⟩
  reservations := m.ledger.reservations
  thresholds := m.settings.thresholds.evaluate (m.measurements load)

/-- Reads the load averages, then measures everything at the time `now`, in nanoseconds. An
attribute of an interface need not be readable. -/
def measure (m : Monitor α) (files : Files) (addresses : Nic.Enumeration) (now : Nat) :
    Performed SampleError (Report α) (Monitor α) :=
  match LoadAverage.sample files (m.settings.procRoot.child "loadavg") with
  | .error e => ⟨.error e, m⟩
  | .ok load =>
    let m := m.observeCpus.observeNics files addresses now
    ⟨.ok (m.report load), m⟩

/-- One sampling cycle. The cpu times, the memory counters and the load averages are read in this
order, and the first that cannot be read ends the cycle. -/
def sample (m : Monitor α) (files : Files) (addresses : Nic.Enumeration) (now : Nat) :
    Performed SampleError (Report α) (Monitor α) :=
  let cpu := m.cpu.update files
  let m := { m with cpu := cpu.state }
  match cpu.result with
  | .error e => ⟨.error e, m⟩
  | .ok () =>
    let memory := m.memory.update files
    let m := { m with memory := memory.state }
    match memory.result with
    | .error e => ⟨.error e, m⟩
    | .ok () => m.measure files addresses now

end Monitor

end HostMonitor
