import HostMonitor.Counter
import HostMonitor.Nic.Flags
import HostMonitor.Nic.Ip

/-!
# Interface records

All that is known of one network interface: sixteen attributes that the kernel keeps in files of
their own, the flags, and at most one address of each family with what belongs to it.
-/

namespace HostMonitor.Nic

open Text

/-- The device and the VLAN in a name such as `eth0.100`, which the first point separates. -/
def splitInterface (interface : String) : String × String :=
  match cut '.' interface.toList with
  | some (device, vlan) => (String.ofList device, String.ofList vlan)
  | none => (interface, "")

structure V4Binding where
  address : Ip
  netmask : Option Ip
  broadcast : Option Ip
  deriving DecidableEq, Repr

structure V6Binding where
  address : Ip
  netmask : Option Ip
  scope : Nat
  deriving DecidableEq, Repr

structure Record where
  interface : String
  flags : UInt32 := 0
  v4 : Option V4Binding := none
  v6 : Option V6Binding := none
  macAddress : String := ""
  speed : Counter := Counter.zero
  mtu : Counter := Counter.zero
  state : String := ""
  txQueueLength : Counter := Counter.zero
  rxBytes : Counter := Counter.zero
  rxPackets : Counter := Counter.zero
  rxErrors : Counter := Counter.zero
  rxDropped : Counter := Counter.zero
  rxCompressed : Counter := Counter.zero
  rxCrcErrors : Counter := Counter.zero
  txBytes : Counter := Counter.zero
  txPackets : Counter := Counter.zero
  txErrors : Counter := Counter.zero
  txDropped : Counter := Counter.zero
  txCompressed : Counter := Counter.zero
  deriving DecidableEq, Repr, Inhabited

/-- An attribute that the kernel keeps in a file. -/
inductive Attribute where
  | rxBytes
  | rxPackets
  | rxErrors
  | rxDropped
  | rxCompressed
  | rxCrcErrors
  | txBytes
  | txPackets
  | txErrors
  | txDropped
  | txCompressed
  | txQueueLength
  | macAddress
  | speed
  | mtu
  | state
  deriving DecidableEq, Repr

namespace Attribute

def all : List Attribute :=
  [.rxBytes, .rxPackets, .rxErrors, .rxDropped, .rxCompressed, .rxCrcErrors, .txBytes, .txPackets,
    .txErrors, .txDropped, .txCompressed, .txQueueLength, .macAddress, .speed, .mtu, .state]

/-- The file of the attribute in the directory of the interface. -/
def file : Attribute → String
  | .rxBytes => "statistics/rx_bytes"
  | .rxPackets => "statistics/rx_packets"
  | .rxErrors => "statistics/rx_errors"
  | .rxDropped => "statistics/rx_dropped"
  | .rxCompressed => "statistics/rx_compressed"
  | .rxCrcErrors => "statistics/rx_crc_errors"
  | .txBytes => "statistics/tx_bytes"
  | .txPackets => "statistics/tx_packets"
  | .txErrors => "statistics/tx_errors"
  | .txDropped => "statistics/tx_dropped"
  | .txCompressed => "statistics/tx_compressed"
  | .txQueueLength => "tx_queue_len"
  | .macAddress => "address"
  | .speed => "speed"
  | .mtu => "mtu"
  | .state => "operstate"

end Attribute

/-- The number in a file; zero when the file cannot be read or holds no number. -/
def readCounter (content : Option String) : Counter :=
  (content.bind fun s => Counter.read? (trim s.toList)).getD Counter.zero

/-- The text in a file; empty when the file cannot be read. -/
def readText (content : Option String) : String :=
  (content.map fun s => String.ofList (trim s.toList)).getD ""

namespace Record

def device (r : Record) : String := (splitInterface r.interface).1

def vlan (r : Record) : String := (splitInterface r.interface).2

def isMulticast (r : Record) : Bool :=
  Flag.multicast.isSet r.flags

/-- Stores what was read for an attribute, whatever its value was. -/
def set (r : Record) (a : Attribute) (content : Option String) : Record :=
  match a with
  | .rxBytes => { r with rxBytes := readCounter content }
  | .rxPackets => { r with rxPackets := readCounter content }
  | .rxErrors => { r with rxErrors := readCounter content }
  | .rxDropped => { r with rxDropped := readCounter content }
  | .rxCompressed => { r with rxCompressed := readCounter content }
  | .rxCrcErrors => { r with rxCrcErrors := readCounter content }
  | .txBytes => { r with txBytes := readCounter content }
  | .txPackets => { r with txPackets := readCounter content }
  | .txErrors => { r with txErrors := readCounter content }
  | .txDropped => { r with txDropped := readCounter content }
  | .txCompressed => { r with txCompressed := readCounter content }
  | .txQueueLength => { r with txQueueLength := readCounter content }
  | .macAddress => { r with macAddress := readText content }
  | .speed => { r with speed := readCounter content }
  | .mtu => { r with mtu := readCounter content }
  | .state => { r with state := readText content }

/-- What stands for an address that is not known. -/
def unknownAddress : String := "INVALID"

def addressText (a : Option Ip) : String :=
  (a.map Ip.text).getD unknownAddress

def v4Address (r : Record) : String := addressText (r.v4.map (·.address))
def v4Netmask (r : Record) : String := addressText (r.v4.bind (·.netmask))
def v4Broadcast (r : Record) : String := addressText (r.v4.bind (·.broadcast))
def v6Address (r : Record) : String := addressText (r.v6.map (·.address))
def v6Netmask (r : Record) : String := addressText (r.v6.bind (·.netmask))
def v6Scope (r : Record) : Nat := (r.v6.map (·.scope)).getD 0

/-- The known addresses. -/
def addresses (r : Record) : List String :=
  (r.v4.map (·.address.text)).toList ++ (r.v6.map (·.address.text)).toList

end Record

end HostMonitor.Nic
