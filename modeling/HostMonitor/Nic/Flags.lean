/-!
# Interface flags

The kernel describes what an interface is and does by single bits of a word.
-/

namespace HostMonitor.Nic

inductive Flag where
  | up
  | broadcast
  | debug
  | loopback
  | pointToPoint
  | running
  | noArp
  | promiscuous
  | noTrailers
  | allMulticast
  | master
  | slave
  | multicast
  | portSelect
  | autoMedia
  | dynamic
  deriving DecidableEq, Repr

namespace Flag

/-- In the order in which they are shown. -/
def all : List Flag :=
  [.up, .broadcast, .debug, .loopback, .pointToPoint, .running, .noArp, .promiscuous, .noTrailers,
    .allMulticast, .master, .slave, .multicast, .portSelect, .autoMedia, .dynamic]

def bit : Flag → UInt32
  | .up => 0x1
  | .broadcast => 0x2
  | .debug => 0x4
  | .loopback => 0x8
  | .pointToPoint => 0x10
  | .noTrailers => 0x20
  | .running => 0x40
  | .noArp => 0x80
  | .promiscuous => 0x100
  | .allMulticast => 0x200
  | .master => 0x400
  | .slave => 0x800
  | .multicast => 0x1000
  | .portSelect => 0x2000
  | .autoMedia => 0x4000
  | .dynamic => 0x8000

def name : Flag → String
  | .up => "UP"
  | .broadcast => "BROADCAST"
  | .debug => "DEBUG"
  | .loopback => "LOOPBACK"
  | .pointToPoint => "POINTOPOINT"
  | .running => "RUNNING"
  | .noArp => "NOARP"
  | .promiscuous => "PROMISC"
  | .noTrailers => "NOTRAILERS"
  | .allMulticast => "ALLMULTI"
  | .master => "MASTER"
  | .slave => "SLAVE"
  | .multicast => "MULTICAST"
  | .portSelect => "PORTSEL"
  | .autoMedia => "AUTOMEDIA"
  | .dynamic => "DYNAMIC"

def isSet (flags : UInt32) (f : Flag) : Bool :=
  flags &&& f.bit != 0

end Flag

/-- The names of the flags that are set. -/
def flagsText (flags : UInt32) : String :=
  " ".intercalate ((Flag.all.filter (Flag.isSet flags)).map Flag.name)

end HostMonitor.Nic
