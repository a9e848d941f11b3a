import HostMonitor.File.Access
import HostMonitor.Nic.Record

/-!
# The state of an interface

Every update reads all attributes anew. The addresses are asked for at each update until one of
either family is known, and never again after that.
-/

namespace HostMonitor.Nic

/-- One line of the host's list of interface addresses. -/
structure AddressEntry where
  name : String
  flags : UInt32
  address : Option Ip
  netmask : Option Ip
  broadcast : Option Ip
  scope : Nat
  deriving DecidableEq, Repr

/-- The host's list of interface addresses, or nothing when it could not be had. -/
abbrev Enumeration := Option (List AddressEntry)

structure State where
  /-- The directory of the interface. -/
  directory : Path
  record : Record
  /-- How often the addresses have been asked for. -/
  enumerations : Nat := 0
  deriving DecidableEq, Repr

def defaultRoot : Path := Path.ofString "/sys/class/net"

namespace Record

/-- Takes over what an entry says; of two entries of one family the later counts. -/
def learn (r : Record) (e : AddressEntry) : Record :=
  let r := { r with flags := e.flags }
  match e.address with
  | none => r
  | some (.v4 bits) => { r with v4 := some ⟨.v4 bits, e.netmask, e.broadcast⟩ }
  | some (.v6 bits) => { r with v6 := some ⟨.v6 bits, e.netmask, e.scope⟩ }

def learnAll (r : Record) (entries : List AddressEntry) : Record :=
  (entries.filter (·.name == r.interface)).foldl learn r

def hasAddress (r : Record) : Bool :=
  r.v4.isSome || r.v6.isSome

end Record

namespace State

def start (root : Path) (interface : String) : State where
  directory := root.child interface
  record := { interface }

def readAttributes (s : State) (files : Files) : Record :=
  Attribute.all.foldl (fun r a => r.set a (files.read? (s.directory.child a.file))) s.record

def update (s : State) (files : Files) (addresses : Enumeration) : State :=
  let record := s.readAttributes files
  if record.hasAddress then { s with record }
  else
    { s with
      record := record.learnAll (addresses.getD [])
      enumerations := s.enumerations + 1 }

end State

/-- The names below `root` whose directory counts received bytes, in ascending order. Each is a
text, and is taken as it stands. -/
def discover (files : Files) (root : Path) : List String :=
  let entries := (files.list root).toOption.getD []
  let watched := entries.filter fun p => files.contains (p.child Attribute.rxBytes.file)
  (watched.filterMap Path.fileName?).mergeSort fun a b => !(b < a)

end HostMonitor.Nic
