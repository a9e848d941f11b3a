import HostMonitor.Nic.State
import HostMonitor.Nic.Throughput

/-!
# Devices of interfaces

The interfaces of one device share its throughput. It is measured on the interface that is the
device itself, or on the first of its VLANs when the device itself is not watched.
-/

namespace HostMonitor

/-- The throughput of a device, measured on the interface at the position `source`. -/
structure Device (α : Type) where
  source : Nat
  throughput : Nic.Throughput α

namespace Device

variable {α : Type} [Scalar α]

def name (d : Device α) : String := d.throughput.device

/-- Takes one more interface of the device into account. -/
def extend (d : Device α) (position : Nat) (interface : String) : Device α where
  source := if interface = d.name then position else d.source
  throughput := d.throughput.addVlan (Nic.splitInterface interface).2

def start (position : Nat) (interface : String) : Device α where
  source := position
  throughput :=
    (Nic.Throughput.start (Nic.splitInterface interface).1).addVlan (Nic.splitInterface interface).2

/-- Adds the interface at `position` to its device, or a new device at the end. -/
def place (position : Nat) (interface : String) : List (Device α) → List (Device α)
  | [] => [start position interface]
  | d :: ds =>
    if d.name = (Nic.splitInterface interface).1 then d.extend position interface :: ds
    else d :: place position interface ds

/-- The devices of the interfaces from `position` on, given those of the interfaces before. -/
def groupFrom (ds : List (Device α)) (position : Nat) : List String → List (Device α)
  | [] => ds
  | interface :: rest => groupFrom (place position interface ds) (position + 1) rest

/-- The devices in the order in which they first appear. -/
def group (interfaces : List String) : List (Device α) :=
  groupFrom [] 0 interfaces

end Device

end HostMonitor
