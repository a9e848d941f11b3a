import HostMonitor.Nic.Record
import HostMonitor.Scalar

/-!
# Capacity reservations

A request names itself, says how much it needs and what the device must offer. A granted request is
kept with the device that serves it as its interface.
-/

namespace HostMonitor.Nic

structure Reservation (α : Type) where
  identifier : String
  /-- Elements per second. -/
  dataRate : α
  /-- Bytes per element. -/
  dataSize : Nat
  /-- `true` in any case asks for a multicast device, `false` or nothing takes any. -/
  multicast : String
  /-- An address that the device must carry; with none, any device will do. -/
  address : String
  /-- The interface asked for, or the device that was granted. -/
  interface : String

/-- What a device offers at the time of a request. -/
structure Capacity (α : Type) where
  device : String
  /-- Megabits per second. -/
  speed : Nat
  multicast : Bool
  addresses : List String
  /-- The measured throughput in bits per second. -/
  throughput : α

inductive ReservationError where
  | emptyIdentifier (identifier : String)
  | invalidRate (identifier : String)
  | invalidMulticast (identifier value : String)
  | duplicate (identifier : String)
  | unknown (identifier : String)
  deriving DecidableEq, Repr

namespace ReservationError

def invalidText (identifier reason : String) : String :=
  "Invalid NIC allocation " ++ identifier ++ ": " ++ reason

def message : ReservationError → String
  | .emptyIdentifier id => invalidText id "identifier must not be empty"
  | .invalidRate id => invalidText id "data_rate must be a non-negative number"
  | .invalidMulticast id value =>
    invalidText id ("multicast_support must be True or False, got '" ++ value ++ "'")
  | .duplicate id => "NIC allocation " ++ id ++ " already exists"
  | .unknown id => "No NIC allocation with identifier " ++ id

end ReservationError

namespace Reservation

open Text

variable {α : Type} [Scalar α]

/-- Bits per second. -/
def required (r : Reservation α) : α :=
  r.dataRate * Scalar.ofNat r.dataSize * Scalar.ofNat 8

def needsMulticast (r : Reservation α) : Except ReservationError Bool :=
  let value := asciiLower (trim r.multicast.toList)
  if value.isEmpty || value = "false".toList then .ok false
  else if value = "true".toList then .ok true
  else .error (.invalidMulticast r.identifier (String.ofList value))

def isRate (x : α) : Bool :=
  Scalar.isFinite x && !Scalar.lt x Scalar.zero

/-- Whether a well-formed request needs a multicast device. -/
def validate (r : Reservation α) : Except ReservationError Bool :=
  if (trim r.identifier.toList).isEmpty then .error (.emptyIdentifier r.identifier)
  else if !isRate r.dataRate then .error (.invalidRate r.identifier)
  else r.needsMulticast

/-- The device of the interface asked for; empty when any will do. -/
def requestedDevice (r : Reservation α) : String :=
  (splitInterface (String.ofList (trim r.interface.toList))).1

/-- Whether a device is what was asked for, apart from the room it has left. -/
def accepts (r : Reservation α) (needsMulticast : Bool) (c : Capacity α) : Bool :=
  (r.requestedDevice = "" || r.requestedDevice = c.device) &&
    (!needsMulticast || c.multicast) &&
    (r.address = "" || c.addresses.contains r.address)

end Reservation

end HostMonitor.Nic
