import HostMonitor.Assoc
import HostMonitor.Nic.Reservation
import HostMonitor.Performed

/-!
# The ledger of reservations

A device hands out up to a percentage of its link speed. What is left for a new request is that
limit without the larger of what is reserved on the device and what it is measured to move.
-/

namespace HostMonitor.Nic

structure Ledger (α : Type) where
  maxPercent : α
  held : Assoc String (Reservation α)

namespace Ledger

variable {α : Type} [Scalar α]

def empty (maxPercent : α) : Ledger α := ⟨maxPercent, Assoc.empty⟩

/-- The reservations in ascending order of their identifiers. -/
def reservations (l : Ledger α) : List (Reservation α) :=
  l.held.values

/-- Bits per second reserved on a device. -/
def allocated (l : Ledger α) (device : String) : α :=
  Scalar.sum ((l.reservations.filter (·.interface == device)).map Reservation.required)

/-- Bits per second that may be reserved on a link of that speed. -/
def limit (l : Ledger α) (speed : Nat) : α :=
  Scalar.ofNat speed * Scalar.ofNat 1000000 * l.maxPercent / Scalar.ofNat 100

/-- Bits per second that are left. -/
def available (l : Ledger α) (c : Capacity α) : α :=
  Scalar.max (l.limit c.speed - Scalar.max (l.allocated c.device) c.throughput) Scalar.zero

def fits (l : Ledger α) (r : Reservation α) (c : Capacity α) : Bool :=
  !Scalar.lt (l.available c) r.required

/-- The first device that is what was asked for and has room. -/
def serving? (l : Ledger α) (r : Reservation α) (needsMulticast : Bool)
    (devices : List (Capacity α)) : Option (Capacity α) :=
  devices.find? fun c => r.accepts needsMulticast c && l.fits r c

def grant (l : Ledger α) (r : Reservation α) (device : String) : Ledger α :=
  { l with held := l.held.insert r.identifier { r with interface := device } }

/-- Grants the request, unless no device can take it, and answers whether it was granted. -/
def allocate (l : Ledger α) (r : Reservation α) (devices : List (Capacity α)) :
    Performed ReservationError Bool (Ledger α) :=
  match r.validate with
  | .error e => ⟨.error e, l⟩
  | .ok needsMulticast =>
    if l.held.contains r.identifier then ⟨.error (.duplicate r.identifier), l⟩
    else match l.serving? r needsMulticast devices with
      | some c => ⟨.ok true, l.grant r c.device⟩
      | none => ⟨.ok false, l⟩

def release (l : Ledger α) (identifier : String) : Performed ReservationError Unit (Ledger α) :=
  if l.held.contains identifier then ⟨.ok (), { l with held := l.held.erase identifier }⟩
  else ⟨.error (.unknown identifier), l⟩

end Ledger

end HostMonitor.Nic
