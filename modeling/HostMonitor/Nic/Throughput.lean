import HostMonitor.Nic.Record
import HostMonitor.Scalar

/-!
# Device throughput

The rate at which a device moves bytes, from the last two samples of its counters. The VLANs of a
device share its link: they are listed with it and not counted again.
-/

namespace HostMonitor.Nic

/-- Bytes received and sent, and the time in nanoseconds at which they were counted. -/
structure ByteSample where
  bytes : Counter
  time : Nat
  deriving DecidableEq, Repr

structure Throughput (α : Type) where
  device : String
  vlans : List String
  previous : Option ByteSample
  /-- Megabytes of `2 ^ 20` bytes per second. -/
  rate : α

namespace Throughput

variable {α : Type} [Scalar α]

def start (device : String) : Throughput α where
  device := device
  vlans := []
  previous := none
  rate := Scalar.zero

/-- Lists a VLAN, unless it has no name or is there already. -/
def addVlan (t : Throughput α) (vlan : String) : Throughput α :=
  if vlan = "" || t.vlans.contains vlan then t else { t with vlans := t.vlans ++ [vlan] }

def vlansText (t : Throughput α) : String :=
  ",".intercalate t.vlans

def bytesPerMegabyte : α := Scalar.ofNat 1048576

def nanoseconds : Nat := 1000000000

def seconds (ns : Nat) : α :=
  Scalar.ofNat (ns / nanoseconds) + Scalar.ofNat (ns % nanoseconds) / Scalar.ofNat nanoseconds

/-- The rate between two samples, and zero if no time passed or the counters went back. -/
def rateBetween (earlier later : ByteSample) : α :=
  let elapsed : α := seconds (later.time - earlier.time)
  if Scalar.lt Scalar.zero elapsed && earlier.bytes.value ≤ later.bytes.value then
    Scalar.ofNat (later.bytes.value - earlier.bytes.value) / elapsed / bytesPerMegabyte
  else Scalar.zero

def push (t : Throughput α) (sample : ByteSample) : Throughput α where
  device := t.device
  vlans := t.vlans
  previous := some sample
  rate := match t.previous with
    | some earlier => rateBetween earlier sample
    | none => Scalar.zero

def observe (t : Throughput α) (r : Record) (time : Nat) : Throughput α :=
  t.push ⟨r.rxBytes.add r.txBytes, time⟩

def bitsPerSecond (t : Throughput α) : α :=
  t.rate * Scalar.ofNat 8 * bytesPerMegabyte

end Throughput

end HostMonitor.Nic
