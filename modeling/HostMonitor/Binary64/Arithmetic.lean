import HostMonitor.Binary64.Reading

/-!
# Measuring with 64-bit floating-point numbers

The arithmetic of the machine, with counters and text rounded to the nearest number.
-/

namespace HostMonitor.Binary64

def ofNat (n : Nat) : Float :=
  if n = 0 then 0 else ofRatio false n 1

instance : Scalar Float where
  ofNat := ofNat
  read := read
  lt x y := x < y
  le x y := x ≤ y
  isFinite := Float.isFinite

end HostMonitor.Binary64
