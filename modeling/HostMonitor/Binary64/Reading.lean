import HostMonitor.Binary64.Basic
import HostMonitor.Scalar
import HostMonitor.Text.Decimal

/-!
# Reading decimal text as a 64-bit floating-point number

The grammar is an optional sign, then `inf`, `infinity` or `nan` in any case, or a decimal fraction.
The result is the number nearest to the written value.
-/

namespace HostMonitor.Binary64

open Text

/-- The number `d`, rounded. Far outside the range of the format the digits do not matter. -/
def ofDecimal (negative : Bool) (d : Decimal) : Float :=
  let size := (Numeral.digits d.digits).length
  if d.digits = 0 then ofBits negative 0
  else if d.exponent + size > 400 then infinity negative
  else if d.exponent + size < -400 then ofBits negative 0
  else if 0 ≤ d.exponent then ofRatio negative (d.digits * Nat.pow 10 d.exponent.toNat) 1
  else ofRatio negative d.digits (Nat.pow 10 (-d.exponent).toNat)

def named? (negative : Bool) (s : List Char) : Option Float :=
  let s := asciiLower s
  if s = "inf".toList || s = "infinity".toList then some (infinity negative)
  else if s = "nan".toList then some nan
  else none

def signless? (negative : Bool) (s : List Char) : Option Float :=
  (named? negative s).or ((Decimal.read? s).map (ofDecimal negative))

def read (s : List Char) : Except NumberError Float :=
  match s with
  | [] => .error .empty
  | '+' :: t => (signless? false t).elim (.error .invalid) .ok
  | '-' :: t => (signless? true t).elim (.error .invalid) .ok
  | s => (signless? false s).elim (.error .invalid) .ok

def read? (s : List Char) : Option Float :=
  (read s).toOption

end HostMonitor.Binary64
