import HostMonitor.Binary64.Basic
import HostMonitor.Text.Decimal

/-!
# The shortest decimal that reads back

A finite number stands for every real that rounds to it. `shortest` gives the decimal with the
fewest digits in that interval and, of those, the one nearest to the number.
-/

namespace HostMonitor.Binary64

open Text

/-- A quotient of natural numbers times `10 ^ exponent`, as a quotient. -/
def scaleTen (num den : Nat) (exponent : Int) : Nat × Nat :=
  if 0 ≤ exponent then (num * Nat.pow 10 exponent.toNat, den)
  else (num, den * Nat.pow 10 (-exponent).toNat)

/-- The reals that round to `x`: the lower end, the number itself and the upper end in units of a
quarter of its last place, over a common denominator. -/
structure Interval where
  low : Nat
  mid : Nat
  high : Nat
  den : Nat
  closed : Bool

/-- Right below a power of two the neighbours lie half as far away. -/
def Magnitude.interval (x : Magnitude) : Interval :=
  let unit := 1 <<< x.exponent
  let below := if x.significand = fractionUnits && x.exponent ≠ 0 then 1 else 2
  { low := (4 * x.significand - below) * unit
    mid := 4 * x.significand * unit
    high := (4 * x.significand + 2) * unit
    den := 4 <<< 1074
    closed := x.significand % 2 == 0 }

def Interval.contains (i : Interval) (num den : Nat) : Bool :=
  let point := num * i.den
  if i.closed then i.low * den ≤ point && point ≤ i.high * den
  else i.low * den < point && point < i.high * den

/-- The largest `e` with `10 ^ e ≤ num / den`, sought upwards from `e`. -/
def topExponent (num den : Nat) : Nat → Int → Int
  | 0, e => e
  | fuel + 1, e =>
    let (n, d) := scaleTen num den (-(e + 1))
    if d ≤ n then topExponent num den fuel (e + 1) else e

/-- The better of the two multiples of `10 ^ exponent` next to the number, if one is in the
interval. -/
def Interval.onGrid? (i : Interval) (exponent : Int) : Option Nat :=
  let (n, d) := scaleTen i.mid i.den (-exponent)
  let c := n / d
  let inside (k : Nat) : Bool :=
    let (p, q) := scaleTen k 1 exponent
    i.contains p q
  match inside c, inside (c + 1) with
  | false, false => none
  | true, false => some c
  | false, true => some (c + 1)
  | true, true => some (roundedQuotient n d)

/-- Tries coarse grids first; `fuel` counts the digits that may still be added. -/
def Interval.search (i : Interval) (top : Int) : Nat → Nat → Decimal
  | 0, n => ⟨i.mid / i.den, top - n⟩
  | fuel + 1, n =>
    match i.onGrid? (top - n) with
    | some c => ⟨c, top - n⟩
    | none => i.search top fuel (n + 1)

/-- Moves trailing zeros into the exponent. -/
def withoutZeros (d : Decimal) : Nat → Decimal
  | 0 => d
  | fuel + 1 =>
    if d.digits % 10 == 0 && d.digits != 0 then withoutZeros ⟨d.digits / 10, d.exponent + 1⟩ fuel
    else d

/-- The shortest decimal of a finite number other than zero. -/
def shortest (x : Float) : Decimal :=
  let i := (magnitude x).interval
  let top := topExponent i.mid i.den 640 (-330)
  withoutZeros (i.search top 17 0) 20

end HostMonitor.Binary64
