import HostMonitor.Text.Numeral

/-!
# Decimal fractions

Digits with an optional point and an optional exponent, where at least one digit stands beside the
point.
-/

namespace HostMonitor.Text

/-- The number `digits * 10 ^ exponent`. -/
structure Decimal where
  digits : Nat
  exponent : Int
  deriving DecidableEq, Repr

namespace Decimal

open Numeral

/-- The exponent part after the digits: nothing, or `e`, an optional sign and digits. -/
def exponent? : List Char → Option Int
  | [] => some 0
  | c :: s =>
    if c = 'e' || c = 'E' then
      match s with
      | '-' :: t => (value? t).map fun n => -(n : Int)
      | t => (value? (dropPlus t)).map Int.ofNat
    else none

def read? (s : List Char) : Option Decimal :=
  let whole := s.takeWhile isDigit
  let rest := s.dropWhile isDigit
  let (fraction, rest) := match rest with
    | '.' :: t => (t.takeWhile isDigit, t.dropWhile isDigit)
    | t => ([], t)
  if whole.isEmpty && fraction.isEmpty then none
  else (exponent? rest).map fun e => ⟨valueFrom 0 (whole ++ fraction), e - fraction.length⟩

end Decimal

end HostMonitor.Text
