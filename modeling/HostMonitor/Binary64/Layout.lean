import HostMonitor.Binary64.Shortest

/-!
# Written forms of a 64-bit floating-point number

A `Layout` says where a decimal point stands and when an exponent is written. `fixed` writes a given
number of places instead, the exact value rounded with a tie going to the even digit.
-/

namespace HostMonitor.Binary64

open Text

/-- `positional` holds the smallest and the largest count of digits before the point at which no
exponent is written; with none, an exponent is never written. -/
structure Layout where
  positional : Option (Int × Int)
  wholeMark : String
  nan : String
  infinity : String
  negativeInfinity : String
  negativeZero : String

/-- The digits around the point; `point` of them stand before it. -/
def positionalText (digits : List Char) (point : Int) (wholeMark : String) : String :=
  let size : Int := digits.length
  if point ≤ 0 then
    String.ofList ("0.".toList ++ List.replicate (-point).toNat '0' ++ digits)
  else if point < size then
    String.ofList (digits.take point.toNat ++ '.' :: digits.drop point.toNat)
  else
    String.ofList (digits ++ List.replicate (point - size).toNat '0') ++ wholeMark

/-- One digit, the point and the other digits, then the power of ten. -/
def exponentText (digits : List Char) (point : Int) : String :=
  let mantissa := match digits with
    | [] => []
    | [d] => [d]
    | d :: ds => d :: '.' :: ds
  String.ofList mantissa ++ "e" ++ Numeral.signedText (point - 1)

def Layout.isPositional (l : Layout) (point : Int) : Bool :=
  match l.positional with
  | none => true
  | some (low, high) => low ≤ point && point ≤ high

def Layout.write (l : Layout) (x : Float) : String :=
  if isNaN x then l.nan
  else if isInfinite x then (if isNegative x then l.negativeInfinity else l.infinity)
  else if isZero x then (if isNegative x then l.negativeZero else "0" ++ l.wholeMark)
  else
    let d := shortest x
    let digits := Numeral.digits d.digits
    let point := d.exponent + digits.length
    let body := if l.isPositional point then positionalText digits point l.wholeMark
      else exponentText digits point
    if isNegative x then "-" ++ body else body

/-- Plain text in messages: whole numbers without a point, never an exponent. -/
def Layout.plain : Layout where
  positional := none
  wholeMark := ""
  nan := "NaN"
  infinity := "inf"
  negativeInfinity := "-inf"
  negativeZero := "-0"

/-- `x` with `places` digits after the point. -/
def fixed (places : Nat) (x : Float) : String :=
  if isNaN x then "NaN"
  else if isInfinite x then (if isNegative x then "-inf" else "inf")
  else
    let m := magnitude x
    let n := roundedQuotient (m.significand <<< m.exponent * Nat.pow 10 places) (1 <<< 1074)
    let digits := Numeral.digits n
    let padded := List.replicate (places + 1 - digits.length) '0' ++ digits
    let whole := padded.length - places
    let body := if places = 0 then String.ofList padded
      else String.ofList (padded.take whole ++ '.' :: padded.drop whole)
    if isNegative x then "-" ++ body else body

end HostMonitor.Binary64
