/-!
# The parts of a 64-bit floating-point number

A finite number is `significand * 2 ^ exponent` with an exponent of at least `-1074`. `ofRatio` is
the number nearest to a quotient of two natural numbers, a tie going to the even significand.
-/

namespace HostMonitor.Binary64

def fractionUnits : Nat := 1 <<< 52

/-- The bits of positive infinity. -/
def infinityBits : Nat := 0x7FF * fractionUnits

def signBit : Nat := 1 <<< 63

def isNegative (x : Float) : Bool :=
  signBit ≤ x.toBits.toNat

def magnitudeBits (x : Float) : Nat :=
  x.toBits.toNat % signBit

def isNaN (x : Float) : Bool :=
  infinityBits < magnitudeBits x

def isInfinite (x : Float) : Bool :=
  magnitudeBits x == infinityBits

def isZero (x : Float) : Bool :=
  magnitudeBits x == 0

/-- The absolute value of a finite number, `significand * 2 ^ exponent / 2 ^ 1074`. -/
structure Magnitude where
  significand : Nat
  exponent : Nat

def magnitude (x : Float) : Magnitude :=
  let bits := magnitudeBits x
  let biased := bits / fractionUnits
  if biased = 0 then ⟨bits, 0⟩
  else ⟨bits % fractionUnits + fractionUnits, biased - 1⟩

def ofBits (negative : Bool) (bits : Nat) : Float :=
  Float.ofBits (UInt64.ofNat ((if negative then signBit else 0) + bits))

def infinity (negative : Bool) : Float :=
  ofBits negative infinityBits

def nan : Float :=
  ofBits false (infinityBits + fractionUnits / 2)

/-- The quotient rounded to a natural number, a tie going to the even one. -/
def roundedQuotient (num den : Nat) : Nat :=
  let q := num / den
  let r := num % den
  if den < 2 * r || (2 * r == den && q % 2 == 1) then q + 1 else q

/-- The number nearest to `num / den`, for positive `num` and `den`. The significand is the quotient
in units of `2 ^ exponent / 2 ^ 1074`, with the smallest exponent at which it has at most 53 bits; a
carry out of the significand moves the exponent by itself. -/
def ofRatio (negative : Bool) (num den : Nat) : Float :=
  let scaled := num <<< 1074
  let exponent := (scaled / den).log2 - 52
  let bits := exponent * fractionUnits + roundedQuotient scaled (den <<< exponent)
  ofBits negative (min bits infinityBits)

end HostMonitor.Binary64
