/-!
# Measured quantities

Rates, percentages and thresholds are computed over any type that offers the operations below. The
program runs them on 64-bit floating-point numbers; an exact field serves as well, so that a
statement about the arithmetic can be read without rounding.
-/

namespace HostMonitor

/-- Why a text is no number. -/
inductive NumberError where
  | empty
  | invalid
  deriving DecidableEq, Repr

def NumberError.message : NumberError → String
  | .empty => "cannot parse float from empty string"
  | .invalid => "invalid float literal"

class Scalar (α : Type) extends Add α, Sub α, Mul α, Div α where
  ofNat : Nat → α
  read : List Char → Except NumberError α
  lt : α → α → Bool
  le : α → α → Bool
  isFinite : α → Bool

namespace Scalar

variable {α : Type} [Scalar α]

def zero : α := ofNat 0

/-- Only a value that is no number is not at most itself. -/
def isNumber (x : α) : Bool := le x x

/-- The larger of two values; a value that is no number gives way to the other. -/
def max (x y : α) : α :=
  if !isNumber x then y
  else if !isNumber y then x
  else if lt x y then y else x

/-- The sum of `xs`, taken from the left and starting from zero. -/
def sum (xs : List α) : α :=
  xs.foldl (· + ·) zero

end Scalar

end HostMonitor
