import HostMonitor.Scalar
import HostMonitor.Text.Decimal
import Mathlib.Algebra.Order.Ring.Rat

/-!
# Exact arithmetic

The rational numbers as measured quantities. Nothing is rounded, and every value is a finite number.
-/

namespace HostMonitor

namespace ExactArithmetic

open Text

def ofDecimal (d : Decimal) : ℚ :=
  if 0 ≤ d.exponent then d.digits * 10 ^ d.exponent.toNat
  else d.digits / 10 ^ (-d.exponent).toNat

/-- A decimal fraction with an optional sign. -/
def read (s : List Char) : Except NumberError ℚ :=
  match s with
  | [] => .error .empty
  | '+' :: t => (Decimal.read? t).elim (.error .invalid) fun d => .ok (ofDecimal d)
  | '-' :: t => (Decimal.read? t).elim (.error .invalid) fun d => .ok (-ofDecimal d)
  | s => (Decimal.read? s).elim (.error .invalid) fun d => .ok (ofDecimal d)

end ExactArithmetic

instance : Scalar ℚ where
  ofNat n := n
  read := ExactArithmetic.read
  lt x y := decide (x < y)
  le x y := decide (x ≤ y)
  isFinite _ := true

namespace Scalar

variable {x y : ℚ}

@[simp] theorem ofNat_rat (n : Nat) : (ofNat n : ℚ) = n := rfl

@[simp] theorem zero_rat : (zero : ℚ) = 0 := by
  simp [zero]

@[simp] theorem lt_rat : lt x y = decide (x < y) := rfl

@[simp] theorem isFinite_rat : isFinite x = true := rfl

@[simp] theorem max_rat (x y : ℚ) : max x y = Max.max x y := by
  have number (z : ℚ) : isNumber z = true := decide_eq_true le_rfl
  rw [max, number, number, max_def_lt]
  simp

@[simp] theorem sum_rat (xs : List ℚ) : sum xs = xs.sum := by
  rw [sum, zero_rat, List.sum_eq_foldl]

end Scalar

end HostMonitor
