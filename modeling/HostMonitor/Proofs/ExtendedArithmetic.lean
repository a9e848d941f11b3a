import HostMonitor.Proofs.ExactArithmetic
import Mathlib.Data.EReal.Inv

/-!
# Extended arithmetic

The extended real numbers as measured quantities, with one value more that is no number. Operands
that do not settle a result, such as zero and infinity in a product, give no number, and neither do
operands of which one is none. Nothing is rounded, and there is one zero.
-/

namespace HostMonitor

inductive Extended where
  | nan
  | of (x : EReal)

namespace Extended

open Text

def map (f : EReal → EReal) : Extended → Extended
  | nan => nan
  | of x => of (f x)

/-- No number if an operand is none. -/
def lift (f : EReal → EReal → Extended) : Extended → Extended → Extended
  | of x, of y => f x y
  | _, _ => nan

/-- Whether both operands are numbers and they compare so. -/
def holds (r : EReal → EReal → Bool) : Extended → Extended → Bool
  | of x, of y => r x y
  | _, _ => false

def IsInfinite (x : EReal) : Prop :=
  x = ⊤ ∨ x = ⊥

section Operations

open Classical

noncomputable def add (x y : EReal) : Extended :=
  if x = ⊤ ∧ y = ⊥ ∨ x = ⊥ ∧ y = ⊤ then nan else of (x + y)

noncomputable def mul (x y : EReal) : Extended :=
  if x = 0 ∧ IsInfinite y ∨ IsInfinite x ∧ y = 0 then nan else of (x * y)

/-- A number other than zero is infinitely many times zero. -/
noncomputable def div (x y : EReal) : Extended :=
  if x = 0 ∧ y = 0 ∨ IsInfinite x ∧ IsInfinite y then nan
  else if y = 0 then of (if 0 < x then ⊤ else ⊥)
  else of (x / y)

end Operations

/-- A name of infinity or of what is no number, in any case, or a decimal fraction. -/
noncomputable def signless? (s : List Char) : Option Extended :=
  if asciiLower s = "inf".toList ∨ asciiLower s = "infinity".toList then some (of ⊤)
  else if asciiLower s = "nan".toList then some nan
  else (Decimal.read? s).map fun d => of (ExactArithmetic.ofDecimal d : ℝ)

noncomputable def read (s : List Char) : Except NumberError Extended :=
  match s with
  | [] => .error .empty
  | '+' :: t => (signless? t).elim (.error .invalid) .ok
  | '-' :: t => (signless? t).elim (.error .invalid) fun x => .ok (x.map Neg.neg)
  | s => (signless? s).elim (.error .invalid) .ok

open Classical in
noncomputable instance : Scalar Extended where
  add := lift add
  sub x y := lift add x (y.map Neg.neg)
  mul := lift mul
  div := lift div
  ofNat n := of n
  read := read
  lt := holds fun x y => x < y
  le := holds fun x y => x ≤ y
  isFinite x := decide (∃ r : ℝ, x = of r)

variable {x y : EReal} {n : Nat}

@[simp] theorem ofNat_eq (n : Nat) : (Scalar.ofNat n : Extended) = of n := rfl

@[simp] theorem zero_eq : (Scalar.zero : Extended) = of 0 := by
  simp [Scalar.zero]

@[simp] theorem lt_of : Scalar.lt (of x) (of y) = true ↔ x < y :=
  decide_eq_true_iff

@[simp] theorem le_of : Scalar.le (of x) (of y) = true ↔ x ≤ y :=
  decide_eq_true_iff

@[simp] theorem not_lt_nan (v : Extended) : Scalar.lt v nan = false := by
  cases v <;> rfl

@[simp] theorem not_nan_lt (v : Extended) : Scalar.lt nan v = false := rfl

@[simp] theorem not_le_nan (v : Extended) : Scalar.le v nan = false := by
  cases v <;> rfl

@[simp] theorem mul_nan (v : Extended) : v * nan = nan := by
  cases v <;> rfl

@[simp] theorem nan_div (v : Extended) : nan / v = nan := rfl

theorem not_isInfinite_natCast (n : Nat) : ¬IsInfinite n := by
  simp [IsInfinite, EReal.natCast_ne_top, EReal.natCast_ne_bot]

theorem natCast_mul (pos : 0 < n) (x : EReal) : (of n * of x : Extended) = of (n * x) := by
  have some : (n : EReal) ≠ 0 := by exact_mod_cast pos.ne'
  change mul n x = _
  rw [mul, if_neg (by simp [some, not_isInfinite_natCast])]

theorem div_natCast (pos : 0 < n) (x : EReal) : (of x / of n : Extended) = of (x / n) := by
  have some : (n : EReal) ≠ 0 := by exact_mod_cast pos.ne'
  change div x n = _
  rw [div, if_neg (by simp [some, not_isInfinite_natCast]), if_neg some]

end Extended

end HostMonitor
