import HostMonitor.Text.Numeral

/-!
# Counters

Kernel counters are words of 64 bits. Sums and products stop at the largest word instead of
wrapping, and a difference stops at zero, so that every operation is monotone in the numbers it
combines.
-/

namespace HostMonitor

structure Counter where
  value : Nat
  value_lt : value < 1 <<< 64
  deriving DecidableEq, Repr

namespace Counter

/-- The counter of `n`, or the largest one if `n` does not fit. -/
def clamp (n : Nat) : Counter :=
  ⟨min n (1 <<< 64 - 1), by omega⟩

def zero : Counter := ⟨0, by omega⟩

instance : Inhabited Counter := ⟨zero⟩

def add (a b : Counter) : Counter :=
  clamp (a.value + b.value)

def scale (a : Counter) (n : Nat) : Counter :=
  clamp (a.value * n)

/-- How far `later` is past `earlier`. -/
def since (later earlier : Counter) : Counter :=
  ⟨later.value - earlier.value, by have := later.value_lt; omega⟩

def sum (cs : List Counter) : Counter :=
  cs.foldl add zero

/-- A word as the kernel writes it. -/
def read? (s : List Char) : Option Counter :=
  match h : Text.Numeral.word? s with
  | some n => some ⟨n, Text.Numeral.lt_of_below? h⟩
  | none => none

def chars (c : Counter) : List Char :=
  Text.Numeral.digits c.value

@[ext] theorem ext {a b : Counter} (h : a.value = b.value) : a = b := by
  cases a; cases b; simp_all

@[simp] theorem value_clamp (n : Nat) : (clamp n).value = min n (1 <<< 64 - 1) := rfl

@[simp] theorem value_zero : zero.value = 0 := rfl

@[simp] theorem value_add (a b : Counter) :
    (add a b).value = min (a.value + b.value) (1 <<< 64 - 1) := rfl

@[simp] theorem value_scale (a : Counter) (n : Nat) :
    (scale a n).value = min (a.value * n) (1 <<< 64 - 1) := rfl

@[simp] theorem value_since (later earlier : Counter) :
    (since later earlier).value = later.value - earlier.value := rfl

theorem read?_chars (c : Counter) : read? c.chars = some c := by
  have h : Text.Numeral.word? (Text.Numeral.digits c.value) = some c.value :=
    Text.Numeral.word?_digits c.value_lt
  unfold read? chars
  split
  · next n hn => rw [h] at hn; cases hn; rfl
  · next hn => rw [h] at hn; cases hn

end Counter

end HostMonitor
