import HostMonitor.Text.Numeral

/-!
# Words

Ids are words of 64 bits. A sum that does not fit into a word is an overflow, and no value at all:
the program breaks off where it would be formed.
-/

namespace HostMonitor

/-- What breaks a program off. -/
inductive Overflow where
  | addition
  deriving DecidableEq, Repr

def Overflow.message : Overflow → String
  | .addition => "attempt to add with overflow"

namespace Word

def largest : Nat := Text.Numeral.wordLimit - 1

/-- The word after `n`. -/
def next (n : Nat) : Except Overflow Nat :=
  if n < largest then .ok (n + 1) else .error .addition

theorem next_of_lt {n : Nat} (h : n < largest) : next n = .ok (n + 1) :=
  if_pos h

theorem next_of_le {n : Nat} (h : largest ≤ n) : next n = .error .addition :=
  if_neg (Nat.not_lt.mpr h)

end Word

end HostMonitor
