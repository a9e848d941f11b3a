import HostMonitor.Text.Lines

/-!
# Decimal numerals

`value?` reads a string of ASCII digits, `word?` an unsigned number below `2 ^ 64` as the kernel and
its users write one: an optional `+`, then digits, leading zeros allowed. `digits` writes a number,
and reading gives it back.
-/

namespace HostMonitor.Text.Numeral

def isDigit (c : Char) : Bool :=
  48 ≤ c.toNat && c.toNat ≤ 57

def digitValue (c : Char) : Nat :=
  c.toNat - 48

def digitChar (d : Nat) : Char :=
  Char.ofNat (48 + d)

def shiftIn (acc : Nat) (c : Char) : Nat :=
  10 * acc + digitValue c

/-- The number that digits denote when they follow a number already read. -/
def valueFrom (acc : Nat) (s : List Char) : Nat :=
  s.foldl shiftIn acc

/-- The number that a non-empty string of digits denotes. -/
def value? (s : List Char) : Option Nat :=
  if s.isEmpty || !s.all isDigit then none else some (valueFrom 0 s)

def dropPlus : List Char → List Char
  | '+' :: s => s
  | s => s

def wordLimit : Nat :=
  1 <<< 64

/-- An unsigned number below `limit`. -/
def below? (limit : Nat) (s : List Char) : Option Nat :=
  (value? (dropPlus s)).bind fun n => if n < limit then some n else none

def word? (s : List Char) : Option Nat :=
  below? wordLimit s

theorem lt_of_below? {limit n : Nat} {s : List Char} (h : below? limit s = some n) : n < limit := by
  obtain ⟨m, _, hm⟩ := Option.bind_eq_some_iff.1 h
  split at hm <;> simp_all

/-- A number from `-limit` up to, but without, `limit`. -/
def signed? (limit : Nat) : List Char → Option Int
  | '-' :: s => (value? s).bind fun n => if n ≤ limit then some (-n) else none
  | s => (below? limit s).map Int.ofNat

/-- The digits of a positive number, most significant first, in front of `rest`. -/
def digitsOnto (n : Nat) (rest : List Char) : List Char :=
  if h : n < 10 then digitChar n :: rest
  else digitsOnto (n / 10) (digitChar (n % 10) :: rest)
termination_by n
decreasing_by omega

def digits (n : Nat) : List Char :=
  digitsOnto n []

def text (n : Nat) : String :=
  String.ofList (digits n)

def signedText (n : Int) : String :=
  if n < 0 then "-" ++ text n.natAbs else text n.natAbs

theorem toNat_digitChar {d : Nat} (h : d < 10) : (digitChar d).toNat = 48 + d := by
  have : d = 0 ∨ d = 1 ∨ d = 2 ∨ d = 3 ∨ d = 4 ∨ d = 5 ∨ d = 6 ∨ d = 7 ∨ d = 8 ∨ d = 9 := by omega
  rcases this with rfl | rfl | rfl | rfl | rfl | rfl | rfl | rfl | rfl | rfl <;> rfl

theorem isDigit_digitChar {d : Nat} (h : d < 10) : isDigit (digitChar d) = true := by
  simp [isDigit, toNat_digitChar h]; omega

theorem digitValue_digitChar {d : Nat} (h : d < 10) : digitValue (digitChar d) = d := by
  simp [digitValue, toNat_digitChar h]

theorem shiftIn_digitChar {d : Nat} (h : d < 10) (acc : Nat) :
    shiftIn acc (digitChar d) = 10 * acc + d := by
  rw [shiftIn, digitValue_digitChar h]

theorem valueFrom_nil (acc : Nat) : valueFrom acc [] = acc := rfl

theorem valueFrom_cons (acc : Nat) (c : Char) (s : List Char) :
    valueFrom acc (c :: s) = valueFrom (shiftIn acc c) s := by
  simp only [valueFrom, List.foldl_cons]

theorem digitsOnto_of_lt {n : Nat} (h : n < 10) (rest : List Char) :
    digitsOnto n rest = digitChar n :: rest := by
  rw [digitsOnto, dif_pos h]

theorem digitsOnto_of_le {n : Nat} (h : 10 ≤ n) (rest : List Char) :
    digitsOnto n rest = digitsOnto (n / 10) (digitChar (n % 10) :: rest) := by
  rw [digitsOnto, dif_neg (by omega)]

theorem valueFrom_digitsOnto (n : Nat) (rest : List Char) :
    valueFrom 0 (digitsOnto n rest) = valueFrom n rest := by
  induction n using Nat.strongRecOn generalizing rest with
  | ind n ih =>
    by_cases h : n < 10
    · rw [digitsOnto_of_lt h, valueFrom_cons, shiftIn_digitChar h, Nat.mul_zero, Nat.zero_add]
    · have hd : n / 10 < n := by omega
      have hm : n % 10 < 10 := Nat.mod_lt n (by omega)
      have he : 10 * (n / 10) + n % 10 = n := by omega
      rw [digitsOnto_of_le (by omega), ih _ hd]
      rw [valueFrom_cons, shiftIn_digitChar hm, he]

theorem all_digitsOnto (n : Nat) (rest : List Char) (h : rest.all isDigit = true) :
    (digitsOnto n rest).all isDigit = true := by
  induction n using Nat.strongRecOn generalizing rest with
  | ind n ih =>
    by_cases hn : n < 10
    · simp [digitsOnto_of_lt hn, isDigit_digitChar hn, h]
    · have hd : n / 10 < n := by omega
      have hm : n % 10 < 10 := Nat.mod_lt n (by omega)
      rw [digitsOnto_of_le (by omega)]
      exact ih _ hd _ (by simp [isDigit_digitChar hm, h])

theorem digitsOnto_ne_nil (n : Nat) (rest : List Char) : digitsOnto n rest ≠ [] := by
  induction n using Nat.strongRecOn generalizing rest with
  | ind n ih =>
    by_cases hn : n < 10
    · simp [digitsOnto_of_lt hn]
    · have hd : n / 10 < n := by omega
      rw [digitsOnto_of_le (by omega)]
      exact ih _ hd _

theorem all_digits (n : Nat) : (digits n).all isDigit = true := by
  rw [digits]
  exact all_digitsOnto n [] rfl

theorem value?_digits (n : Nat) : value? (digits n) = some n := by
  have hne : (digits n).isEmpty = false := by
    simpa [digits] using digitsOnto_ne_nil n []
  have hall := all_digits n
  have hval : valueFrom 0 (digits n) = n := by rw [digits, valueFrom_digitsOnto, valueFrom_nil]
  rw [value?, hne, hall, hval]
  rfl

theorem dropPlus_of_all_isDigit {s : List Char} (h : s.all isDigit = true) : dropPlus s = s := by
  cases s with
  | nil => rfl
  | cons c s =>
    have hc : isDigit c = true := by simp_all
    by_cases hp : c = '+'
    · subst hp; exact absurd hc (by decide)
    · unfold dropPlus; split <;> simp_all

/-- Reading what was written gives the number back. -/
theorem word?_digits {n : Nat} (h : n < wordLimit) : word? (digits n) = some n := by
  rw [word?, below?, dropPlus_of_all_isDigit (all_digits n), value?_digits]
  simp [h]

end HostMonitor.Text.Numeral
