/-!
# Numerals to other bases

Digits up to fifteen are `0` to `9` and the letters from `a` to `f`, which may be read in either
case and are written small. `number?` reads a numeral to any base up to sixteen, `hex` writes one to
base sixteen, and `char?` reads the character that has a given hexadecimal code.
-/

namespace HostMonitor.Text.Radix

/-- The value of a digit. -/
def digit? (c : Char) : Option Nat :=
  let n := c.toNat
  if 48 ≤ n && n ≤ 57 then some (n - 48)
  else if 97 ≤ n && n ≤ 102 then some (n - 87)
  else if 65 ≤ n && n ≤ 70 then some (n - 55)
  else none

/-- The value of a digit to `base`. -/
def digitTo? (base : Nat) (c : Char) : Option Nat :=
  (digit? c).filter (· < base)

/-- The number whose digits to `base` are `ds`, most significant first. -/
def ofDigits (base : Nat) (ds : List Nat) : Nat :=
  ds.foldl (fun n d => n * base + d) 0

/-- The number that a non-empty string of digits to `base` denotes. -/
def number? (base : Nat) (s : List Char) : Option Nat :=
  if s.isEmpty then none else (s.mapM (digitTo? base)).map (ofDigits base)

def char? (digits : List Char) : Option Char :=
  (number? 16 digits).bind fun n => if n.isValidChar then some (Char.ofNat n) else none

def digitChar (d : Nat) : Char :=
  if d < 10 then Char.ofNat (48 + d) else Char.ofNat (87 + d)

/-- The digits of `n` to base sixteen in front of `rest`. -/
def hexOnto (n : Nat) (rest : List Char) : List Char :=
  if h : n < 16 then digitChar n :: rest
  else hexOnto (n / 16) (digitChar (n % 16) :: rest)
termination_by n
decreasing_by omega

def hex (n : Nat) : List Char :=
  hexOnto n []

end HostMonitor.Text.Radix
