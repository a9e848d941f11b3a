import HostMonitor.Text.Numeral
import HostMonitor.Text.Quoted
import HostMonitor.Text.Radix

/-!
# Internet addresses

Addresses of both families with their text forms. Four octets are written in decimal with points
between them. Eight groups are written in hexadecimal with colons between them, the longest run of
two or more zero groups as `::`, and an address that stands for four octets as `::ffff:` and those.
-/

namespace HostMonitor

inductive Ip where
  | v4 (bits : BitVec 32)
  | v6 (bits : BitVec 128)
  deriving DecidableEq, Repr

namespace Ip

open Text

/-- The `count` last digits of `n` to base `base`, most significant first. -/
def digitsOf (base : Nat) (n : Nat) : Nat → List Nat
  | 0 => []
  | count + 1 => digitsOf base (n / base) count ++ [n % base]

/-- A number below 256 without leading zeros. -/
def octet? (s : List Char) : Option Nat :=
  if 3 < s.length || (s.head? = some '0' && 1 < s.length) then none
  else (Numeral.value? s).bind fun n => if n < 256 then some n else none

def octets? (s : List Char) : Option (List Nat) := do
  let octets ← (splitAt '.' s).mapM octet?
  if octets.length = 4 then some octets else none

def group? (s : List Char) : Option Nat :=
  if 4 < s.length then none else Radix.number? 16 s

/-- Groups from pieces of text; where `embedded`, four octets may stand for the last two. -/
def groups? (embedded : Bool) : List (List Char) → Option (List Nat)
  | [] => some []
  | [piece] =>
    match if embedded then octets? piece else none with
    | some octets => some (digitsOf 65536 (Radix.ofDigits 256 octets) 2)
    | none => (group? piece).map ([·])
  | piece :: rest => do
    let g ← group? piece
    let gs ← groups? embedded rest
    return g :: gs

def groupsOf? (embedded : Bool) (s : List Char) : Option (List Nat) :=
  if s.isEmpty then some [] else groups? embedded (splitAt ':' s)

/-- The text before and after the first `::`. -/
def cutGap : List Char → Option (List Char × List Char)
  | ':' :: ':' :: rest => some ([], rest)
  | c :: rest => (cutGap rest).map fun (a, b) => (c :: a, b)
  | [] => none

def parseV6? (s : List Char) : Option (List Nat) :=
  match cutGap s with
  | none => do
    let groups ← groupsOf? true s
    if groups.length = 8 then some groups else none
  | some (a, b) => do
    let front ← groupsOf? false a
    let back ← groupsOf? true b
    let size := front.length + back.length
    if size ≤ 7 then some (front ++ List.replicate (8 - size) 0 ++ back) else none

def parse? (text : String) : Option Ip :=
  let s := text.toList
  match octets? s with
  | some octets => some (.v4 (BitVec.ofNat 32 (Radix.ofDigits 256 octets)))
  | none => (parseV6? s).map fun groups => .v6 (BitVec.ofNat 128 (Radix.ofDigits 65536 groups))

def octetsText (n : Nat) : List Char :=
  joinWith '.' ((digitsOf 256 n 4).map Numeral.digits)

def groupsText (groups : List Nat) : List Char :=
  joinWith ':' (groups.map Radix.hex)

/-- The length of the run of zeros in front. -/
def zeros (groups : List Nat) : Nat :=
  (groups.takeWhile (· == 0)).length

/-- Position and length of the first longest run of zeros, `i` being the position of the first
group. -/
def longestGap (i : Nat) : List Nat → Nat × Nat
  | [] => (i, 0)
  | g :: gs =>
    let here := zeros (g :: gs)
    let (start, length) := longestGap (i + 1) gs
    if length ≤ here then (i, here) else (start, length)

def v6Text (n : Nat) : List Char :=
  if n >>> 32 = 0xFFFF then "::ffff:".toList ++ octetsText (n % 1 <<< 32)
  else
    let groups := digitsOf 65536 n 8
    let (start, length) := longestGap 0 groups
    if 1 < length then
      groupsText (groups.take start) ++ ':' :: ':' :: groupsText (groups.drop (start + length))
    else groupsText groups

def text : Ip → String
  | .v4 bits => String.ofList (octetsText bits.toNat)
  | .v6 bits => String.ofList (v6Text bits.toNat)

end Ip

end HostMonitor
