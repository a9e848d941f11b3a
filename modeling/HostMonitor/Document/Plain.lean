import HostMonitor.Binary64.Reading
import HostMonitor.Text.Radix

/-!
# Scalars without quotes

What a scalar without quotes stands for is decided by what is wanted: nothing, a truth value, a
number, or else the text itself.
-/

namespace HostMonitor.Document.Plain

open Text Text.Numeral

def isNull (s : String) : Bool :=
  s = "" || s = "~" || s = "null" || s = "Null" || s = "NULL"

def bool? (s : String) : Option Bool :=
  if s = "true" || s = "True" || s = "TRUE" then some true
  else if s = "false" || s = "False" || s = "FALSE" then some false
  else none

/-- A number after a mark of its base. -/
def marked? (s : List Char) : Option Nat :=
  match s with
  | '0' :: 'x' :: t => Radix.number? 16 t
  | '0' :: 'o' :: t => Radix.number? 8 t
  | '0' :: 'b' :: t => Radix.number? 2 t
  | _ => none

def dropSign : List Char → List Char
  | '-' :: s => s
  | '+' :: s => s
  | s => s

/-- More than one digit, the first of them zero: no number, in spite of its looks. -/
def hasLeadingZero (s : List Char) : Bool :=
  match dropSign s with
  | '0' :: c :: t => (c :: t).all isDigit
  | _ => false

/-- A number without a minus sign, in decimal or after a mark of another base. -/
def magnitude? (s : List Char) : Option Nat :=
  (marked? (dropPlus s)).or (if hasLeadingZero s then none else value? (dropPlus s))

def below? (limit : Nat) (n : Option Nat) : Option Nat :=
  n.bind fun n => if n < limit then some n else none

def word? (s : String) : Option Nat :=
  below? wordLimit (magnitude? s.toList)

/-- A number after a minus sign. -/
def negative? (s : List Char) : Option Nat :=
  match s with
  | '-' :: t => (marked? t).or (if hasLeadingZero s then none else value? t)
  | _ => none

/-- A second sign after a plus sign. -/
def signedTwice : List Char → Bool
  | '+' :: '+' :: _ => true
  | '+' :: '-' :: _ => true
  | _ => false

/-- A finite number, or one of the names of the others, which begin with a point. -/
def float? (s : String) : Option Float :=
  let unsigned := String.ofList (dropPlus s.toList)
  if signedTwice s.toList then none
  else if unsigned = ".inf" || unsigned = ".Inf" || unsigned = ".INF" then
    some (Binary64.infinity false)
  else if s = "-.inf" || s = "-.Inf" || s = "-.INF" then some (Binary64.infinity true)
  else if s = ".nan" || s = ".NaN" || s = ".NAN" then some Binary64.nan
  else (Binary64.read? unsigned.toList).filter Float.isFinite

/-- Integers up to 128 bits count as numbers. -/
def isNumber (s : String) : Bool :=
  (below? (1 <<< 128) (magnitude? s.toList)).isSome ||
    (below? (1 <<< 127 + 1) (negative? s.toList)).isSome ||
    (!hasLeadingZero s.toList && (float? s).isSome)

/-- Whether a text would be taken for something else without quotes. -/
def isAmbiguous (s : String) : Bool :=
  isNull s || (bool? s).isSome || isNumber s || hasLeadingZero s.toList

end HostMonitor.Document.Plain
