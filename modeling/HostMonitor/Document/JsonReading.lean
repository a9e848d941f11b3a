import HostMonitor.Binary64.Arithmetic
import HostMonitor.Document.Basic
import HostMonitor.Text.Radix

/-!
# Reading JSON

Readers take the text from a point on and hand back the value and what follows it. Integers of up to
64 bits are kept as such. Every other number is the product or quotient of its leading digits and a
power of ten, each rounded, so that the last digit of a long number may be lost.
-/

namespace HostMonitor.Document.Json

open Text Text.Numeral

def isLayout (c : Char) : Bool :=
  c == ' ' || c == '\t' || c == '\n' || c == '\r'

def skipLayout (s : List Char) : List Char :=
  s.dropWhile isLayout

/-- Four hexadecimal digits. -/
def unit? : List Char → Option (Nat × List Char)
  | a :: b :: c :: d :: rest => (Radix.number? 16 [a, b, c, d]).map (·, rest)
  | _ => none

def isHighUnit (n : Nat) : Bool := 0xD800 ≤ n && n ≤ 0xDBFF

def isLowUnit (n : Nat) : Bool := 0xDC00 ≤ n && n ≤ 0xDFFF

def pairValue (high low : Nat) : Nat :=
  0x10000 + (high - 0xD800) * 0x400 + (low - 0xDC00)

def escaped? : Char → Option Char
  | '"' => some '"'
  | '\\' => some '\\'
  | '/' => some '/'
  | 'b' => some '\x08'
  | 'f' => some '\x0c'
  | 'n' => some '\n'
  | 'r' => some '\r'
  | 't' => some '\t'
  | _ => none

/-- The characters up to the closing quote, in reverse, or nothing for them if one half of a pair of
units stands alone. -/
structure Content where
  reversed : List Char
  whole : Bool

def Content.push (t : Content) (c : Char) : Content := { t with reversed := c :: t.reversed }

def Content.document (t : Content) : Document :=
  if t.whole then .text (String.ofList t.reversed.reverse) else .unrepresentable

def readString : Nat → Content → List Char → Option (Document × List Char)
  | 0, _, _ => none
  | _, _, [] => none
  | fuel + 1, t, c :: rest =>
    if c = '"' then some (t.document, rest)
    else if c.toNat < 32 then none
    else if c ≠ '\\' then readString fuel (t.push c) rest
    else match rest with
      | 'u' :: rest => do
        let (n, rest) ← unit? rest
        if isLowUnit n then readString fuel { t with whole := false } rest
        else if isHighUnit n then
          match rest with
          | '\\' :: 'u' :: rest' => do
            let (m, rest') ← unit? rest'
            if isLowUnit m then readString fuel (t.push (Char.ofNat (pairValue n m))) rest'
            else readString fuel { t with whole := false } rest
          | rest => readString fuel { t with whole := false } rest
        else readString fuel (t.push (Char.ofNat n)) rest
      | c :: rest => (escaped? c).bind fun c => readString fuel (t.push c) rest
      | [] => none

/-- The digits that still fit a word, and how many more there are. -/
def significand (acc : Nat) : List Char → Nat × Nat
  | [] => (acc, 0)
  | c :: s =>
    if acc * 10 + digitValue c < wordLimit then significand (acc * 10 + digitValue c) s
    else (acc, s.length + 1)

def powerOfTen (n : Nat) : Float := Binary64.ofDecimal false ⟨1, n⟩

/-- Scaling goes in steps of at most 308 powers of ten; a number that becomes infinite is none. -/
def scaled? : Nat → Float → Int → Option Float
  | 0, _, _ => none
  | fuel + 1, x, e =>
    if e.natAbs ≤ 308 then
      if 0 ≤ e then (some (x * powerOfTen e.natAbs)).filter Float.isFinite
      else some (x / powerOfTen e.natAbs)
    else if x == 0 then some x
    else if 0 ≤ e then none
    else scaled? fuel (x / powerOfTen 308) (e + 308)

def float (negative : Bool) (digits : Nat) (e : Int) : Document :=
  match scaled? (e.natAbs / 308 + 2) (Binary64.ofNat digits) e with
  | some x => .float (if negative then -x else x)
  | none => .unrepresentable

/-- An exponent too large for 32 bits. -/
def farExponent (negative : Bool) (digits : Nat) (up : Bool) : Document :=
  if digits ≠ 0 && up then .unrepresentable
  else .float (if negative then -0.0 else 0.0)

/-- The rest of a number from a possible exponent on; `e` is the exponent so far. -/
def readExponent (negative : Bool) (digits : Nat) (e : Int) (whole : Option Document)
    (s : List Char) : Option (Document × List Char) :=
  match s with
  | c :: rest =>
    if c = 'e' || c = 'E' then
      let (up, rest) := match rest with
        | '+' :: r => (true, r)
        | '-' :: r => (false, r)
        | r => (true, r)
      let after := rest.dropWhile isDigit
      (value? (rest.takeWhile isDigit)).map fun n =>
        if 1 <<< 31 ≤ n then (farExponent negative digits up, after)
        else (float negative digits (if up then e + n else e - n), after)
    else some (whole.getD (float negative digits e), s)
  | [] => some (whole.getD (float negative digits e), s)

/-- An integer that fits; zero with a sign does not. -/
def wholeNumber? (negative : Bool) (digits : Nat) : Option Document :=
  if !negative then some (.integer digits)
  else if 0 < digits && digits ≤ 1 <<< 63 then some (.integer (-(digits : Int)))
  else none

/-- The digits after the point, of which no more count once one does not fit. -/
def fraction (acc : Nat) (s : List Char) : Nat × Nat :=
  let (digits, dropped) := significand acc s
  (digits, s.length - dropped)

def readNumber (negative : Bool) (s : List Char) : Option (Document × List Char) :=
  let whole := s.takeWhile isDigit
  let rest := s.dropWhile isDigit
  if whole.isEmpty || (whole.head? = some '0' && 1 < whole.length) then none
  else
    let (digits, more) := significand 0 whole
    match rest with
    | '.' :: rest =>
      let places := rest.takeWhile isDigit
      if places.isEmpty then none
      else
        let (digits, used) := fraction digits places
        readExponent negative digits (more - used) none (rest.dropWhile isDigit)
    | rest =>
      let exact := if more = 0 then wholeNumber? negative digits else none
      readExponent negative digits more exact rest

def readWord (s : List Char) : Option (Document × List Char) :=
  match dropHead? "null".toList s with
  | some rest => some (.null, rest)
  | none =>
    match dropHead? "true".toList s with
    | some rest => some (.bool true, rest)
    | none => (dropHead? "false".toList s).map fun rest => (.bool false, rest)

mutual

def readValue : Nat → List Char → Option (Document × List Char)
  | 0, _ => none
  | fuel + 1, s =>
    match skipLayout s with
    | '"' :: rest => readString (rest.length + 1) ⟨[], true⟩ rest
    | '-' :: rest => readNumber true rest
    | '[' :: rest =>
      match skipLayout rest with
      | ']' :: rest => some (.list [], rest)
      | rest => readItems fuel [] rest
    | '{' :: rest =>
      match skipLayout rest with
      | '}' :: rest => some (.record [], rest)
      | rest => readFields fuel [] rest
    | c :: rest => if isDigit c then readNumber false (c :: rest) else readWord (c :: rest)
    | [] => none

/-- Items up to the closing bracket, those so far in reverse. -/
def readItems : Nat → List Document → List Char → Option (Document × List Char)
  | 0, _, _ => none
  | fuel + 1, items, s => do
    let (d, rest) ← readValue fuel s
    match skipLayout rest with
    | ',' :: rest => readItems fuel (d :: items) rest
    | ']' :: rest => some (.list (d :: items).reverse, rest)
    | _ => none

/-- Fields up to the closing brace, those so far in reverse. -/
def readFields : Nat → List (Document × Document) → List Char → Option (Document × List Char)
  | 0, _, _ => none
  | fuel + 1, fields, s =>
    match skipLayout s with
    | '"' :: rest => do
      let (key, rest) ← readString (rest.length + 1) ⟨[], true⟩ rest
      match skipLayout rest with
      | ':' :: rest => do
        let (d, rest) ← readValue fuel rest
        match skipLayout rest with
        | ',' :: rest => readFields fuel ((key, d) :: fields) rest
        | '}' :: rest => some (.record ((key, d) :: fields).reverse, rest)
        | _ => none
      | _ => none
    | _ => none

end

end HostMonitor.Document.Json

namespace HostMonitor.Document

/-- The document that a JSON text holds. -/
def ofJson? (text : String) : Option Document := do
  let s := text.toList
  let (d, rest) ← Json.readValue (2 * s.length + 2) s
  if (Json.skipLayout rest).isEmpty then some d else none

end HostMonitor.Document
