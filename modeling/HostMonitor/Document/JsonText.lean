import HostMonitor.Binary64.Layout
import HostMonitor.Document.Basic
import HostMonitor.Text.Quoted

/-!
# Writing JSON

Documents as indented JSON text. A number that is not finite is written as `null`.
-/

namespace HostMonitor.Document.Json

open Text

/-- Numbers keep a point, and an exponent is written below `1e-5` and from `1e16` on. -/
def floatLayout : Binary64.Layout where
  positional := some (-4, 16)
  wholeMark := ".0"
  nan := "null"
  infinity := "null"
  negativeInfinity := "null"
  negativeZero := "-0.0"

def paddedHex (c : Char) : List Char :=
  let digits := Radix.hex c.toNat
  List.replicate (4 - digits.length) '0' ++ digits

def escape (c : Char) : List Char :=
  match c with
  | '"' => ['\\', '"']
  | '\\' => ['\\', '\\']
  | '\n' => ['\\', 'n']
  | '\r' => ['\\', 'r']
  | '\t' => ['\\', 't']
  | '\x08' => ['\\', 'b']
  | '\x0c' => ['\\', 'f']
  | c => if c.toNat < 32 then '\\' :: 'u' :: paddedHex c else [c]

def quote (s : String) : String :=
  String.ofList ('"' :: s.toList.flatMap escape ++ ['"'])

def scalar : Document → String
  | .bool b => if b then "true" else "false"
  | .integer n => Numeral.signedText n
  | .float x => floatLayout.write x
  | .text s => quote s
  | .plain s => quote s
  | _ => "null"

def indentation (depth : Nat) : String :=
  String.ofList (List.replicate (2 * depth) ' ')

/-- Brackets around items, one to a line. -/
def block (opening closing : String) (depth : Nat) (items : List String) : String :=
  if items.isEmpty then opening ++ closing
  else
    let line := ",\n" ++ indentation (depth + 1)
    opening ++ "\n" ++ indentation (depth + 1) ++ line.intercalate items ++ "\n" ++
      indentation depth ++ closing

def keyName (key : Document) : String :=
  quote (key.keyText?.getD "")

mutual

def write (depth : Nat) : Document → String
  | .list items => block "[" "]" depth (writeItems (depth + 1) items)
  | .record fields => block "\x7b" "\x7d" depth (writeFields (depth + 1) fields)
  | d => scalar d

def writeItems (depth : Nat) : List Document → List String
  | [] => []
  | d :: ds => write depth d :: writeItems depth ds

def writeFields (depth : Nat) : List (Document × Document) → List String
  | [] => []
  | (key, d) :: fields => (keyName key ++ ": " ++ write depth d) :: writeFields depth fields

end

end HostMonitor.Document.Json

namespace HostMonitor.Document

def toJson (d : Document) : String :=
  Json.write 0 d

end HostMonitor.Document
