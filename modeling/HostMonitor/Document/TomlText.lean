import HostMonitor.Binary64.Layout
import HostMonitor.Document.Basic
import HostMonitor.Text.Quoted

/-!
# Writing TOML

Records of records as TOML text: the values of a record come first, each record in it is a table of
its own after them. A field that holds nothing is left out.
-/

namespace HostMonitor.Document.Toml

open Text

/-- Numbers keep a point and never have an exponent. -/
def floatLayout : Binary64.Layout where
  positional := none
  wholeMark := ".0"
  nan := "nan"
  infinity := "inf"
  negativeInfinity := "-inf"
  negativeZero := "-0.0"

def isControl (c : Char) : Bool :=
  c.toNat < 0x20 || c.toNat == 0x7F

def upperHex (c : Char) : List Char :=
  let digits := asciiUpper (Radix.hex c.toNat)
  List.replicate (4 - digits.length) '0' ++ digits

/-- Whether three single quotes follow each other somewhere, `n` of them right before. -/
def hasThreeQuotes (n : Nat) : List Char → Bool
  | [] => 3 ≤ n
  | c :: s => 3 ≤ n || hasThreeQuotes (if c = '\'' then n + 1 else 0) s

/-- Whether a text can stand between single quotes, where nothing is escaped. -/
def isRaw (s : List Char) : Bool :=
  s.all (fun c => c == '\t' || c == '\n' || !isControl c) && !hasThreeQuotes 0 s &&
    s.getLast? != some '\''

def escape (broken : Bool) (c : Char) : List Char :=
  match c with
  | '\x08' => ['\\', 'b']
  | '\t' => ['\\', 't']
  | '\n' => if broken then ['\n'] else ['\\', 'n']
  | '\x0c' => ['\\', 'f']
  | '\r' => ['\\', 'r']
  | '"' => ['\\', '"']
  | '\\' => ['\\', '\\']
  | c => if isControl c then '\\' :: 'u' :: upperHex c else [c]

/-- A text in single quotes if it can be, in double quotes otherwise, and in three of either kind
when it holds line feeds or single quotes. -/
def quote (s : String) : String :=
  let cs := s.toList
  let broken := cs.contains '\n'
  if isRaw cs then
    if broken then "'''\n" ++ s ++ "'''"
    else if cs.contains '\'' then "'''" ++ s ++ "'''"
    else "'" ++ s ++ "'"
  else
    let body := String.ofList (cs.flatMap (escape broken))
    if broken then "\"\"\"\n" ++ body ++ "\"\"\"" else "\"" ++ body ++ "\""

/-- Several items stand one to a line. -/
def array : List String → String
  | [] => "[]"
  | [item] => "[" ++ item ++ "]"
  | items => "[\n" ++ String.join (items.map fun item => "    " ++ item ++ ",\n") ++ "]"

mutual

def value : Document → String
  | .bool b => if b then "true" else "false"
  | .integer n => Numeral.signedText n
  | .float x => floatLayout.write x
  | .text s => quote s
  | .plain s => quote s
  | .list items => array (values items)
  | _ => ""

def values : List Document → List String
  | [] => []
  | d :: ds => value d :: values ds

end

def valueLine? (name : String) : Document → Option String
  | .null => none
  | .record _ => none
  | d => some (name ++ " = " ++ value d ++ "\n")

def valueLines (fields : List (Document × Document)) : String :=
  String.join (fields.filterMap fun (key, d) => valueLine? (key.keyText?.getD "") d)

/-- The tables of the records among the fields. -/
def tables (fields : List (Document × Document)) : List String :=
  fields.filterMap fun (key, d) =>
    match d with
    | .record inner => some ("[" ++ key.keyText?.getD "" ++ "]\n" ++ valueLines inner)
    | _ => none

end HostMonitor.Document.Toml

namespace HostMonitor.Document

/-- A record of values and of records that hold values. -/
def toToml : Document → String
  | .record fields =>
    let first := Toml.valueLines fields
    "\n".intercalate ((if first = "" then [] else [first]) ++ Toml.tables fields)
  | _ => ""

end HostMonitor.Document
