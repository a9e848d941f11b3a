import HostMonitor.Binary64.Layout
import HostMonitor.Document.Basic
import HostMonitor.Document.Plain
import HostMonitor.Text.Quoted

/-!
# Writing YAML

Documents in block style. A text is written without quotes where it cannot be taken for anything
else, over several lines when it holds line feeds, and in single or double quotes otherwise.
-/

namespace HostMonitor.Document.Yaml

open Text

/-- Numbers keep a point, and an exponent is written below `1e-5` and from `1e16` on. -/
def floatLayout : Binary64.Layout where
  positional := some (-4, 16)
  wholeMark := ".0"
  nan := ".nan"
  infinity := ".inf"
  negativeInfinity := "-.inf"
  negativeZero := "-0.0"

def isBreak (c : Char) : Bool :=
  c == '\n' || c == '\r' || c.toNat == 0x85 || c.toNat == 0x2028 || c.toNat == 0x2029

/-- A space, a tab, a break, or the end of the text. -/
def isGap : Option Char → Bool
  | none => true
  | some c => c == ' ' || c == '\t' || isBreak c

/-- Characters that are written as they are. -/
def isShown (c : Char) : Bool :=
  let n := c.toNat
  n == 0xA || (0x20 ≤ n && n ≤ 0x7E) || (0xA0 ≤ n && n ≤ 0xD7FF) ||
    (0xE000 ≤ n && n ≤ 0xFFFD && n != 0xFEFF)

/-- Characters with a meaning of their own in front of a scalar. -/
def isIndicator (c : Char) : Bool :=
  "#,[]\x7b\x7d&*!|>'\"%@\x60".toList.contains c

/-- Whether the first character would be read as an indicator. -/
def badStart : List Char → Bool
  | [] => false
  | c :: rest =>
    isIndicator c || ((c == '?' || c == ':' || c == '-') && isGap rest.head?)

/-- Whether a colon or a number sign further on would end the scalar, `gap` saying whether the
character before is one. -/
def badInside (gap : Bool) : List Char → Bool
  | [] => false
  | c :: rest =>
    (c == ':' && isGap rest.head?) || (c == '#' && gap) || badInside (isGap (some c)) rest

/-- Whether some space stands right after a break, or a break right after a space. -/
def hasPair (p q : Char → Bool) : List Char → Bool
  | a :: b :: rest => (p a && q b) || hasPair p q (b :: rest)
  | _ => false

def isSpace (c : Char) : Bool := c == ' '

def isEdge (c : Option Char) : Bool :=
  c.any fun c => isSpace c || isBreak c

/-- What stands in the way of the simpler forms. -/
structure Shape where
  /-- Characters that only double quotes can show, or a break after a space. -/
  special : Bool
  spaceAfterBreak : Bool
  breaks : Bool
  edges : Bool
  trailingSpace : Bool
  indicators : Bool
  deriving DecidableEq, Repr

def shapeOf (s : List Char) : Shape where
  special := s.any (!isShown ·) || hasPair isSpace isBreak s
  spaceAfterBreak := hasPair isBreak isSpace s
  breaks := s.any isBreak
  edges := isEdge s.head? || isEdge s.getLast?
  trailingSpace := s.getLast? == some ' '
  indicators := startsWith "---".toList s || startsWith "...".toList s || badStart s ||
    badInside (isGap s.head?) s.tail

inductive Style where
  | bare
  | single
  | double
  | literal
  deriving DecidableEq, Repr

def styleOf (s : String) : Style :=
  let shape := shapeOf s.toList
  let quotes := if shape.special || shape.spaceAfterBreak then .double else .single
  if s.toList.contains '\n' then
    if shape.special || shape.trailingSpace then .double else .literal
  else if Plain.isAmbiguous s then (if s = "" then .single else quotes)
  else if shape.special || shape.spaceAfterBreak || shape.breaks || shape.edges ||
    shape.indicators then quotes
  else .bare

def upperHex (width : Nat) (c : Char) : List Char :=
  let digits := asciiUpper (Radix.hex c.toNat)
  List.replicate (width - digits.length) '0' ++ digits

def escape (c : Char) : List Char :=
  match c with
  | '\x00' => ['\\', '0']
  | '\x07' => ['\\', 'a']
  | '\x08' => ['\\', 'b']
  | '\t' => ['\\', 't']
  | '\n' => ['\\', 'n']
  | '\x0b' => ['\\', 'v']
  | '\x0c' => ['\\', 'f']
  | '\r' => ['\\', 'r']
  | '\x1b' => ['\\', 'e']
  | '"' => ['\\', '"']
  | '\\' => ['\\', '\\']
  | c =>
    if c.toNat = 0x85 then ['\\', 'N']
    else if c.toNat = 0x2028 then ['\\', 'L']
    else if c.toNat = 0x2029 then ['\\', 'P']
    else if isShown c then [c]
    else if c.toNat ≤ 0xFF then '\\' :: 'x' :: upperHex 2 c
    else if c.toNat ≤ 0xFFFF then '\\' :: 'u' :: upperHex 4 c
    else '\\' :: 'U' :: upperHex 8 c

def doubleQuoted (s : String) : String :=
  String.ofList ('"' :: s.toList.flatMap escape ++ ['"'])

def singleQuoted (s : String) : String :=
  String.ofList ('\'' :: (s.toList.flatMap fun c => if c = '\'' then [c, c] else [c]) ++ ['\''])

/-- How the line feeds at the end are kept: none, one, or all of them. -/
def chomping (s : List Char) : List Char :=
  match s.reverse with
  | '\n' :: '\n' :: _ => ['+']
  | ['\n'] => ['+']
  | '\n' :: _ => []
  | _ => ['-']

/-- What stands for a document: a scalar, whose further lines belong to it, or the lines of a list
or a record. Lines that are not indented yet are indented by what holds the document. -/
inductive Block where
  | scalar (first : String) (rest : List String)
  | items (lines : List String)
  | fields (lines : List String)

def oneLine (s : String) : Block := .scalar s []

def indent (line : String) : String :=
  if line = "" then line else "  " ++ line

/-- A text over several lines; blanks at its start are announced. -/
def literal (s : List Char) : Block :=
  let hint := if isEdge s.head? then ['2'] else []
  let pieces := (splitAt '\n' s).map String.ofList
  .scalar (String.ofList ('|' :: hint ++ chomping s))
    (if s.getLast? = some '\n' then pieces.dropLast else pieces)

def textBlock (s : String) : Block :=
  match styleOf s with
  | .bare => oneLine s
  | .single => oneLine (singleQuoted s)
  | .double => oneLine (doubleQuoted s)
  | .literal => literal s.toList

def keyName (key : Document) : String :=
  match textBlock (key.keyText?.getD "") with
  | .scalar first _ => first
  | _ => ""

/-- An item begins on the line of its dash. -/
def itemLines : Block → List String
  | .scalar first rest => ("- " ++ first) :: rest.map indent
  | .items [] => ["- []"]
  | .fields [] => ["- \x7b\x7d"]
  | .items (first :: rest) => ("- " ++ first) :: rest.map indent
  | .fields (first :: rest) => ("- " ++ first) :: rest.map indent

/-- A scalar stands on the line of its key; the items of a list are not indented further. -/
def fieldLines (name : String) : Block → List String
  | .scalar first rest => (name ++ ": " ++ first) :: rest.map indent
  | .items [] => [name ++ ": []"]
  | .fields [] => [name ++ ": \x7b\x7d"]
  | .items lines => (name ++ ":") :: lines
  | .fields lines => (name ++ ":") :: lines.map indent

def blockLines : Block → List String
  | .scalar first rest => first :: rest.map indent
  | .items [] => ["[]"]
  | .fields [] => ["\x7b\x7d"]
  | .items lines => lines
  | .fields lines => lines

mutual

def block : Document → Block
  | .bool b => oneLine (if b then "true" else "false")
  | .integer n => oneLine (Numeral.signedText n)
  | .float x => oneLine (floatLayout.write x)
  | .text s => textBlock s
  | .plain s => oneLine s
  | .list items => .items (itemsBlock items)
  | .record fields => .fields (fieldsBlock fields)
  | _ => oneLine "null"

def itemsBlock : List Document → List String
  | [] => []
  | d :: ds => itemLines (block d) ++ itemsBlock ds

def fieldsBlock : List (Document × Document) → List String
  | [] => []
  | (key, d) :: fields => fieldLines (keyName key) (block d) ++ fieldsBlock fields

end

end HostMonitor.Document.Yaml

namespace HostMonitor.Document

def toYaml (d : Document) : String :=
  "\n".intercalate (Yaml.blockLines (Yaml.block d)) ++ "\n"

end HostMonitor.Document
