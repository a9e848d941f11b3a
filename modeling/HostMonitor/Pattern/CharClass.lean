import HostMonitor.Text.Blank
import HostMonitor.Text.CaseFolding
import HostMonitor.Text.WordCharacter

/-!
# Character classes

Sets of characters as patterns describe them: ranges, named sets, and what can be made of them.
-/

namespace HostMonitor

inductive CharClass where
  | none
  | range (first last : Char)
  | digit (unicode : Bool)
  | word (unicode : Bool)
  | blank (unicode : Bool)
  | negated (c : CharClass)
  | union (a b : CharClass)
  | inter (a b : CharClass)
  | diff (a b : CharClass)
  | symmDiff (a b : CharClass)
  /-- What differs in case only from a member. -/
  | anyCase (c : CharClass) (unicode : Bool)
  deriving DecidableEq, Repr

namespace CharClass

def single (c : Char) : CharClass := .range c c

/-- The blanks of ASCII, among them the vertical tab. -/
def isAsciiBlank (c : Char) : Bool :=
  c == ' ' || (9 ≤ c.toNat && c.toNat ≤ 13)

/-- The characters of which `c` is a variant in case. -/
def variants (unicode : Bool) (c : Char) : List Char :=
  if unicode then Text.caseVariants c else [c, c.toLower, c.toUpper]

def contains : CharClass → Char → Bool
  | .none, _ => false
  | .range first last, c => first ≤ c && c ≤ last
  | .digit unicode, c => if unicode then Text.isDecimalDigit c else c.isDigit
  | .word unicode, c => if unicode then Text.isWordCharacter c else Text.isAsciiWord c
  | .blank unicode, c => if unicode then Text.isBlank c else isAsciiBlank c
  | .negated a, c => !a.contains c
  | .union a b, c => a.contains c || b.contains c
  | .inter a b, c => a.contains c && b.contains c
  | .diff a b, c => a.contains c && !b.contains c
  | .symmDiff a b, c => a.contains c != b.contains c
  | .anyCase a unicode, c => a.contains c || (variants unicode c).any a.contains

def ofRanges (rs : List (Char × Char)) : CharClass :=
  rs.foldl (fun c (first, last) => .union c (.range first last)) .none

/-- The sets that may be named between `[:` and `:]`. -/
def named? : String → Option CharClass
  | "alnum" => some (ofRanges [('0', '9'), ('A', 'Z'), ('a', 'z')])
  | "alpha" => some (ofRanges [('A', 'Z'), ('a', 'z')])
  | "ascii" => some (ofRanges [('\x00', '\x7f')])
  | "blank" => some (ofRanges [('\t', '\t'), (' ', ' ')])
  | "cntrl" => some (ofRanges [('\x00', '\x1f'), ('\x7f', '\x7f')])
  | "digit" => some (ofRanges [('0', '9')])
  | "graph" => some (ofRanges [('!', '~')])
  | "lower" => some (ofRanges [('a', 'z')])
  | "print" => some (ofRanges [(' ', '~')])
  | "punct" => some (ofRanges [('!', '/'), (':', '@'), ('[', '\x60'), ('\x7b', '~')])
  | "space" => some (ofRanges [('\t', '\r'), (' ', ' ')])
  | "upper" => some (ofRanges [('A', 'Z')])
  | "word" => some (ofRanges [('0', '9'), ('A', 'Z'), ('_', '_'), ('a', 'z')])
  | "xdigit" => some (ofRanges [('0', '9'), ('A', 'F'), ('a', 'f')])
  | _ => Option.none

end CharClass

end HostMonitor
