import HostMonitor.Word

/-!
# Lists of cpu and node ids

The text forms of a set of ids: `3`, `0,2`, `0-3,8-11`, `all`, and a leading `!` that takes the rest
out of a configured set. `parse` reads a text against that set, `format` writes a set as its maximal
runs, unless the largest word is in it.
-/

namespace HostMonitor.CpuList

open Text

/-- Why a text is no list; `text` is the list without the marks in front of it. -/
inductive ParseError where
  | empty
  | emptyElement (text : String)
  | invalidId (token text : String)
  | descending (range text : String)
  | outOfRange (id : Nat) (text : String)
  deriving DecidableEq, Repr

def ParseError.message : ParseError → String
  | .empty => "empty list"
  | .emptyElement text => "empty element in list '" ++ text ++ "'"
  | .invalidId token text => "invalid id '" ++ token ++ "' in list '" ++ text ++ "'"
  | .descending range text => "descending range '" ++ range ++ "' in list '" ++ text ++ "'"
  | .outOfRange id text =>
    "id " ++ Numeral.text id ++ " out of range in list '" ++ text ++ "'"

/-- Keeps one of each run of equal neighbours. -/
def dropRepeats : List Nat → List Nat
  | [] => []
  | [a] => [a]
  | a :: b :: rest => if a = b then dropRepeats (b :: rest) else a :: dropRepeats (b :: rest)

/-- The members of `ids`, each once, in ascending order. -/
def ascending (ids : List Nat) : List Nat :=
  dropRepeats (ids.mergeSort (· ≤ ·))

/-- `ids` without the members of `blacklist`, in the same order. -/
def without (ids blacklist : List Nat) : List Nat :=
  ids.filter (!blacklist.contains ·)

/-- The ids from `first` to `last`. -/
structure Span where
  first : Nat
  last : Nat
  deriving DecidableEq, Repr

def Span.size (s : Span) : Nat :=
  s.last + 1 - s.first

def Span.ids (s : Span) : List Nat :=
  List.range' s.first s.size

/-- The first of `count` ids from `id` on that is not configured. -/
def firstOutside (configured : List Nat) : Nat → Nat → Option Nat
  | 0, _ => none
  | count + 1, id =>
    if configured.contains id then firstOutside configured count (id + 1) else some id

/-- An empty configured set admits every id. -/
def Span.outside? (configured : List Nat) (s : Span) : Option Nat :=
  if configured.isEmpty then none else firstOutside configured s.size s.first

def parseId (text token : List Char) : Except ParseError Nat :=
  match Numeral.word? (trim token) with
  | some id => .ok id
  | none => .error (.invalidId (String.ofList token) (String.ofList text))

/-- One element of the list: an id, or two ids around the first dash. -/
def parseSpan (text token : List Char) : Except ParseError Span :=
  match cut '-' token with
  | some (a, b) => do
    let first ← parseId text a
    let last ← parseId text b
    return ⟨first, last⟩
  | none => do
    let id ← parseId text token
    return ⟨id, id⟩

def parseElement (configured : List Nat) (text token : List Char) :
    Except ParseError (List Nat) :=
  let token := trim token
  if token.isEmpty then .error (.emptyElement (String.ofList text))
  else do
    let span ← parseSpan text token
    if span.last < span.first then
      .error (.descending (String.ofList token) (String.ofList text))
    else match span.outside? configured with
      | some id => .error (.outOfRange id (String.ofList text))
      | none => .ok span.ids

/-- The ids of the elements in turn, up to the first fault. -/
def parseElements (configured : List Nat) (text : List Char) :
    List (List Char) → Except ParseError (List Nat)
  | [] => .ok []
  | token :: rest => do
    let ids ← parseElement configured text token
    let more ← parseElements configured text rest
    return ids ++ more

/-- A trimmed text without marks in front of it. -/
def parsePlain (configured : List Nat) (text : List Char) : Except ParseError (List Nat) :=
  if text.isEmpty then .error .empty
  else if asciiLower text = "all".toList then .ok (ascending configured)
  else (parseElements configured text (splitAt ',' text)).map ascending

/-- The number of `!` in front of a text, blanks between them allowed, and the text after them. -/
def marks : List Char → Nat × List Char
  | [] => (0, [])
  | c :: s =>
    if c = '!' then let (n, rest) := marks s; (n + 1, rest)
    else if isBlank c then marks s
    else (0, c :: s)

def complement (configured ids : List Nat) : List Nat :=
  ascending (without configured ids)

/-- Each mark takes what follows it out of the configured set. -/
def complemented (configured : List Nat) (ids : List Nat) : Nat → List Nat
  | 0 => ids
  | n + 1 => complement configured (complemented configured ids n)

def parseChars (configured : List Nat) (s : List Char) : Except ParseError (List Nat) :=
  let (n, text) := marks (trimRight s)
  (parsePlain configured text).map fun ids => complemented configured ids n

def parse (text : String) (configured : List Nat) : Except ParseError (List Nat) :=
  parseChars configured text.toList

/-- The maximal runs of an ascending list that goes on after the run from `first` to `last`. The
word after `last` is formed to see whether it comes next, and at the end of the list too, where
nothing does. -/
def runsFrom (first last : Nat) : List Nat → Except Overflow (List Span)
  | [] => do
    let _ ← Word.next last
    return [⟨first, last⟩]
  | id :: rest => do
    let next ← Word.next last
    if id = next then runsFrom first next rest
    else return ⟨first, last⟩ :: (← runsFrom id id rest)

def runs : List Nat → Except Overflow (List Span)
  | [] => .ok []
  | id :: rest => runsFrom id id rest

def Span.chars (s : Span) : List Char :=
  if s.first = s.last then Numeral.digits s.first
  else Numeral.digits s.first ++ '-' :: Numeral.digits s.last

def spansChars (spans : List Span) : List Char :=
  joinWith ',' (spans.map Span.chars)

def format (ids : List Nat) : Except Overflow String := do
  let spans ← runs (ascending ids)
  return String.ofList (spansChars spans)

end HostMonitor.CpuList
