import HostMonitor.Binary64.Reading
import HostMonitor.Document.Basic
import HostMonitor.Text.Numeral
import HostMonitor.Text.Radix

/-!
# Reading TOML

A text is a sequence of tables, each with a header and lines `key = value`; the lines before the
first header belong to the whole. Readers take the text from a point on and hand back the value and
what follows it. A date or time is read, but stands for nothing that can be represented.
-/

namespace HostMonitor.Document.Toml

open Text Text.Numeral

/-- One line feed for each carriage return with a line feed. -/
def foldReturns : List Char → List Char
  | '\r' :: '\n' :: s => '\n' :: foldReturns s
  | c :: s => c :: foldReturns s
  | [] => []

def isSpace (c : Char) : Bool := c == ' ' || c == '\t'

def skipSpaces (s : List Char) : List Char := s.dropWhile isSpace

def isBareKey (c : Char) : Bool := c.isAlphanum || c == '_' || c == '-'

def isCommentChar (c : Char) : Bool := c == '\t' || 0x20 ≤ c.toNat

/-- Blanks and a comment. -/
def skipRest (s : List Char) : List Char :=
  match skipSpaces s with
  | '#' :: s => s.dropWhile isCommentChar
  | s => s

/-- The end of a line, which may be the end of the text. -/
def endLine (s : List Char) : Option (List Char) :=
  match skipRest s with
  | [] => some []
  | '\n' :: s => some s
  | _ => none

/-- Blank lines and comments. -/
def skipLines : Nat → List Char → List Char
  | 0, s => s
  | fuel + 1, s =>
    match skipRest s with
    | '\n' :: s => skipLines fuel s
    | s => s

def isStringChar (c : Char) : Bool :=
  c == '\t' || (0x20 ≤ c.toNat && c.toNat != 0x7F)

def hexChar? (size : Nat) (s : List Char) : Option (Char × List Char) :=
  if s.length < size then none else (Radix.char? (s.take size)).map (·, s.drop size)

def isBlankOrFeed (c : Char) : Bool := isSpace c || c == '\n'

/-- What stands for the text after a backslash: one character, or none for blanks around a line
feed. -/
def readEscape (broken : Bool) : List Char → Option (List Char × List Char)
  | '"' :: s => some (['"'], s)
  | '\\' :: s => some (['\\'], s)
  | 'b' :: s => some (['\x08'], s)
  | 'f' :: s => some (['\x0c'], s)
  | 'n' :: s => some (['\n'], s)
  | 'r' :: s => some (['\r'], s)
  | 't' :: s => some (['\t'], s)
  | 'u' :: s => (hexChar? 4 s).map fun (c, s) => ([c], s)
  | 'U' :: s => (hexChar? 8 s).map fun (c, s) => ([c], s)
  | c :: s =>
    if broken && isBlankOrFeed c then
      match (c :: s).dropWhile isSpace with
      | '\n' :: s => some ([], s.dropWhile isBlankOrFeed)
      | [] => some ([], [])
      | _ => none
    else none
  | [] => none

/-- The number of quotes in front, at most `limit`. -/
def quotes (mark : Char) : Nat → List Char → Nat
  | 0, _ => 0
  | limit + 1, c :: s => if c = mark then quotes mark limit s + 1 else 0
  | _, [] => 0

/-- A text up to its closing quotes, what has been read of it in reverse. Where it may be `broken`
into lines, three quotes close it, and up to two more belong to it. -/
def readText (mark : Char) (broken : Bool) : Nat → List Char → List Char →
    Option (String × List Char)
  | 0, _, _ => none
  | _, _, [] => none
  | fuel + 1, done, c :: s =>
    if c = mark then
      if !broken then some (String.ofList done.reverse, s)
      else
        let n := quotes mark 5 (c :: s)
        if n < 3 then readText mark broken fuel (List.replicate n mark ++ done) (s.drop (n - 1))
        else
          some (String.ofList (List.replicate (n - 3) mark ++ done).reverse, s.drop (n - 1))
    else if c = '\n' then
      if broken then readText mark broken fuel ('\n' :: done) s else none
    else if c = '\\' && mark = '"' then do
      let (cs, s) ← readEscape broken s
      readText mark broken fuel (cs ++ done) s
    else if isStringChar c then readText mark broken fuel (c :: done) s
    else none

/-- A text after its first quote; whether it may be broken into lines comes with it. -/
def readQuoted (mark : Char) (s : List Char) : Option (String × Bool × List Char) :=
  match quotes mark 2 s with
  | 0 => (readText mark false (s.length + 1) [] s).map fun (t, s) => (t, false, s)
  | 1 => some ("", false, s.drop 1)
  | _ =>
    let s := s.drop 2
    let s := match s with
      | '\n' :: s => s
      | s => s
    (readText mark true (s.length + 1) [] s).map fun (t, s) => (t, true, s)

def readKey (s : List Char) : Option (String × List Char) :=
  match s with
  | '"' :: s => do
    let (t, broken, s) ← readQuoted '"' s
    if broken then none else some (t, s)
  | '\'' :: s => do
    let (t, broken, s) ← readQuoted '\'' s
    if broken then none else some (t, s)
  | s =>
    let key := s.takeWhile isBareKey
    if key.isEmpty then none else some (String.ofList key, s.dropWhile isBareKey)

/-- Keys with points between them. -/
def readPath : Nat → List Char → Option (List String × List Char)
  | 0, _ => none
  | fuel + 1, s => do
    let (key, s) ← readKey (skipSpaces s)
    match skipSpaces s with
    | '.' :: s => do
      let (keys, s) ← readPath fuel s
      return (key :: keys, s)
    | s => return ([key], s)

/-- Digits to a base with single underscores between them. -/
def isDigitRun (base : Nat) (s : List Char) : Bool :=
  (splitAt '_' s).all fun piece => (Radix.number? base piece).isSome

def withoutMarks (s : List Char) : List Char := s.filter (· != '_')

def dropSign : List Char → List Char
  | '-' :: s => s
  | '+' :: s => s
  | s => s

/-- No zero in front of other digits. -/
def isPlainRun (s : List Char) : Bool :=
  isDigitRun 10 s && !(s.head? = some '0' && 1 < s.length)

def wordOf (base : Nat) (s : List Char) : Option Document :=
  if isDigitRun base s then
    (Radix.number? base (withoutMarks s)).bind fun n =>
      if n < 1 <<< 63 then some (.integer n) else none
  else none

def decimal? (s : List Char) : Option Document :=
  if isPlainRun (dropSign s) then
    (signed? (1 <<< 63) (withoutMarks s)).map .integer
  else none

/-- A finite number from its parts. -/
def float? (whole fraction exponent : List Char) : Option Document :=
  let text := withoutMarks (whole ++ fraction ++ exponent)
  ((Binary64.read? text).filter Float.isFinite).map .float

def isExponentMark (c : Char) : Bool := c == 'e' || c == 'E'

/-- A power of ten after its mark; a plus sign separates it from the mark. -/
def readExponent (rest s : List Char) : Option (List Char × List Char) :=
  match rest with
  | [] =>
    let s := match s with
      | '+' :: s => s
      | s => s
    let digits := s.takeWhile isBareKey
    if isDigitRun 10 digits then some ('e' :: digits, s.dropWhile isBareKey) else none
  | rest => if isDigitRun 10 (dropSign rest) then some ('e' :: rest, s) else none

/-- A number with a fraction or an exponent: `whole` and `tail` are its characters before the point
and after it, or before and from the exponent mark on. -/
def readFloat (whole fraction tail s : List Char) : Option (Document × List Char) :=
  if !isPlainRun (dropSign whole) then none
  else match tail with
    | [] => (float? whole fraction []).map (·, s)
    | _ :: rest => do
      let (exponent, s) ← readExponent rest s
      (float? whole fraction exponent).map (·, s)

/-- A number of which `run` is the first run of key characters. -/
def readNumber (run s : List Char) : Option (Document × List Char) :=
  match run with
  | '0' :: 'x' :: digits => (wordOf 16 digits).map (·, s)
  | '0' :: 'o' :: digits => (wordOf 8 digits).map (·, s)
  | '0' :: 'b' :: digits => (wordOf 2 digits).map (·, s)
  | run =>
    if run.any isExponentMark then
      readFloat (run.takeWhile (!isExponentMark ·)) [] (run.dropWhile (!isExponentMark ·)) s
    else match s with
      | '.' :: s =>
        let after := s.takeWhile isBareKey
        let digits := after.takeWhile (!isExponentMark ·)
        if isDigitRun 10 digits then
          readFloat run ('.' :: digits) (after.dropWhile (!isExponentMark ·))
            (s.dropWhile isBareKey)
        else none
      | s =>
        if run = "inf".toList then some (.float (Binary64.infinity false), s)
        else if run = "-inf".toList then some (.float (Binary64.infinity true), s)
        else if run = "nan".toList || run = "-nan".toList then some (.float Binary64.nan, s)
        else (decimal? run).map (·, s)

def dropRun (s : List Char) : Option (List Char) :=
  if (s.head?.map isBareKey).getD false then some (s.dropWhile isBareKey) else none

/-- A run of key characters after `mark`, if `mark` comes next. -/
def optionalRun (mark : Char) (s : List Char) : Option (List Char) :=
  match s with
  | c :: rest => if c = mark then dropRun rest else some (c :: rest)
  | [] => some []

/-- The rest of a time after its hour and a colon. -/
def readTime (s : List Char) : Option (Document × List Char) := do
  let s ← dropRun s
  match s with
  | ':' :: s => do
    let s ← dropRun s
    let s ← optionalRun '.' s
    let s ← optionalRun '+' s
    let s ← optionalRun ':' s
    return (.unrepresentable, s)
  | _ => none

/-- The rest of a date; a space may separate it from a time. -/
def readDate (s : List Char) : Option (Document × List Char) :=
  let s := match s with
    | ' ' :: rest => (dropRun rest).getD s
    | s => s
  match s with
  | ':' :: rest => readTime rest
  | s => some (.unrepresentable, s)

def contains2 (a b : Char) : List Char → Bool
  | x :: y :: s => (x == a && y == b) || contains2 a b (y :: s)
  | _ => false

def looksLikeDate (run : List Char) : Bool :=
  run.contains 'T' || run.contains 't' ||
    (run.tail.contains '-' && !contains2 'e' '-' run && !contains2 'E' '-' run)

/-- A value that is no text and stands in no brackets. -/
def readBare (s : List Char) : Option (Document × List Char) :=
  let run := s.takeWhile isBareKey
  let rest := s.dropWhile isBareKey
  if run = "true".toList then some (.bool true, rest)
  else if run = "false".toList then some (.bool false, rest)
  else if run = "inf".toList || run = "nan".toList then readNumber run rest
  else match run with
    | [] => none
    | c :: _ =>
      if c ≠ '-' && !isDigit c then none
      else if looksLikeDate run then readDate rest
      else match rest with
        | ':' :: rest => readTime rest
        | rest => readNumber run rest

/-- What stands under a key: a value, or a table that dotted keys have opened and may extend. -/
inductive Entry where
  | value (d : Document)
  | opened (entries : List (String × Entry))

abbrev Entries := List (String × Entry)

/-- Replaces the first entry of that key. -/
def replaceFirst (key : String) (e : Entry) : Entries → Entries
  | [] => []
  | (k, x) :: rest => if k = key then (k, e) :: rest else (k, x) :: replaceFirst key e rest

/-- Puts a value at the end of a path of keys. A value cannot be extended. -/
def putPath (d : Document) : List String → Entries → Option Entries
  | [], _ => none
  | [key], entries => some (entries ++ [(key, .value d)])
  | key :: rest, entries =>
    match entries.find? (·.1 == key) with
    | some (_, .opened inner) =>
      (putPath d rest inner).map fun inner => replaceFirst key (.opened inner) entries
    | some (_, .value _) => none
    | none => (putPath d rest []).map fun inner => entries ++ [(key, .opened inner)]

mutual

def Entry.document : Entry → Document
  | .value d => d
  | .opened entries => .record (fieldsOf entries)

def fieldsOf : List (String × Entry) → List (Document × Document)
  | [] => []
  | (key, e) :: rest => (.text key, e.document) :: fieldsOf rest

end

mutual

def readValue : Nat → List Char → Option (Document × List Char)
  | 0, _ => none
  | fuel + 1, s =>
    match s with
    | '"' :: s => (readQuoted '"' s).map fun (t, _, s) => (.text t, s)
    | '\'' :: s => (readQuoted '\'' s).map fun (t, _, s) => (.text t, s)
    | '[' :: s => readItems fuel [] (skipLines (s.length + 1) s)
    | '{' :: s =>
      match skipSpaces s with
      | '}' :: s => some (.record [], s)
      | s => readFields fuel [] s
    | '+' :: s => readNumber (s.takeWhile isBareKey) (s.dropWhile isBareKey)
    | s => readBare s

/-- Items up to the closing bracket, those so far in reverse. -/
def readItems : Nat → List Document → List Char → Option (Document × List Char)
  | 0, _, _ => none
  | fuel + 1, items, s =>
    match s with
    | ']' :: s => some (.list items.reverse, s)
    | s => do
      let (d, s) ← readValue fuel s
      match skipLines (s.length + 1) s with
      | ',' :: s => readItems fuel (d :: items) (skipLines (s.length + 1) s)
      | ']' :: s => some (.list (d :: items).reverse, s)
      | _ => none

/-- Fields up to the closing brace, after those so far. -/
def readFields : Nat → Entries → List Char → Option (Document × List Char)
  | 0, _, _ => none
  | fuel + 1, entries, s => do
    let (path, s) ← readPath (s.length + 1) s
    match s with
    | '=' :: s => do
      let (d, s) ← readValue fuel (skipSpaces s)
      let entries ← putPath d path entries
      match skipSpaces s with
      | '}' :: s => some (.record (fieldsOf entries), s)
      | ',' :: s => readFields fuel entries s
      | _ => none
    | _ => none

end

/-- A table, or one of several under the same header. -/
structure Table where
  path : List String
  repeated : Bool
  entries : Entries

/-- A header after its first bracket. -/
def readHeader (s : List Char) : Option (Table × List Char) :=
  let (repeated, s) := match s with
    | '[' :: s => (true, s)
    | s => (false, s)
  (readPath (s.length + 1) s).bind fun (path, s) =>
    match repeated, s with
    | false, ']' :: s => (endLine s).map (⟨path, false, []⟩, ·)
    | true, ']' :: ']' :: s => (endLine s).map (⟨path, true, []⟩, ·)
    | _, _ => none

/-- The tables of a text, `current` being the one that its next lines belong to. -/
def readTables : Nat → Table → List Char → Option (List Table)
  | 0, _, _ => none
  | fuel + 1, current, s =>
    match skipLines (s.length + 1) s with
    | [] => some [current]
    | '[' :: s => do
      let (next, s) ← readHeader s
      let tables ← readTables fuel next s
      return current :: tables
    | s => do
      let (path, s) ← readPath (s.length + 1) s
      match s with
      | '=' :: s => do
        let (d, s) ← readValue (2 * s.length + 2) (skipSpaces s)
        let entries ← putPath d path current.entries
        let s ← endLine s
        readTables fuel { current with entries } s
      | _ => none

/-- The first keys of the paths, each once. -/
def firstKeys : List Table → List String
  | [] => []
  | t :: ts =>
    match t.path.head? with
    | none => firstKeys ts
    | some key => key :: (firstKeys ts).filter (· != key)

/-- The tables under a key, with the rest of their paths. -/
def below (key : String) (ts : List Table) : List Table :=
  ts.filterMap fun t =>
    match t.path with
    | k :: rest => if k = key then some { t with path := rest } else none
    | [] => none

def isElement (t : Table) : Bool := t.repeated && t.path.isEmpty

/-- The tables cut in front of each that begins an element. -/
def elements : List Table → List (List Table)
  | [] => []
  | t :: ts =>
    match elements ts with
    | [] => [[t]]
    | g :: gs =>
      match ts with
      | next :: _ => if isElement next then [t] :: g :: gs else (t :: g) :: gs
      | [] => (t :: g) :: gs

/-- One record of tables whose paths begin there. No two of them have the same path, unless they are
the elements of a list. -/
def assemble : Nat → List Table → Option Document
  | 0, _ => none
  | fuel + 1, ts => do
    let own := ts.filter (·.path.isEmpty)
    if 1 < own.length then none
    let inner ← (firstKeys ts).mapM fun key => do
      let group := below key ts
      let d ←
        if group.any isElement then
          if (group.filter (·.path.isEmpty)).all isElement && (group.head?.any isElement) then
            ((elements group).mapM (assemble fuel)).map .list
          else none
        else assemble fuel group
      return (Document.text key, d)
    return .record (fieldsOf (own.flatMap (·.entries)) ++ inner)

def depth (ts : List Table) : Nat :=
  ts.foldl (fun n t => max n t.path.length) 0

def dropMark : List Char → List Char
  | c :: s => if c.toNat = 0xFEFF then s else c :: s
  | [] => []

end HostMonitor.Document.Toml

namespace HostMonitor.Document

/-- The record that a TOML text holds. -/
def ofToml? (text : String) : Option Document := do
  let s := Toml.foldReturns (Toml.dropMark text.toList)
  let tables ← Toml.readTables (s.length + 2) ⟨[], false, []⟩ s
  Toml.assemble (Toml.depth tables + 1) tables

end HostMonitor.Document
