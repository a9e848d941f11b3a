import HostMonitor.Document.YamlText

/-!
# Positions in a YAML text

A cursor knows the line and the column it is at, since indentation carries the structure, and
whether a key may begin there: at the start of a line, and after the marks that begin an item.
-/

namespace HostMonitor.Document.Yaml

open Text

structure Cursor where
  rest : List Char
  line : Nat
  column : Nat
  keyAllowed : Bool
  anchors : List (String × Document)

namespace Cursor

def start (rest : List Char) : Cursor := ⟨rest, 0, 0, true, []⟩

/-- Past one character. -/
def step (c : Cursor) : Cursor :=
  match c.rest with
  | [] => c
  | x :: rest =>
    if isBreak x then { c with rest, line := c.line + 1, column := 0 }
    else { c with rest, column := c.column + 1 }

/-- Past `n` characters of the same line. -/
def skip (c : Cursor) (n : Nat) : Cursor :=
  { c with rest := c.rest.drop n, column := c.column + n }

def withKey (c : Cursor) (allowed : Bool) : Cursor := { c with keyAllowed := allowed }

/-- Whether `mark` comes next and a gap after it. -/
def atWord (c : Cursor) (mark : String) : Bool :=
  match dropHead? mark.toList c.rest with
  | some rest => isGap rest.head?
  | none => false

/-- Whether a line that separates documents begins here. -/
def atMarker (c : Cursor) : Bool :=
  c.column = 0 && (c.atWord "---" || c.atWord "...")

/-- Whether there is nothing more in this document. -/
def atEnd (c : Cursor) : Bool :=
  c.rest.isEmpty || c.atMarker

def atDash (c : Cursor) : Bool := c.atWord "-"

def skipComment (c : Cursor) : Cursor :=
  c.skip (c.rest.takeWhile (!isBreak ·)).length

/-- Blanks at the cursor; tabs count only where they cannot be taken for indentation. -/
def skipBlanks (tabs : Bool) (c : Cursor) : Cursor :=
  c.skip (c.rest.takeWhile fun x => x == ' ' || (tabs && x == '\t')).length

def skipGapWithin (flow : Bool) : Nat → Cursor → Cursor
  | 0, c => c
  | fuel + 1, c =>
    let c := c.skipBlanks (flow || !c.keyAllowed)
    let c := if c.rest.head? = some '#' then c.skipComment else c
    match c.rest with
    | x :: _ =>
      if isBreak x then skipGapWithin flow fuel (c.step.withKey (c.keyAllowed || !flow)) else c
    | [] => c

/-- Blanks, comments and line ends, `flow` saying whether the cursor is inside brackets. -/
def skipGap (flow : Bool) (c : Cursor) : Cursor :=
  skipGapWithin flow (c.rest.length + 1) c

end Cursor

/-- What stands between two lines of a scalar: a space for one line end, or else the line ends after
the first. -/
def joined : List Char → List Char
  | [] => []
  | '\n' :: [] => [' ']
  | '\n' :: more => more
  | breaks => breaks

/-- The blanks and line ends between two parts of a scalar. -/
structure Gap where
  blanks : List Char
  breaks : List Char

/-- What stands for the gap in the value of a scalar. -/
def Gap.text (g : Gap) : List Char :=
  if g.breaks.isEmpty then g.blanks else joined g.breaks

/-- Reads a gap; `lowest` is the column that a tab at the start of a line must have reached. -/
def readGap (lowest : Int) : Nat → Gap → Cursor → Option (Gap × Cursor)
  | 0, _, _ => none
  | fuel + 1, g, c =>
    match c.rest with
    | [] => some (g, c)
    | x :: _ =>
      if isBreak x then readGap lowest fuel { g with breaks := g.breaks ++ [x] } c.step
      else if x == ' ' || x == '\t' then
        if g.breaks.isEmpty then readGap lowest fuel { g with blanks := g.blanks ++ [x] } c.step
        else if x == '\t' && c.column < lowest then none
        else readGap lowest fuel g c.step
      else some (g, c)

def isFlowMark (c : Char) : Bool := ",[]\x7b\x7d".toList.contains c

/-- A run of characters of a scalar without quotes. -/
def plainRun (flow : Bool) : List Char → Option (List Char)
  | [] => some []
  | x :: s =>
    let next := s.head?
    if isGap (some x) then some []
    else if flow && x == ':' && next.any (fun y => isFlowMark y || y == '?') then none
    else if x == ':' && isGap next then some []
    else if flow && isFlowMark x then some []
    else (plainRun flow s).map (x :: ·)

/-- A scalar without quotes and what it has so far; its further lines begin at `lowest` or further
right. The cursor is left behind the gap that follows. -/
def readPlain (flow : Bool) (lowest : Int) : Nat → List Char → Gap → Cursor →
    Option (String × Cursor)
  | 0, _, _, _ => none
  | fuel + 1, done, gap, c =>
    let stop := some (String.ofList done, c.withKey (!gap.breaks.isEmpty))
    let dedented := !flow && !gap.breaks.isEmpty && c.column < lowest
    if c.atMarker || c.rest.head? = some '#' || dedented then stop
    else do
      let run ← plainRun flow c.rest
      if run.isEmpty then stop
      else
        let c := c.skip run.length
        let done := done ++ gap.text ++ run
        let (gap, c') ← readGap lowest (c.rest.length + 1) ⟨[], []⟩ c
        if gap.blanks.isEmpty && gap.breaks.isEmpty then
          some (String.ofList done, c.withKey false)
        else readPlain flow lowest fuel done gap c'

def hexChar? (digits : List Char) (size : Nat) : Option Char :=
  if digits.length = size then Radix.char? digits else none

/-- The character after a backslash, and how many characters it takes. -/
def escaped? : List Char → Option (Char × Nat)
  | '0' :: _ => some ('\x00', 1)
  | 'a' :: _ => some ('\x07', 1)
  | 'b' :: _ => some ('\x08', 1)
  | 't' :: _ => some ('\t', 1)
  | '\t' :: _ => some ('\t', 1)
  | 'n' :: _ => some ('\n', 1)
  | 'v' :: _ => some ('\x0b', 1)
  | 'f' :: _ => some ('\x0c', 1)
  | 'r' :: _ => some ('\r', 1)
  | 'e' :: _ => some ('\x1b', 1)
  | ' ' :: _ => some (' ', 1)
  | '"' :: _ => some ('"', 1)
  | '/' :: _ => some ('/', 1)
  | '\\' :: _ => some ('\\', 1)
  | 'N' :: _ => some (Char.ofNat 0x85, 1)
  | '_' :: _ => some (Char.ofNat 0xA0, 1)
  | 'L' :: _ => some (Char.ofNat 0x2028, 1)
  | 'P' :: _ => some (Char.ofNat 0x2029, 1)
  | 'x' :: s => (hexChar? (s.take 2) 2).map (·, 3)
  | 'u' :: s => (hexChar? (s.take 4) 4).map (·, 5)
  | 'U' :: s => (hexChar? (s.take 8) 8).map (·, 9)
  | _ => none

/-- A quoted scalar after its first quote, and what it has so far. A line end after a backslash does
not count. -/
def readQuoted (mark : Char) : Nat → List Char → Cursor → Option (String × Cursor)
  | 0, _, _ => none
  | fuel + 1, done, c =>
    if c.atMarker then none
    else match c.rest with
      | [] => none
      | x :: s =>
        if isGap (some x) then do
          let (gap, c) ← readGap 0 (c.rest.length + 1) ⟨[], []⟩ c
          readQuoted mark fuel (done ++ gap.text) c
        else if x = mark then
          if mark = '\'' && s.head? = some '\'' then
            readQuoted mark fuel (done ++ ['\'']) (c.skip 2)
          else some (String.ofList done, (c.skip 1).withKey false)
        else if x = '\\' && mark = '"' then
          match s.head?.filter isBreak with
          | some _ => do
            let (gap, c) ← readGap 0 (c.rest.length + 1) ⟨[], []⟩ (c.skip 1)
            readQuoted mark fuel (done ++ gap.breaks.drop 1) c
          | none => do
            let (y, n) ← escaped? s
            readQuoted mark fuel (done ++ [y]) (c.skip (n + 1))
        else readQuoted mark fuel (done ++ [x]) (c.skip 1)

/-- How the lines of a block scalar are put together. -/
structure Header where
  folded : Bool
  /-- Whether all line ends at the end are kept, one of them, or none. -/
  keep : Option Bool
  indentation : Option Nat

/-- The marks after the first character of a block scalar. -/
def readMarks (h : Header) : Nat → Cursor → Option (Header × Cursor)
  | 0, c => some (h, c)
  | fuel + 1, c =>
    match c.rest with
    | '+' :: _ =>
      if h.keep.isNone then readMarks { h with keep := some true } fuel (c.skip 1) else none
    | '-' :: _ =>
      if h.keep.isNone then readMarks { h with keep := some false } fuel (c.skip 1) else none
    | x :: _ =>
      if x.isDigit then
        if h.indentation.isNone && x ≠ '0' then
          readMarks { h with indentation := some (x.toNat - 48) } fuel (c.skip 1)
        else none
      else some (h, c)
    | [] => some (h, c)

/-- The empty lines in front of a line of a block scalar, and the furthest column among them. With
no `indent` given, all spaces count as indentation. -/
def readEmptyLines (indent : Option Nat) : Nat → Nat → List Char → Cursor →
    Option (Nat × List Char × Cursor)
  | 0, _, _, _ => none
  | fuel + 1, furthest, breaks, c =>
    let spaces := (c.rest.takeWhile (· == ' ')).length
    let c := c.skip (match indent with
      | some n => min spaces (n - c.column)
      | none => spaces)
    let furthest := max furthest c.column
    match c.rest with
    | x :: _ =>
      if x == '\t' && indent.all (c.column < ·) then none
      else if isBreak x then readEmptyLines indent fuel furthest (breaks ++ [x]) c.step
      else some (furthest, breaks, c)
    | [] => some (furthest, breaks, c)

/-- What stands for the end of a line before the next: a line end between lines that do not begin
with a blank is folded into a space, unless empty lines follow it. -/
def lineEnd (folded blankBefore blankAfter : Bool) (lineBreak breaks : List Char) : List Char :=
  if folded && lineBreak.head? = some '\n' && !blankBefore && !blankAfter then
    (if breaks.isEmpty then [' '] else []) ++ breaks
  else lineBreak ++ breaks

/-- The lines of a block scalar from the cursor on, `lineBreak` and `breaks` being the line ends in
front of them. -/
def readBlockLines (h : Header) (indent : Nat) : Nat → List Char → Bool → List Char → List Char →
    Cursor → Option (String × Cursor)
  | 0, _, _, _, _, _ => none
  | fuel + 1, done, blankBefore, lineBreak, breaks, c =>
    if c.column = indent && !c.rest.isEmpty then
      let blank := c.rest.head?.any fun x => x == ' ' || x == '\t'
      let line := c.rest.takeWhile (!isBreak ·)
      let done := done ++ lineEnd h.folded blankBefore blank lineBreak breaks ++ line
      let c := c.skip line.length
      let lineBreak := (c.rest.head?).toList
      do
        let (_, breaks, c) ← readEmptyLines (some indent) (c.rest.length + 1) 0 [] c.step
        readBlockLines h indent fuel done blank lineBreak breaks c
    else
      let tail := match h.keep with
        | none => lineBreak
        | some true => lineBreak ++ breaks
        | some false => []
      some (String.ofList (done ++ tail), c.withKey true)

/-- A block scalar after its first character, inside what is indented by `parent`. -/
def readBlockScalar (folded : Bool) (parent : Int) (c : Cursor) : Option (String × Cursor) := do
  let (h, c) ← readMarks ⟨folded, none, none⟩ 3 c
  let c := c.skipBlanks true
  let c := if c.rest.head? = some '#' then c.skipComment else c
  if !(c.rest.head?.all isBreak) then none
  let c := c.step
  let fixed := h.indentation.map fun n => if 0 ≤ parent then parent.toNat + n else n
  let (furthest, breaks, c) ← readEmptyLines fixed (c.rest.length + 1) 0 [] c
  let indent := fixed.getD (max furthest (max (parent + 1).toNat 1))
  readBlockLines h indent (c.rest.length + 2) [] false [] breaks c

end HostMonitor.Document.Yaml
