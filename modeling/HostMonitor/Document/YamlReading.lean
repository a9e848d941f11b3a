import HostMonitor.Document.YamlCursor

/-!
# Reading YAML

One document in block or flow style. Every reader takes a cursor and hands back what it has read and
the cursor behind it. `parent` is the column of the collection around a node, or `-1`; what belongs
to that collection stands further right.
-/

namespace HostMonitor.Document.Yaml

open Text

def nothing : Document := .plain ""

def isNameChar (c : Char) : Bool := c.isAlphanum || c == '_' || c == '-'

def endsName (c : Option Char) : Bool :=
  isGap c || c.any ("?:,]\x7d%@\x60".toList.contains ·)

/-- The name of an anchor, after its mark. -/
def readName (c : Cursor) : Option (String × Cursor) :=
  let name := c.rest.takeWhile isNameChar
  let c := c.skip name.length
  if name.isEmpty || !endsName c.rest.head? then none else some (String.ofList name, c)

/-- A tag after its mark. Tags of named families are not known. -/
def readTag (flow : Bool) (c : Cursor) : Option Cursor :=
  let tag := c.rest.takeWhile fun x => !isGap (some x) && !(flow && isFlowMark x)
  let inner := match tag with
    | '!' :: rest => rest
    | '<' :: _ => []
    | rest => rest
  if inner.contains '!' then none else some (c.skip tag.length)

/-- The marks in front of a node: its name, and whether it has a tag. -/
structure Properties where
  anchor : Option String := none
  tagged : Bool := false

def Properties.isEmpty (p : Properties) : Bool := p.anchor.isNone && !p.tagged

/-- Reads marks; those of a node stand on one line, or on lines before it. -/
def readProperties (flow : Bool) (p : Properties) : Nat → Cursor → Option (Properties × Cursor)
  | 0, c => some (p, c)
  | fuel + 1, c =>
    match c.rest.head? with
    | some '&' =>
      if p.anchor.isSome then none
      else do
        let (name, c) ← readName (c.skip 1)
        readProperties flow { p with anchor := some name } fuel ((c.withKey false).skipGap flow)
    | some '!' =>
      if p.tagged then none
      else do
        let c ← readTag flow (c.skip 1)
        readProperties flow { p with tagged := true } fuel ((c.withKey false).skipGap flow)
    | _ => some (p, c)

/-- A tag keeps a scalar from standing for nothing. -/
def Properties.apply (p : Properties) (d : Document) : Document :=
  match d with
  | .plain s => if p.tagged && Plain.isNull s then .text s else d
  | d => d

def Properties.bind (p : Properties) (d : Document) (c : Cursor) : Document × Cursor :=
  let d := p.apply d
  match p.anchor with
  | none => (d, c)
  | some name => (d, { c with anchors := (name, d) :: c.anchors })

def lookup? (c : Cursor) (name : String) : Option Document :=
  (c.anchors.find? (·.1 == name)).map (·.2)

/-- Characters that cannot begin a scalar without quotes. -/
def isMark (c : Char) : Bool := "-?:,[]\x7b\x7d#&*!|>'\"%@\x60".toList.contains c

def beginsPlain (flow : Bool) (s : List Char) : Bool :=
  match s with
  | [] => false
  | c :: rest =>
    !isGap (some c) && (!isMark c || (c == '-' && !isGap rest.head?) ||
      (!flow && (c == '?' || c == ':') && !isGap rest.head?))

/-- Whether the colon of a key comes next on the line `line`. -/
def atColon (flow : Bool) (line : Nat) (c : Cursor) : Bool :=
  c.line = line && (if flow then c.rest.head? = some ':' else c.atWord ":")

mutual

/-- A scalar, an alias, or a collection in brackets, and the blanks behind it. -/
def readAtom : Nat → Bool → Int → Cursor → Option (Document × Cursor)
  | 0, _, _, _ => none
  | fuel + 1, flow, parent, c =>
    let size := c.rest.length + 1
    match c.rest with
    | '"' :: _ =>
      (readQuoted '"' size [] (c.skip 1)).map fun (s, c) => (.text s, c.skipBlanks true)
    | '\'' :: _ =>
      (readQuoted '\'' size [] (c.skip 1)).map fun (s, c) => (.text s, c.skipBlanks true)
    | '*' :: _ => do
      let (name, c) ← readName (c.skip 1)
      let d ← lookup? c name
      return (d, (c.withKey false).skipBlanks true)
    | '[' :: _ => do
      let (d, c) ← readItems fuel parent [] (c.skip 1)
      return (d, (c.withKey false).skipBlanks true)
    | '{' :: _ => do
      let (d, c) ← readFields fuel parent [] (c.skip 1)
      return (d, (c.withKey false).skipBlanks true)
    | s =>
      if beginsPlain flow s then
        (readPlain flow (parent + 1) size [] ⟨[], []⟩ c).map fun (s, c) => (.plain s, c)
      else none

/-- A node in brackets. -/
def readFlow : Nat → Int → Cursor → Option (Document × Cursor)
  | 0, _, _ => none
  | fuel + 1, parent, c => do
    let (p, c) ← readProperties true {} 3 c
    let ended := c.rest.head?.any fun x => x == ',' || x == ']' || x == '}' || x == ':'
    if !p.isEmpty && ended then return p.bind nothing c
    else do
      let (d, c) ← readAtom fuel true parent c
      return p.bind d c

/-- The value after the colon of a key in brackets. -/
def readFlowValue : Nat → Int → Cursor → Option (Document × Cursor)
  | 0, _, _ => none
  | fuel + 1, parent, c =>
    let c := (c.skip 1).skipGap true
    if c.rest.head?.any fun x => x == ',' || x == ']' || x == '}' then some (nothing, c)
    else readFlow fuel parent c

/-- Items up to the closing bracket, those so far in reverse. A key with a value is an item too. -/
def readItems : Nat → Int → List Document → Cursor → Option (Document × Cursor)
  | 0, _, _, _ => none
  | fuel + 1, parent, items, c =>
    let c := c.skipGap true
    if c.atMarker then none
    else if c.rest.head? = some ']' then some (.list items.reverse, c.skip 1)
    else do
      let (d, c') ← readFlow fuel parent c
      let (d, c') ←
        if atColon true c.line c' then
          (readFlowValue fuel parent c').map fun (v, c') => (.record [(d, v)], c')
        else some (d, c')
      let c := c'.skipGap true
      match c.rest.head? with
      | some ',' => readItems fuel parent (d :: items) (c.skip 1)
      | some ']' => some (.list (d :: items).reverse, c.skip 1)
      | _ => none

/-- Fields up to the closing brace, those so far in reverse. A key alone has nothing for a value. -/
def readFields : Nat → Int → List (Document × Document) → Cursor → Option (Document × Cursor)
  | 0, _, _, _ => none
  | fuel + 1, parent, fields, c =>
    let c := c.skipGap true
    if c.atMarker then none
    else if c.rest.head? = some '}' then some (.record fields.reverse, c.skip 1)
    else do
      let (key, c') ← readFlow fuel parent c
      let (value, c') ←
        if atColon true c.line c' then readFlowValue fuel parent c' else some (nothing, c')
      let c := c'.skipGap true
      match c.rest.head? with
      | some ',' => readFields fuel parent ((key, value) :: fields) (c.skip 1)
      | some '}' => some (.record ((key, value) :: fields).reverse, c.skip 1)
      | _ => none

/-- A node in block style at the cursor, which is at a character. -/
def readBlock : Nat → Int → Cursor → Option (Document × Cursor)
  | 0, _, _ => none
  | fuel + 1, parent, c =>
    if c.atDash then
      if c.keyAllowed then readDashes fuel false c.column [] c else none
    else if c.atWord "?" then
      if c.keyAllowed then readQuestion fuel c.column [] c else none
    else match c.rest with
      | '|' :: _ =>
        (readBlockScalar false parent (c.skip 1)).map fun (s, c) => (.text s, c)
      | '>' :: _ =>
        (readBlockScalar true parent (c.skip 1)).map fun (s, c) => (.text s, c)
      | _ => do
        let (p, c') ← readProperties false {} 3 c
        if c'.line ≠ c.line || c'.rest.isEmpty then
          -- The marks belong to what the next line holds, if it is further right.
          let (d, c') ←
            if c'.atEnd || c'.column ≤ parent then some (nothing, c')
            else readBlock fuel parent c'
          return p.bind d c'
        else if !p.isEmpty && (c'.rest.head? = some '|' || c'.rest.head? = some '>') then do
          let (d, c') ← readBlock fuel parent c'
          return p.bind d c'
        else do
          let (d, c') ← readAtom fuel false parent c'
          if atColon false c.line c' then
            if c.keyAllowed then
              let (key, c') := p.bind d c'
              readKeyed fuel c.column [] key c'
            else none
          else return p.bind d c'

/-- The items behind dashes at `column`, from a dash on; those so far in reverse. The items of a
list that is the value of a key may stand in the column of that key. -/
def readDashes : Nat → Bool → Nat → List Document → Cursor → Option (Document × Cursor)
  | 0, _, _, _, _ => none
  | fuel + 1, flush, column, items, c => do
    let inner := ((c.skip 1).withKey true).skipGap false
    let (d, c) ←
      if inner.atEnd || (inner.line ≠ c.line && inner.column ≤ column) then some (nothing, inner)
      else readBlock fuel column inner
    let c := c.skipGap false
    if c.atEnd || c.column < column then return (.list (d :: items).reverse, c)
    else if c.column = column && c.keyAllowed && c.atDash then
      readDashes fuel flush column (d :: items) c
    else if c.column = column && flush then return (.list (d :: items).reverse, c)
    else none

/-- The value of a key of a record at `column`, after its colon on the line `line`. -/
def readFieldValue : Nat → Nat → Nat → Cursor → Option (Document × Cursor)
  | 0, _, _, _ => none
  | fuel + 1, column, line, c =>
    let c := c.skipGap false
    if c.atEnd then some (nothing, c)
    else if c.line = line || column < c.column then readBlock fuel column c
    else if c.column = column && c.atDash && c.keyAllowed then readDashes fuel true column [] c
    else some (nothing, c)

/-- The fields of a record at `column`, from the colon of `key` on; those so far in reverse. -/
def readKeyed : Nat → Nat → List (Document × Document) → Document → Cursor →
    Option (Document × Cursor)
  | 0, _, _, _, _ => none
  | fuel + 1, column, fields, key, c => do
    let (value, c) ← readFieldValue fuel column c.line ((c.skip 1).withKey false)
    readMore fuel column ((key, value) :: fields) (c.skipGap false)

/-- The fields of a record at `column`, from a question mark on. -/
def readQuestion : Nat → Nat → List (Document × Document) → Cursor → Option (Document × Cursor)
  | 0, _, _, _ => none
  | fuel + 1, column, fields, c => do
    let inner := ((c.skip 1).withKey true).skipGap false
    let (key, c) ←
      if inner.atEnd || (inner.line ≠ c.line && inner.column ≤ column) then some (nothing, inner)
      else readBlock fuel column inner
    let c := c.skipGap false
    if !c.atEnd && c.column = column && c.atWord ":" then
      let (value, c) ← readFieldValue fuel column c.line ((c.skip 1).withKey true)
      readMore fuel column ((key, value) :: fields) (c.skipGap false)
    else readMore fuel column ((key, nothing) :: fields) c

/-- What follows a field of a record at `column`: another one, or the end of the record. -/
def readMore : Nat → Nat → List (Document × Document) → Cursor → Option (Document × Cursor)
  | 0, _, _, _ => none
  | fuel + 1, column, fields, c =>
    if c.atEnd || c.column < column then some (.record fields.reverse, c)
    else if c.column ≠ column || !c.keyAllowed || c.atDash then none
    else if c.atWord "?" then readQuestion fuel column fields c
    else do
      let (p, c') ← readProperties false {} 3 c
      let (d, c') ← readAtom fuel false column c'
      if atColon false c.line c' then
        let (key, c') := p.bind d c'
        readKeyed fuel column fields key c'
      else none

end

def isLegal (c : Char) : Bool :=
  c == '\t' || isShown c || 0x10000 ≤ c.toNat

/-- One line feed for each line end but the two kinds of separators. -/
def normalized : List Char → List Char
  | '\r' :: '\n' :: s => '\n' :: normalized s
  | c :: s =>
    (if c = '\r' || c.toNat = 0x85 then '\n' else c) :: normalized s
  | [] => []

def dropMark : List Char → List Char
  | c :: s => if c.toNat = 0xFEFF then s else c :: s
  | [] => []

/-- Skips the lines in front of a document that begin with a percent sign; there are none unless the
document is marked. -/
def skipDirectives : Nat → Cursor → Option Cursor
  | 0, _ => none
  | fuel + 1, c =>
    let c := c.skipGap false
    if c.column = 0 && c.rest.head? = some '%' then
      if startsWith "%YAML 1.".toList c.rest || startsWith "%TAG ".toList c.rest then do
        let c ← skipDirectives fuel (c.skipComment.skipGap false)
        if c.atWord "---" then some c else none
      else none
    else some c

/-- After the document only marks of its end may follow. -/
def isFinished : Nat → Cursor → Bool
  | 0, _ => false
  | fuel + 1, c =>
    let c := c.skipGap false
    if c.rest.isEmpty then true
    else if c.atMarker && c.atWord "..." then isFinished fuel ((c.skip 3).withKey false)
    else false

def readDocument (s : List Char) : Option Document := do
  let size := 6 * s.length + 12
  let c ← skipDirectives (s.length + 1) (Cursor.start s)
  let c := if c.atMarker && c.atWord "---" then ((c.skip 3).withKey false).skipGap false else c
  let (d, c) ← if c.atEnd then some (nothing, c) else readBlock size (-1) c
  if isFinished (s.length + 1) c then some d else none

end HostMonitor.Document.Yaml

namespace HostMonitor.Document

/-- The document that a YAML text holds; an empty one holds an empty scalar. -/
def ofYaml? (text : String) : Option Document :=
  let s := Yaml.normalized (Yaml.dropMark text.toList)
  if s.all Yaml.isLegal then Yaml.readDocument s else none

end HostMonitor.Document
