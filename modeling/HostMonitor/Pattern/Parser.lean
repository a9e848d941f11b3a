import HostMonitor.Pattern.Basic
import HostMonitor.Text.Numeral
import HostMonitor.Text.Radix

/-!
# Reading patterns

The written form of patterns: literals, `.`, classes in brackets, escapes, `^` and `$`, groups with
flags or names, alternatives, and repetitions. A text that is no pattern gives nothing. Every reader
takes the text from a point on and hands back what it has not read.
-/

namespace HostMonitor.Pattern

/-- How the rest of a group is read. -/
structure Flags where
  ignoreCase : Bool := false
  multiLine : Bool := false
  dotAll : Bool := false
  crlf : Bool := false
  unicode : Bool := true
  verbose : Bool := false
  deriving DecidableEq, Repr

/-- The flags in force and the names of the groups so far. -/
structure Mode where
  flags : Flags := {}
  names : List (List Char) := []
  deriving Repr

namespace Flags

def oneOf (f : Flags) (c : CharClass) : CharClass :=
  if f.ignoreCase then .anyCase c f.unicode else c

/-- What a point stands for; without Unicode it could split a character, which is refused. -/
def dot (f : Flags) : Option CharClass :=
  if !f.unicode then none
  else if f.dotAll then some (.negated .none)
  else if f.crlf then some (.negated (.union (.single '\n') (.single '\r')))
  else some (.negated (.single '\n'))

def lineStart (f : Flags) : Assertion :=
  if f.multiLine then .lineStart f.crlf else .textStart

def lineEnd (f : Flags) : Assertion :=
  if f.multiLine then .lineEnd f.crlf else .textEnd

def set? (f : Flags) (c : Char) (value : Bool) : Option Flags :=
  match c with
  | 'i' => some { f with ignoreCase := value }
  | 'm' => some { f with multiLine := value }
  | 's' => some { f with dotAll := value }
  | 'R' => some { f with crlf := value }
  | 'u' => some { f with unicode := value }
  | 'x' => some { f with verbose := value }
  | 'U' => some f
  | _ => none

/-- Skips the rest of a line. -/
def skipComment : List Char → List Char
  | [] => []
  | c :: s => if c = '\n' then s else skipComment s

theorem length_skipComment_le (s : List Char) : (skipComment s).length ≤ s.length := by
  induction s with
  | nil => simp [skipComment]
  | cons c s ih =>
    rw [skipComment]
    split
    · simp
    · exact Nat.le_succ_of_le ih

/-- Skips blanks and comments. -/
def skipLayout : List Char → List Char
  | [] => []
  | c :: s =>
    if Text.isBlank c then skipLayout s
    else if c = '#' then skipLayout (skipComment s)
    else c :: s
termination_by s => s.length
decreasing_by
  · simp
  · exact Nat.lt_succ_of_le (length_skipComment_le s)

/-- Where layout does not count, what comes after it. -/
def skip (f : Flags) (s : List Char) : List Char :=
  if f.verbose then skipLayout s else s

end Flags

/-- What a backslash stands for. -/
inductive Escape where
  | literal (c : Char)
  | named (c : CharClass)
  | assertion (a : Assertion)

/-- The character with the given code: so many digits, or any number of them in braces. -/
def readHex (size : Nat) (s : List Char) : Option (Char × List Char) :=
  match s with
  | '{' :: s =>
    match s.dropWhile (· != '}') with
    | _ :: rest => (Text.Radix.char? (s.takeWhile (· != '}'))).map (·, rest)
    | [] => none
  | s =>
    if s.length < size then none else (Text.Radix.char? (s.take size)).map (·, s.drop size)

/-- Punctuation stands for itself after a backslash. -/
def isEscapable (c : Char) : Bool :=
  c.toNat < 128 && !c.isAlphanum

def boundaryKind? (unicode : Bool) (name : List Char) : Option Assertion :=
  if name = "start".toList then some (.wordStart unicode)
  else if name = "end".toList then some (.wordEnd unicode)
  else if name = "start-half".toList then some (.noWordBefore unicode)
  else if name = "end-half".toList then some (.noWordAfter unicode)
  else none

def isBoundaryName (c : Char) : Bool :=
  c.isAlpha || c == '-'

/-- A word boundary, with the side of the word in braces if only one is meant. Braces that hold no
such name are left to be read as a repetition. -/
def readBoundary (f : Flags) (s : List Char) : Option (Escape × List Char) :=
  match s with
  | '{' :: t =>
    let name := t.takeWhile isBoundaryName
    match name, t.dropWhile isBoundaryName with
    | [], _ => some (.assertion (.boundary f.unicode), s)
    | name, '}' :: rest => (boundaryKind? f.unicode name).map (.assertion ·, rest)
    | _, _ => none
  | s => some (.assertion (.boundary f.unicode), s)

def negatedSet (f : Flags) (c : CharClass) (rest : List Char) : Option (Escape × List Char) :=
  if f.unicode then some (.named (.negated c), rest) else none

/-- What follows a backslash. -/
def readEscape (f : Flags) : List Char → Option (Escape × List Char)
  | [] => none
  | c :: rest =>
    match c with
    | 'x' => (readHex 2 rest).map fun (c, r) => (.literal c, r)
    | 'u' => (readHex 4 rest).map fun (c, r) => (.literal c, r)
    | 'U' => (readHex 8 rest).map fun (c, r) => (.literal c, r)
    | 'd' => some (.named (.digit f.unicode), rest)
    | 's' => some (.named (.blank f.unicode), rest)
    | 'w' => some (.named (.word f.unicode), rest)
    | 'D' => negatedSet f (.digit f.unicode) rest
    | 'S' => negatedSet f (.blank f.unicode) rest
    | 'W' => negatedSet f (.word f.unicode) rest
    | 'a' => some (.literal '\x07', rest)
    | 'f' => some (.literal '\x0c', rest)
    | 't' => some (.literal '\t', rest)
    | 'n' => some (.literal '\n', rest)
    | 'r' => some (.literal '\r', rest)
    | 'v' => some (.literal '\x0b', rest)
    | 'A' => some (.assertion .textStart, rest)
    | 'z' => some (.assertion .textEnd, rest)
    | 'B' => some (.assertion (.noBoundary f.unicode), rest)
    | '<' => some (.assertion (.wordStart f.unicode), rest)
    | '>' => some (.assertion (.wordEnd f.unicode), rest)
    | 'b' => readBoundary f rest
    | c => if isEscapable c then some (.literal c, rest) else none

/-- The operations between the sets of a class. -/
inductive SetOp where
  | inter
  | diff
  | symmDiff

def SetOp.apply : SetOp → CharClass → CharClass → CharClass
  | .inter, a, b => .inter a b
  | .diff, a, b => .diff a b
  | .symmDiff, a, b => .symmDiff a b

def setOp? : Char → Option SetOp
  | '&' => some .inter
  | '-' => some .diff
  | '~' => some .symmDiff
  | _ => none

/-- A named set `[:name:]` after its first bracket. -/
def readNamedSet (s : List Char) : Option (CharClass × List Char) :=
  match s with
  | ':' :: s =>
    let (negated, s) := match s with
      | '^' :: t => (true, t)
      | t => (false, t)
    let name := s.takeWhile (· != ':')
    match s.dropWhile (· != ':') with
    | ':' :: ']' :: rest =>
      (CharClass.named? (String.ofList name)).map fun c =>
        (if negated then .negated c else c, rest)
    | _ => none
  | _ => none

/-- A part of a class: a character, which may begin a range, or a set. -/
inductive ClassItem where
  | char (c : Char)
  | set (c : CharClass)

def ClassItem.toClass : ClassItem → CharClass
  | .char c => .single c
  | .set c => c

def readClassItem (f : Flags) : List Char → Option (ClassItem × List Char)
  | [] => none
  | '\\' :: s =>
    match readEscape f s with
    | some (.literal c, rest) => some (.char c, rest)
    | some (.named c, rest) => some (.set c, rest)
    | _ => none
  | c :: rest => some (.char c, rest)

/-- A part of a class or a range. A dash before a bracket or a dash makes no range. -/
def readRange (f : Flags) (s : List Char) : Option (CharClass × List Char) := do
  let (first, rest) ← readClassItem f s
  match f.skip rest with
  | [] => none
  | '-' :: rest' =>
    match first, f.skip rest' with
    | _, [] => none
    | first, ']' :: _ => some (first.toClass, f.skip rest)
    | first, '-' :: _ => some (first.toClass, f.skip rest)
    | .char lo, s => do
      match ← readClassItem f s with
      | (.char hi, rest) => if lo ≤ hi then some (.range lo hi, rest) else none
      | (.set _, _) => none
    | .set _, _ => none
  | rest => some (first.toClass, rest)

/-- The set so far, with the operation that waits for its right side carried out. -/
def combine (f : Flags) (left : Option (CharClass × SetOp)) (right : CharClass) : CharClass :=
  match left with
  | none => right
  | some (a, op) => op.apply (f.oneOf a) (f.oneOf right)

/-- Without Unicode the complement of a set could split a character, which is refused. -/
def finishClass (f : Flags) (negated : Bool) (c : CharClass) : Option CharClass :=
  if !negated then some (f.oneOf c)
  else if f.unicode then some (.negated (f.oneOf c))
  else none

/-- A caret in front of a class. -/
def readCaret : List Char → Bool × List Char
  | '^' :: s => (true, s)
  | s => (false, s)

/-- Dashes in front of a class stand for themselves, and so does a closing bracket. -/
def readFront (s : List Char) : CharClass × List Char :=
  match s.takeWhile (· == '-'), s.dropWhile (· == '-') with
  | [], ']' :: rest => (.single ']', rest)
  | [], rest => (.none, rest)
  | _, rest => (.single '-', rest)

/-- The parts of a class up to its closing bracket, `right` being the set since the last
operation. -/
def readParts : Nat → Flags → Option (CharClass × SetOp) → CharClass → List Char →
    Option (CharClass × List Char)
  | 0, _, _, _, _ => none
  | fuel + 1, f, left, right, s =>
    match f.skip s with
    | [] => none
    | ']' :: rest => some (combine f left right, rest)
    | '[' :: rest =>
      match readNamedSet rest with
      | some (c, rest) => readParts fuel f left (.union right c) rest
      | none => do
        let (negated, rest) := readCaret rest
        let (front, rest) := readFront (f.skip rest)
        let (parts, rest) ← readParts fuel f none front rest
        let c ← finishClass f negated parts
        readParts fuel f left (.union right c) rest
    | c :: rest =>
      match setOp? c, rest.head? == some c with
      | some op, true => readParts fuel f (some (combine f left right, op)) .none rest.tail
      | _, _ => do
        let (part, rest) ← readRange f (c :: rest)
        readParts fuel f left (.union right part) rest

/-- A class after its first bracket. -/
def readClass (f : Flags) (s : List Char) : Option (CharClass × List Char) := do
  let (negated, rest) := readCaret s
  let (front, rest) := readFront (f.skip rest)
  let (parts, rest) ← readParts (s.length + 1) f none front rest
  let c ← finishClass f negated parts
  return (c, rest)

/-- Flags up to the colon or bracket that ends them; those after a dash are switched off, and none
is given twice. -/
def readFlags (value : Bool) (seen : List Char) (f : Flags) : List Char → Option (Flags × List Char)
  | [] => none
  | c :: s =>
    if c = ':' || c = ')' then
      if seen.head? = some '-' then none else some (f, c :: s)
    else if seen.contains c then none
    else if c = '-' then readFlags false ('-' :: seen) f s
    else (f.set? c value).bind fun f => readFlags value (c :: seen) f s

def isNameStart (c : Char) : Bool :=
  Text.isWordCharacter c && !Text.isDecimalDigit c

def isNameRest (c : Char) : Bool :=
  Text.isWordCharacter c || c == '.' || c == '[' || c == ']'

def isGroupName : List Char → Bool
  | [] => false
  | c :: s => isNameStart c && s.all isNameRest

/-- The name of a group up to its closing mark; no two groups share one. -/
def readName (m : Mode) (s : List Char) : Option (Mode × List Char) :=
  let name := s.takeWhile (· != '>')
  match s.dropWhile (· != '>') with
  | _ :: rest =>
    if isGroupName name && !m.names.contains name then
      some ({ m with names := name :: m.names }, rest)
    else none
  | [] => none

/-- What an opening bracket begins: a group, or flags for the rest of the one around it. -/
inductive Opening where
  | group (inner : Mode)
  | flags (outer : Mode)

def readOpening (m : Mode) : List Char → Option (Opening × List Char)
  | '?' :: 'P' :: '<' :: s => (readName m s).map fun (m, rest) => (.group m, rest)
  | '?' :: '<' :: '=' :: _ => none
  | '?' :: '<' :: '!' :: _ => none
  | '?' :: '<' :: s => (readName m s).map fun (m, rest) => (.group m, rest)
  | '?' :: ')' :: _ => none
  | '?' :: s =>
    match readFlags true [] m.flags s with
    | some (f, ':' :: rest) => some (.group { m with flags := f }, rest)
    | some (f, ')' :: rest) => some (.flags { m with flags := f }, rest)
    | _ => none
  | s => some (.group m, s)

def repeatLimit : Nat := 1 <<< 32

def readCount (s : List Char) : Option (Nat × List Char) :=
  let s := s.dropWhile Text.isBlank
  let digits := s.takeWhile Text.Numeral.isDigit
  let rest := (s.dropWhile Text.Numeral.isDigit).dropWhile Text.isBlank
  (Text.Numeral.value? digits).bind fun n => if n < repeatLimit then some (n, rest) else none

/-- The bounds of a repetition after its opening brace. -/
def readCounts (s : List Char) : Option ((Nat × Option Nat) × List Char) := do
  let (least, rest) ← readCount s
  match rest with
  | '}' :: rest => some ((least, some least), rest)
  | ',' :: rest =>
    match rest.dropWhile Text.isBlank with
    | '}' :: rest => some ((least, none), rest)
    | rest => do
      let (most, rest) ← readCount rest
      match rest with
      | '}' :: rest => if least ≤ most then some ((least, some most), rest) else none
      | _ => none
  | _ => none

/-- Whether as few or as many as possible are wanted makes no difference to whether there is a
match. -/
def skipLazy : List Char → List Char
  | '?' :: s => s
  | s => s

/-- What has been read of an alternative, last part first; flags leave a mark that cannot be
repeated. -/
abbrev Parts := List (Option Pattern)

def sequence (parts : Parts) : Pattern :=
  (parts.filterMap id).foldl (fun after p => .seq p after) .empty

def alternative (before : Option Pattern) (parts : Parts) : Pattern :=
  match before with
  | none => sequence parts
  | some p => .alt p (sequence parts)

/-- The last part repeated. -/
def repeatLast (parts : Parts) (least : Nat) (most : Option Nat) : Option Parts :=
  match parts with
  | some p :: parts => some (some (.repeated p least most) :: parts)
  | _ => none

/-- One character, class, escape or position. -/
def readSingle (f : Flags) : List Char → Option (Pattern × List Char)
  | [] => none
  | '[' :: s => (readClass f s).map fun (c, rest) => (.one c, rest)
  | '.' :: s => f.dot.map fun c => (.one c, s)
  | '^' :: s => some (.assertion f.lineStart, s)
  | '$' :: s => some (.assertion f.lineEnd, s)
  | '\\' :: s =>
    (readEscape f s).map fun (e, rest) =>
      match e with
      | .literal c => (.one (f.oneOf (.single c)), rest)
      | .named c => (.one c, rest)
      | .assertion a => (.assertion a, rest)
  | c :: s => some (.one (f.oneOf (.single c)), s)

/-- The alternatives of a group, or of the whole text when not `inside` one, up to its end. -/
def readGroup : Nat → Bool → Mode → Option Pattern → Parts → List Char →
    Option (Pattern × Mode × List Char)
  | 0, _, _, _, _, _ => none
  | fuel + 1, inside, m, before, parts, s =>
    let again (least : Nat) (most : Option Nat) (rest : List Char) := do
      let parts ← repeatLast parts least most
      readGroup fuel inside m before parts (skipLazy rest)
    match m.flags.skip s with
    | [] => if inside then none else some (alternative before parts, m, [])
    | ')' :: rest => if inside then some (alternative before parts, m, rest) else none
    | '|' :: rest => readGroup fuel inside m (some (alternative before parts)) [] rest
    | '(' :: rest => do
      match ← readOpening m (m.flags.skip rest) with
      | (.flags m, rest) => readGroup fuel inside m before (none :: parts) rest
      | (.group inner, rest) =>
        let (p, inner, rest) ← readGroup fuel true inner none [] rest
        readGroup fuel inside { m with names := inner.names } before (some p :: parts) rest
    | '?' :: rest => again 0 (some 1) rest
    | '*' :: rest => again 0 none rest
    | '+' :: rest => again 1 none rest
    | '{' :: rest => do
      let ((least, most), rest) ← readCounts rest
      again least most rest
    | s => do
      let (p, rest) ← readSingle m.flags s
      readGroup fuel inside m before (some p :: parts) rest

/-- Patterns that unfold to more characters than this are refused. -/
def weightLimit : Nat := 300000

def parse? (text : String) : Option Pattern := do
  let s := text.toList
  let (p, _, _) ← readGroup (s.length + 1) false {} none [] s
  if p.weight ≤ weightLimit then some p else none

end HostMonitor.Pattern
