import HostMonitor.Text.Lines

/-!
# Paths

A path keeps its text as the pieces between slashes, so that it is shown as it was given. What it
names is its list of components: a leading slash is the root, empty pieces and later `.` pieces do
not count, `..` stays. Two paths are the same when their components are.

Names are texts. A system may hold names of bytes that are no text; these have no path here.
-/

namespace HostMonitor

/-- One step of a path. -/
inductive Component where
  | root
  | here
  | up
  | name (s : String)
  deriving DecidableEq, Repr, Inhabited

namespace Component

def rank : Component → Nat
  | .root => 0
  | .here => 1
  | .up => 2
  | .name _ => 3

/-- Names come last and are ordered by their characters. -/
def lt : Component → Component → Bool
  | .name a, .name b => a < b
  | a, b => a.rank < b.rank

def text : Component → String
  | .root => "/"
  | .here => "."
  | .up => ".."
  | .name s => s

end Component

structure Path where
  pieces : List String
  deriving DecidableEq, Repr, Inhabited

namespace Path

def ofChars (s : List Char) : Path :=
  ⟨(Text.splitAt '/' s).map String.ofList⟩

def ofString (s : String) : Path :=
  ofChars s.toList

/-- The path as it was written. -/
def text (p : Path) : String :=
  "/".intercalate p.pieces

def isAbsolute (p : Path) : Bool :=
  match p.pieces with
  | "" :: _ :: _ => true
  | _ => false

/-- The component that a piece after the first stands for. -/
def component? (piece : String) : Option Component :=
  if piece = "" || piece = "." then none
  else if piece = ".." then some .up
  else some (.name piece)

def leading (piece : String) : List Component :=
  if piece = "." then [.here] else (component? piece).toList

def components (p : Path) : List Component :=
  match p.pieces with
  | [] => []
  | [piece] => leading piece
  | piece :: rest =>
    (if piece = "" then [.root] else leading piece) ++ rest.filterMap component?

/-- Whether two paths name the same thing. -/
def same (p q : Path) : Bool :=
  p.components = q.components

def ltComponents : List Component → List Component → Bool
  | _, [] => false
  | [], _ :: _ => true
  | a :: as, b :: bs => if a = b then ltComponents as bs else a.lt b

/-- The order of listings: component by component. -/
def lt (p q : Path) : Bool :=
  ltComponents p.components q.components

/-- `rel` seen from `p`. An absolute `rel` replaces `p`; otherwise one slash separates the two. -/
def join (p rel : Path) : Path :=
  if rel.isAbsolute then rel
  else if p.pieces.getLast? = some "" then ⟨p.pieces.dropLast ++ rel.pieces⟩
  else ⟨p.pieces ++ rel.pieces⟩

def child (p : Path) (name : String) : Path :=
  p.join (ofString name)

/-- The pieces, last first, without those that count for nothing. The first piece of the path is
kept, since a slash or a dot in front does count. -/
def dropIdle : List String → List String
  | [] => []
  | [first] => [first]
  | piece :: rest => if piece = "" || piece = "." then dropIdle rest else piece :: rest

/-- The path without its last component, unless that is the root or there is none. -/
def parent? (p : Path) : Option Path :=
  match dropIdle p.pieces.reverse with
  | [] => none
  | [first] => if first = "" then none else some ⟨[""]⟩
  | _ :: rest =>
    match dropIdle rest with
    | [""] => some ⟨["", ""]⟩
    | kept => some ⟨kept.reverse⟩

/-- The last component, if it is a name. -/
def fileName? (p : Path) : Option String :=
  match p.components.getLast? with
  | some (.name s) => some s
  | _ => none

/-- What follows the last dot of a name that does not begin with its only dot. -/
def extension? (p : Path) : Option String := do
  let name ← p.fileName?
  let (after, before) ← Text.cut '.' name.toList.reverse
  if before.isEmpty then none else some (String.ofList after.reverse)

end Path

end HostMonitor
