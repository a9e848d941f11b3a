import HostMonitor.File.Access
import HostMonitor.Performed

/-!
# A disk

Directories and files as the operating system sees them, from a working directory. Paths are walked
step by step, so `..` leaves the directory that was reached, every step but the last must be a
directory, and a path that is not there, is no directory, or is too long is refused as such. What
else the system can have against a write is a parameter of the disk.
-/

namespace HostMonitor

/-- The text of a file, or none when its bytes are no text. -/
inductive DiskNode where
  | directory
  | file (content : Option String)
  deriving DecidableEq, Repr

/-- What the system has against a write apart from where its path leads: rights, a lack of room, and
whatever else there is. Both answers may depend on what the disk holds by then. -/
structure Refusals where
  /-- Why the file of a path cannot be opened for writing. -/
  opening : List (List String × DiskNode) → Path → Option SystemError
  /-- How many characters get into the open file before the writing ends, and why it does. -/
  writing : List (List String × DiskNode) → Path → Option (Nat × SystemError)

def Refusals.none : Refusals :=
  ⟨fun _ _ => Option.none, fun _ _ => Option.none⟩

/-- Places are lists of names from the root, which is always a directory. -/
structure Disk where
  nodes : List (List String × DiskNode)
  workingDirectory : List String
  refusals : Refusals := .none

namespace Disk

def node? (d : Disk) (place : List String) : Option DiskNode :=
  if place.isEmpty then some .directory
  else (d.nodes.find? fun (p, _) => p = place).map (·.2)

def put (d : Disk) (place : List String) (node : DiskNode) : Disk :=
  { d with nodes := (place, node) :: d.nodes.filter fun (p, _) => p ≠ place }

/-- Creates the directories on the way to `place`, and `place` itself. -/
def addDirectories (d : Disk) (place : List String) : Disk :=
  (List.range (place.length + 1)).foldl (fun d n =>
    let here := place.take n
    if (d.node? here).isSome then d else d.put here .directory) d

def addFile (d : Disk) (place : List String) (content : Option String) : Disk :=
  (d.addDirectories place.dropLast).put place (.file content)

/-- A disk with a working directory and nothing else. -/
def empty (workingDirectory : List String) : Disk :=
  addDirectories { nodes := [], workingDirectory } workingDirectory

/-- Where a path leads: to something, or to a name that is free in a directory that exists. -/
inductive Lookup where
  | found (place : List String) (node : DiskNode)
  | free (place : List String) (asDirectory : Bool)

def nameLimit : Nat := 255

def pathLimit : Nat := 4096

/-- Walks `pieces` from the directory `here`. -/
def walk (d : Disk) (here : List String) : List String → Except SystemError Lookup
  | [] => .ok (.found here .directory)
  | piece :: rest =>
    if piece = "" || piece = "." then walk d here rest
    else if piece = ".." then walk d here.dropLast rest
    else if nameLimit < piece.utf8ByteSize then .error .nameTooLong
    else
      let place := here ++ [piece]
      match d.node? place with
      | some .directory => walk d place rest
      | some (.file content) =>
        if rest.isEmpty then .ok (.found place (.file content)) else .error .notDirectory
      | none =>
        if rest.all (· == "") then .ok (.free place !rest.isEmpty) else .error .noEntry

def lookup (d : Disk) (path : Path) : Except FileError Lookup :=
  let text := path.text
  if text.any (· == '\x00') then .error .nulInName
  else if text = "" then .error (.system .noEntry)
  else if pathLimit ≤ text.utf8ByteSize then .error (.system .nameTooLong)
  else
    let start := if path.isAbsolute then [] else d.workingDirectory
    (d.walk start path.pieces).mapError .system

def read (d : Disk) (path : Path) : Except FileError String := do
  match ← d.lookup path with
  | .found _ .directory => .error (.system .isDirectory)
  | .found _ (.file (some content)) => .ok content
  | .found _ (.file none) => .error .notText
  | .free _ _ => .error (.system .noEntry)

def contains (d : Disk) (path : Path) : Bool :=
  match d.lookup path with
  | .ok (.found _ _) => true
  | _ => false

/-- The names directly below `place`, in order. -/
def names (d : Disk) (place : List String) : List String :=
  let below := d.nodes.filterMap fun (p, _) =>
    if p.length = place.length + 1 && p.take place.length = place then p.getLast? else none
  below.mergeSort fun a b => !(b < a)

def list (d : Disk) (path : Path) : Except FileError (List Path) := do
  match ← d.lookup path with
  | .found place .directory => .ok ((d.names place).map path.child)
  | .found _ (.file _) => .error (.system .notDirectory)
  | .free _ _ => .error (.system .noEntry)

/-- The place of the file that is written, for what a path led to. -/
def Lookup.writePlace : Lookup → Except SystemError (List String)
  | .found _ .directory => .error .isDirectory
  | .found place (.file _) => .ok place
  | .free place asDirectory => if asDirectory then .error .isDirectory else .ok place

/-- The place of the file that a write to `path` creates or replaces. -/
def writePlace (d : Disk) (path : Path) : Except FileError (List String) := do
  (← d.lookup path).writePlace.mapError .system

/-- Opens a file for writing, which creates or empties it. -/
def openPlace (d : Disk) (path : Path) : Except FileError (List String) :=
  match d.refusals.opening d.nodes path with
  | some e => .error (.system e)
  | none => d.writePlace path

/-- Creates the file, or replaces what it holds. A file that was opened keeps what got into it when
the writing fails. -/
def write (d : Disk) (path : Path) (content : String) : Performed FileError Unit Disk :=
  match d.openPlace path with
  | .error e => ⟨.error e, d⟩
  | .ok place =>
    match d.refusals.writing d.nodes path with
    | some (count, e) =>
      ⟨.error (.system e), d.put place (.file (some (String.ofList (content.toList.take count))))⟩
    | none => ⟨.ok (), d.put place (.file (some content))⟩

def files (d : Disk) : Files where
  read := d.read
  contains := d.contains
  list := d.list

end Disk

end HostMonitor
