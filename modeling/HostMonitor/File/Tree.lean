import HostMonitor.File.Access

/-!
# A file tree in memory

Files are added and removed one by one. Adding a file makes its ancestors directories, and they stay
directories when the file is removed. Paths are compared by component, and a path is shown with the
text under which it entered the tree.
-/

namespace HostMonitor

namespace Path

def ancestorsWithin : Nat → Path → List Path
  | 0, _ => []
  | fuel + 1, p =>
    match p.parent? with
    | none => []
    | some q => q :: ancestorsWithin fuel q

/-- The proper ancestors, nearest first; each step takes a piece away or reaches the front. -/
def ancestors (p : Path) : List Path :=
  ancestorsWithin (p.pieces.length + 1) p

def isEmpty (p : Path) : Bool :=
  p.components.isEmpty

def memberOf (p : Path) (ps : List Path) : Bool :=
  ps.any p.same

/-- `ps` with `p` at its end, unless it is there already. -/
def insertNew (p : Path) (ps : List Path) : List Path :=
  if p.memberOf ps then ps else ps ++ [p]

def sort (ps : List Path) : List Path :=
  ps.mergeSort fun p q => !q.lt p

end Path

structure FileTree where
  entries : List (Path × String)
  directories : List Path
  deriving Repr

namespace FileTree

def empty : FileTree := ⟨[], []⟩

def register (dirs : List Path) (p : Path) : List Path :=
  if p.text = "" then dirs else p.insertNew dirs

/-- Replaces the content under `path` in place, or appends a new entry. -/
def put (path : Path) (content : String) : List (Path × String) → List (Path × String)
  | [] => [(path, content)]
  | (p, c) :: rest => if p.same path then (p, content) :: rest else (p, c) :: put path content rest

def add (t : FileTree) (path : Path) (content : String) : FileTree where
  entries := put path content t.entries
  directories := path.ancestors.foldl register t.directories

def remove (t : FileTree) (path : Path) : FileTree :=
  { t with entries := t.entries.filter fun (p, _) => !p.same path }

def ofList (files : List (Path × String)) : FileTree :=
  files.foldl (fun t (p, c) => t.add p c) empty

def content? (t : FileTree) (path : Path) : Option String :=
  (t.entries.find? fun (p, _) => p.same path).map (·.2)

def read (t : FileTree) (path : Path) : Except FileError String :=
  match t.content? path with
  | some c => .ok c
  | none => .error (.missingFile path)

def contains (t : FileTree) (path : Path) : Bool :=
  (t.content? path).isSome || path.memberOf t.directories

def isChild (path q : Path) : Bool :=
  match q.parent? with
  | some p => p.same path
  | none => false

/-- The files and directories whose parent is `path`, each once. -/
def children (t : FileTree) (path : Path) : List Path :=
  let files := (t.entries.map (·.1)).filter (isChild path)
  let dirs := t.directories.filter fun d => isChild path d && !d.same path
  Path.sort (dirs.foldl (fun ps d => d.insertNew ps) files)

def list (t : FileTree) (path : Path) : Except FileError (List Path) :=
  if path.memberOf t.directories then .ok (t.children path) else .error (.missingDirectory path)

def files (t : FileTree) : Files where
  read := t.read
  contains := t.contains
  list := t.list

end FileTree

end HostMonitor
