import HostMonitor.File.Error

/-!
# Access to files

What a reader of kernel text needs of a file system at one moment: the content of a file, whether a
path is there, and the entries of a directory.
-/

namespace HostMonitor

structure Files where
  read : Path → Except FileError String
  contains : Path → Bool
  list : Path → Except FileError (List Path)

namespace Files

/-- The content of `path`, when it can be read. -/
def read? (f : Files) (path : Path) : Option String :=
  (f.read path).toOption

/-- Nothing is there. -/
def empty : Files where
  read path := .error (.missingFile path)
  contains _ := false
  list path := .error (.missingDirectory path)

end Files

end HostMonitor
