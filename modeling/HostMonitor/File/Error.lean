import HostMonitor.Path
import HostMonitor.Text.Numeral
import HostMonitor.Text.Quoted

/-!
# File errors

Why a file could not be read, listed or written, and the wording of each cause.
-/

namespace HostMonitor

/-- The refusals of the operating system; those that are not named here come with their wording. -/
inductive SystemError where
  | noEntry
  | noProcess
  | accessDenied
  | notDirectory
  | isDirectory
  | invalidArgument
  | noSpace
  | nameTooLong
  | other (code : Nat) (kind description : String)
  deriving DecidableEq, Repr

namespace SystemError

def code : SystemError → Nat
  | .noEntry => 2
  | .noProcess => 3
  | .accessDenied => 13
  | .notDirectory => 20
  | .isDirectory => 21
  | .invalidArgument => 22
  | .noSpace => 28
  | .nameTooLong => 36
  | .other code _ _ => code

def description : SystemError → String
  | .noEntry => "No such file or directory"
  | .noProcess => "No such process"
  | .accessDenied => "Permission denied"
  | .notDirectory => "Not a directory"
  | .isDirectory => "Is a directory"
  | .invalidArgument => "Invalid argument"
  | .noSpace => "No space left on device"
  | .nameTooLong => "File name too long"
  | .other _ _ description => description

def message (e : SystemError) : String :=
  e.description ++ " (os error " ++ Text.Numeral.text e.code ++ ")"

/-- The broad kind of a refusal, as diagnostics name it. -/
def kind : SystemError → String
  | .noEntry => "NotFound"
  | .noProcess => "Uncategorized"
  | .accessDenied => "PermissionDenied"
  | .notDirectory => "NotADirectory"
  | .isDirectory => "IsADirectory"
  | .invalidArgument => "InvalidInput"
  | .noSpace => "StorageFull"
  | .nameTooLong => "InvalidFilename"
  | .other _ kind _ => kind

end SystemError

/-- `missingFile` and `missingDirectory` come from a tree held in memory, the others from a disk. -/
inductive FileError where
  | missingFile (path : Path)
  | missingDirectory (path : Path)
  | system (cause : SystemError)
  | nulInName
  | notText
  deriving DecidableEq, Repr

namespace FileError

def kind : FileError → String
  | .missingFile _ => "NotFound"
  | .missingDirectory _ => "NotFound"
  | .system cause => cause.kind
  | .nulInName => "InvalidInput"
  | .notText => "InvalidData"

def message : FileError → String
  | .missingFile path => "file not found: " ++ Text.quoted path.text
  | .missingDirectory path => "directory not found: " ++ Text.quoted path.text
  | .system cause => cause.message
  | .nulInName => "file name contained an unexpected NUL byte"
  | .notText => "stream did not contain valid UTF-8"

/-- The error as a diagnostic shows its parts. -/
def diagnostic : FileError → String
  | .system cause =>
    "Os \x7b code: " ++ Text.Numeral.text cause.code ++ ", kind: " ++ cause.kind ++ ", message: " ++
      Text.quoted cause.description ++ " \x7d"
  | e => "Error \x7b kind: " ++ e.kind ++ ", message: " ++ Text.quoted e.message ++ " \x7d"

end FileError

end HostMonitor
