import HostMonitor.File.Disk
import HostMonitor.Word

/-!
# Responses

What a run leaves behind: the exit code, what was printed, and the disk. A failure is shown with its
causes, numbered when there are several. A run that breaks off leaves what it had printed by then.
-/

namespace HostMonitor.CommandLine

open Text

/-- The first line after `first`, the others after `later`. -/
def indented (first later text : String) : String :=
  first ++ ("\n" ++ later).intercalate ((splitAt '\n' text.toList).map String.ofList)

structure Failure where
  message : String
  /-- What led to it, nearest cause first. -/
  causes : List String := []
  deriving DecidableEq, Repr

namespace Failure

def numberText (n : Nat) : String :=
  let digits := Numeral.text n
  String.ofList (List.replicate (5 - digits.length) ' ') ++ digits ++ ": "

def numbered (start : Nat) : List String → List String
  | [] => []
  | cause :: rest => indented (numberText start) "       " cause :: numbered (start + 1) rest

def causeLines : List String → List String
  | [] => []
  | [cause] => ["", "Caused by:", indented "    " "    " cause]
  | causes => "" :: "Caused by:" :: numbered 0 causes

def text (f : Failure) : String :=
  "\n".intercalate (("Error: " ++ f.message) :: causeLines f.causes)

end Failure

structure Response where
  code : Nat := 0
  output : String := ""
  errors : String := ""
  disk : Disk
  /-- The files that were written, in order. -/
  written : List (Path × String) := []

namespace Response

/-- Each text as a line of its own. -/
def lines (ls : List String) : String :=
  String.join (ls.map (· ++ "\n"))

/-- The exit code of a run that breaks off. -/
def brokenOffCode : Nat := 101

def brokenOff (disk : Disk) (e : Overflow) (output : String) : Response where
  code := brokenOffCode
  output := output
  errors := lines [e.message]
  disk := disk

def failed (disk : Disk) (f : Failure) (output : String) : Response where
  code := 1
  output := output
  errors := lines [f.text]
  disk := disk

end Response

end HostMonitor.CommandLine
