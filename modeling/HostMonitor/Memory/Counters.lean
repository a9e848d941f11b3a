import HostMonitor.Assoc
import HostMonitor.Counter

/-!
# Memory counters

The kernel reports memory as lines `name: value unit`. Values are kept in bytes, with decimal units;
a value that is no number is zero, and a line without colon does not count.
-/

namespace HostMonitor.Memory

open Text

/-- The number of bytes in a unit; an unknown one stands for single bytes. -/
def bytesPerUnit (unit : List Char) : Nat :=
  let unit := asciiUpper unit
  if unit = "KB".toList then 1000
  else if unit = "MB".toList then 1000000
  else if unit = "GB".toList then 1000000000
  else if unit = "TB".toList then 1000000000000
  else 1

/-- The value of the words after the colon. -/
def valueOf : List (List Char) → Counter
  | [] => Counter.zero
  | value :: rest =>
    ((Counter.read? value).getD Counter.zero).scale (bytesPerUnit (rest.headD []))

def parseLine? (line : List Char) : Option (String × Counter) :=
  (cut ':' line).map fun (key, rest) => (String.ofList (trim key), valueOf (words rest))

/-- Takes over what a line tells. -/
def learn (known : Assoc String Counter) (line : List Char) : Assoc String Counter :=
  match parseLine? line with
  | some (name, value) => known.insert name value
  | none => known

/-- Values by name, in place of what was known; of two lines of one name the later counts. -/
def refill (known : Assoc String Counter) (content : String) : Assoc String Counter :=
  (lines content.toList).foldl learn known.clear

def parse (content : String) : Assoc String Counter :=
  refill Assoc.empty content

end HostMonitor.Memory
