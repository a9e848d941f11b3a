import HostMonitor.Cpu.List
import HostMonitor.Path

/-!
# The interrupt table

Each row of the table names an interrupt, counts how often each cpu has served it, and describes the
devices behind it. `servingCpus` gives the cpus that have served a network interface.
-/

namespace HostMonitor.Interrupts

open Text

/-- A description names an interface when it is the interface, or the interface, a dash and more, as
for the queues of one device. Commas at its end do not count. -/
def namesInterface (iface token : List Char) : Bool :=
  let token := (token.reverse.dropWhile (· == ',')).reverse
  token = iface || match dropHead? iface token with
    | some ('-' :: _) => true
    | _ => false

/-- The leading counts of a row, at most `columns` of them, and the words after them. -/
def splitCounts (columns : Option Nat) : List (List Char) → List Nat × List (List Char)
  | [] => ([], [])
  | token :: rest =>
    match columns, Numeral.word? token with
    | some 0, _ => ([], token :: rest)
    | _, none => ([], token :: rest)
    | columns, some count =>
      let (counts, words) := splitCounts (columns.map (· - 1)) rest
      (count :: counts, words)

/-- The positions of the counts that are not zero, the first position being `cpu`. -/
def positionsFrom (cpu : Nat) : List Nat → List Nat
  | [] => []
  | count :: rest =>
    if 0 < count then cpu :: positionsFrom (cpu + 1) rest else positionsFrom (cpu + 1) rest

def rowCpus (columns : Option Nat) (iface line : List Char) : List Nat :=
  match words line with
  | [] => []
  | _ :: tokens =>
    let (counts, description) := splitCounts columns tokens
    if description.any (namesInterface iface) then positionsFrom 0 counts else []

def isHeader (line : List Char) : Bool :=
  startsWith "CPU".toList (trimLeft line)

/-- The number of columns, if the table has a header, and its rows. -/
def table : List (List Char) → Option Nat × List (List Char)
  | [] => (none, [])
  | line :: rest =>
    if isHeader line then (some (words line).length, rest) else (none, line :: rest)

def servingCpusOf (content iface : List Char) : List Nat :=
  let (columns, rows) := table (lines content)
  CpuList.ascending (rows.flatMap (rowCpus columns iface))

/-- The cpus that have served at least one interrupt of the interface, ascending. -/
def servingCpus (content iface : String) : List Nat :=
  servingCpusOf content.toList iface.toList

def defaultPath : Path := Path.ofString "/proc/interrupts"

end HostMonitor.Interrupts
