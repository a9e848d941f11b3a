import HostMonitor.Assoc
import HostMonitor.Cpu.Jiffies

/-!
# Cpu time since boot

The kernel reports jiffies line by line: `cpu` for all cpus together, `cpu3` for one of them, and
`btime` for the time of boot, which must be there and not zero. Other lines do not count. A report
takes the place of what was known; `scan` keeps what it has read before the first fault, `parse`
only a report without fault.
-/

namespace HostMonitor

structure Stat where
  jiffies : Jiffies
  /-- Seconds since the epoch at which the host was booted. -/
  bootTime : Counter
  perCpu : Assoc Nat Jiffies
  deriving DecidableEq, Repr, Inhabited

/-- Why a text is no report of cpu times. -/
inductive StatError where
  | invalidCount (token line : String)
  | invalidBootTime (line : String)
  | noBootTime
  deriving DecidableEq, Repr

def StatError.message : StatError → String
  | .invalidCount token line => "invalid jiffy value '" ++ token ++ "' in line: '" ++ line ++ "'"
  | .invalidBootTime line => "invalid btime value in line: '" ++ line ++ "'"
  | .noBootTime => "empty btime field"

namespace Stat

open Text

def empty : Stat := ⟨Jiffies.zero, Counter.zero, Assoc.empty⟩

/-- Nothing of what was known is left. -/
def clear (_ : Stat) : Stat := empty

/-- What a line reports. -/
inductive Subject where
  | allCpus
  | oneCpu (id : Nat)
  | bootTime
  | other
  deriving DecidableEq, Repr

def subject (key : List Char) : Subject :=
  if key = "cpu".toList then .allCpus
  else if key = "btime".toList then .bootTime
  else match (dropHead? "cpu".toList key).bind Numeral.word? with
    | some id => .oneCpu id
    | none => .other

/-- Replaces counts by the numbers that `tokens` denote, up to the first that denotes none, which is
handed back. Counts without a token keep their value, tokens without a count are not read. -/
def overlay : List Counter → List (List Char) → List Counter × Option (List Char)
  | [], _ => ([], none)
  | counts, [] => (counts, none)
  | count :: counts, token :: tokens =>
    match Counter.read? token with
    | none => (count :: counts, some token)
    | some value =>
      let (rest, bad) := overlay counts tokens
      (value :: rest, bad)

theorem length_overlay (counts : List Counter) (tokens : List (List Char)) :
    (overlay counts tokens).1.length = counts.length := by
  fun_induction overlay counts tokens <;> simp_all

def overlaid (j : Jiffies) (tokens : List (List Char)) : Jiffies :=
  ⟨(overlay j.counts tokens).1, by rw [length_overlay, j.length_counts]⟩

/-- The fault of a line of counts, if it has one. -/
def countFault? (tokens : List (List Char)) (line : List Char) : Option StatError :=
  (overlay Jiffies.zero.counts tokens).2.map fun token =>
    .invalidCount (String.ofList token) (String.ofList line)

/-- What has been read, and the fault at which reading stopped. -/
structure Scan where
  stat : Stat
  fault : Option StatError
  deriving DecidableEq, Repr

def scanLine (s : Stat) (line : List Char) : Scan :=
  match words line with
  | [] => ⟨s, none⟩
  | key :: tokens =>
    match subject key with
    | .other => ⟨s, none⟩
    | .allCpus => ⟨{ s with jiffies := overlaid s.jiffies tokens }, countFault? tokens line⟩
    | .oneCpu id =>
      match countFault? tokens line with
      | some e => ⟨s, some e⟩
      | none => ⟨{ s with perCpu := s.perCpu.insert id (overlaid Jiffies.zero tokens) }, none⟩
    | .bootTime =>
      match Counter.read? (tokens.headD []) with
      | some value => ⟨{ s with bootTime := value }, none⟩
      | none => ⟨s, some (.invalidBootTime (String.ofList line))⟩

/-- Each line in turn, up to the first fault. -/
def scanLines (s : Stat) : List (List Char) → Scan
  | [] => ⟨s, if s.bootTime = Counter.zero then some .noBootTime else none⟩
  | line :: rest =>
    let r := scanLine s line
    match r.fault with
    | some _ => r
    | none => scanLines r.stat rest

/-- Reads a report in place of what was known. -/
def scan (known : Stat) (content : String) : Scan :=
  scanLines known.clear (lines content.toList)

def parse (known : Stat) (content : String) : Except StatError Stat :=
  match scan known content with
  | ⟨_, some e⟩ => .error e
  | ⟨s, none⟩ => .ok s

end Stat

end HostMonitor
