import HostMonitor.CommandLine.Arguments
import HostMonitor.CommandLine.Response

/-!
# Help

What the program says about itself: its version, and for each command a page with its purpose, its
usage and what it takes. Explanations stand beside what they explain while they fit, and below it
otherwise. The full page of the program has its explanations below, in paragraphs of their own.
-/

namespace HostMonitor.CommandLine

def programName : String := "gpp-monitor"

def programVersion : String := "0.1.0"

def versionText (command : Option CommandName) : String :=
  let name := match command with
    | none => programName
    | some c => programName ++ "-" ++ c.text
  name ++ " " ++ programVersion

/-- `log-level` takes a `<LOG_LEVEL>`. -/
def placeholder (name : String) : String :=
  "<" ++ String.ofList (name.toList.map fun c => if c = '-' then '_' else c.toUpper) ++ ">"

/-- Something that a page explains, and how. -/
structure HelpEntry where
  label : String
  text : String
  /-- What follows from how it is read: its default and the values it can have. -/
  notes : List String := []
  deriving DecidableEq, Repr

namespace HelpEntry

def ofCommand (c : CommandName) : HelpEntry := ⟨c.text, c.summary, []⟩

def ofOperand (o : Operand) : HelpEntry := ⟨placeholder o.name, o.help, []⟩

def switchLabel (s : Switch) : String :=
  let short := match s.short with
    | some c => String.ofList ['-', c, ',', ' ']
    | none => "    "
  let value := match s.kind with
    | .value _ => " " ++ placeholder s.name
    | _ => ""
  short ++ "--" ++ s.name ++ value

def switchNotes (s : Switch) : List String :=
  let usual := s.usual.toList.map fun value => "[default: " ++ value ++ "]"
  match s.kind with
  | .value (.choice names) => usual ++ ["[possible values: " ++ ", ".intercalate names ++ "]"]
  | _ => usual

def ofSwitch (s : Switch) : HelpEntry := ⟨switchLabel s, s.help, switchNotes s⟩

/-- The explanation on one line. -/
def line (e : HelpEntry) : String :=
  " ".intercalate (e.text :: e.notes)

/-- The explanation with its notes in a paragraph of their own, a line each. -/
def paragraphs (e : HelpEntry) : String :=
  if e.notes.isEmpty then e.text else e.text ++ "\n\n" ++ "\n".intercalate e.notes

def margin : String := "  "

/-- What stands before an explanation below its label. -/
def deepMargin : String := "          "

def below (e : HelpEntry) (explanation : String) : String :=
  margin ++ e.label ++ "\n" ++ indented deepMargin deepMargin explanation

def beside (e : HelpEntry) (labelWidth : Nat) : String :=
  let gap := String.ofList (List.replicate (labelWidth - e.label.length) ' ')
  margin ++ e.label ++ gap ++ margin ++ e.line

def labelWidth (es : List HelpEntry) : Nat :=
  es.foldl (fun width e => max width e.label.length) 0

/-- The columns of a page. -/
def pageWidth : Nat := 100

/-- The columns around labels. -/
def labelSpace : Nat := 8

/-- Whether an explanation is too long to stand beside labels that take more than two fifths of the
page. -/
def isCrowded (e : HelpEntry) (width : Nat) : Bool :=
  2 * pageWidth < 5 * (width + labelSpace) && pageWidth < width + labelSpace + e.line.length

/-- One crowded explanation moves all of them below their labels. -/
def short (es : List HelpEntry) : String :=
  let width := labelWidth es
  "\n".intercalate <|
    if es.any (·.isCrowded width) then es.map fun e => e.below e.line
    else es.map (·.beside width)

def full (es : List HelpEntry) : String :=
  "\n\n".intercalate (es.map fun e => e.below e.paragraphs)

end HelpEntry

structure HelpPage where
  /-- The program and the command. -/
  title : String
  purpose : String
  commands : List HelpEntry := []
  operands : List HelpEntry := []
  switches : List HelpEntry := []
  /-- Whether there is a switch other than those that ask for a page or the version. -/
  hasOptions : Bool := false

namespace HelpPage

def usage (p : HelpPage) : String :=
  " ".intercalate <|
    [p.title] ++ (if p.hasOptions then ["[OPTIONS]"] else []) ++ p.operands.map (·.label) ++
      if p.commands.isEmpty then [] else ["[COMMAND]"]

def heading (title : String) (es : List HelpEntry) (body : List HelpEntry → String) :
    List String :=
  if es.isEmpty then [] else [title ++ ":\n" ++ body es]

/-- Commands and operands have short explanations on every page. -/
def text (p : HelpPage) (switchBody : List HelpEntry → String) : String :=
  let parts :=
    [p.purpose, "Usage: " ++ p.usage] ++ heading "Commands" p.commands HelpEntry.short ++
      heading "Arguments" p.operands HelpEntry.short ++ heading "Options" p.switches switchBody
  "\n\n".intercalate parts ++ "\n"

end HelpPage

def purpose : String :=
  "Host utilization sampling and process affinity for general purpose processors"

def fullPurpose : String :=
  purpose ++ ".\n\n" ++
    "Samples CPU, memory, load and NIC counters from /proc and /sys, evaluates busy thresholds, " ++
    "and binds processes to NICs, sockets, CPUs, cpusets or cgroups."

def hasOptions (g : Grammar) : Bool :=
  g.switches.any fun s => !askingSwitches.contains s

/-- On the program's page the switch for help says how to get the other form of the page. -/
def programSwitches (hint : String) : List HelpEntry :=
  programGrammar.switches.map fun s =>
    HelpEntry.ofSwitch (if s = helpSwitch then { s with help := s.help ++ hint } else s)

def programPage (purpose hint : String) : HelpPage where
  title := programName
  purpose := purpose
  commands := CommandName.all.map HelpEntry.ofCommand
  switches := programSwitches hint
  hasOptions := hasOptions programGrammar

def commandPage (c : CommandName) : HelpPage where
  title := programName ++ " " ++ c.text
  purpose := c.summary
  operands :=
    if c = .help then [⟨"[COMMAND]...", "Print help for the subcommand(s)", []⟩]
    else c.grammar.operands.map HelpEntry.ofOperand
  switches := c.grammar.switches.map HelpEntry.ofSwitch
  hasOptions := hasOptions c.grammar

/-- Only the program itself has a full page. -/
def helpText (command : Option CommandName) (brief : Bool) : String :=
  match command with
  | some c => (commandPage c).text HelpEntry.short
  | none =>
    if brief then (programPage purpose " (see more with '--help')").text HelpEntry.short
    else (programPage fullPurpose " (see a summary with '-h')").text HelpEntry.full

end HostMonitor.CommandLine
