import HostMonitor.Text.Numeral

/-!
# Switches

A command takes switches, with or without a value, and operands. `Grammar.read` goes through the
arguments from left to right: a switch may be given once, its value follows it or is attached to it,
short switches may be written together, and after a lone `--` everything is an operand. A value that
follows must not look like a switch itself.
-/

namespace HostMonitor.CommandLine

open Text

/-- What a switch takes as its value. -/
inductive ValueKind where
  | text
  /-- A text that is not empty. -/
  | path
  | word
  | processId
  | choice (names : List String)
  deriving DecidableEq, Repr

inductive SwitchKind where
  | flag
  | value (kind : ValueKind)
  | help
  | version
  deriving DecidableEq, Repr

structure Switch where
  name : String
  short : Option Char := none
  kind : SwitchKind := .flag
  /-- What holds when the switch is not given. -/
  usual : Option String := none
  help : String
  deriving DecidableEq, Repr

structure Operand where
  name : String
  help : String
  deriving DecidableEq, Repr

/-- What a command takes. A word that names one of `commands` ends the command's own arguments. -/
structure Grammar where
  switches : List Switch
  operands : List Operand := []
  commands : List String := []

/-- Why arguments are not carried out: they are wrong, or they ask about the program itself. -/
inductive Refusal where
  | usage
  | help (brief : Bool)
  | version
  deriving DecidableEq, Repr

/-- The switches with their values and the operands that were given, in order. -/
structure Given where
  values : List (String × String) := []
  operands : List String := []
  deriving DecidableEq, Repr

namespace ValueKind

def processLimit : Nat := 1 <<< 31

def accepts (kind : ValueKind) (value : String) : Bool :=
  match kind with
  | .text => true
  | .path => value != ""
  | .word => (Numeral.word? value.toList).isSome
  | .processId => (Numeral.signed? processLimit value.toList).isSome
  | .choice names => names.contains value

end ValueKind

namespace Given

def value? (g : Given) (name : String) : Option String :=
  (g.values.find? (·.1 == name)).map (·.2)

def isSet (g : Given) (name : String) : Bool :=
  (g.value? name).isSome

/-- A switch may be given once. -/
def add (g : Given) (name value : String) : Except Refusal Given :=
  if g.isSet name then .error .usage
  else .ok { g with values := g.values ++ [(name, value)] }

def addValue (g : Given) (s : Switch) (value : String) : Except Refusal Given :=
  match s.kind with
  | .value kind => if kind.accepts value then g.add s.name value else .error .usage
  | _ => .error .usage

/-- Takes a switch without a value. One that wants a value is left over. -/
def addFlag (g : Given) (s : Switch) (brief : Bool) : Except Refusal (Given × Option Switch) :=
  match s.kind with
  | .flag => (g.add s.name "").map fun g => (g, none)
  | .value _ => .ok (g, some s)
  | .help => .error (.help brief)
  | .version => .error .version

end Given

/-- Whether an argument is taken for a switch; a lone hyphen is not. -/
def looksLikeSwitch (arg : String) : Bool :=
  startsWith ['-'] arg.toList && arg != "-"

namespace Grammar

def longSwitch? (g : Grammar) (name : List Char) : Option Switch :=
  g.switches.find? (·.name.toList == name)

def shortSwitch? (g : Grammar) (c : Char) : Option Switch :=
  g.switches.find? (·.short == some c)

/-- The switch `--name` or `--name=value`, without its hyphens. -/
def readLong (g : Grammar) (given : Given) (body : List Char) :
    Except Refusal (Given × Option Switch) :=
  match cut '=' body with
  | some (name, value) =>
    match g.longSwitch? name with
    | some s => (given.addValue s (String.ofList value)).map fun given => (given, none)
    | none => .error .usage
  | none =>
    match g.longSwitch? body with
    | some s => given.addFlag s false
    | none => .error .usage

def dropEquals : List Char → List Char
  | '=' :: s => s
  | s => s

/-- Switches written together; what follows one that wants a value is its value. -/
def readShort (g : Grammar) (given : Given) : List Char → Except Refusal (Given × Option Switch)
  | [] => .ok (given, none)
  | c :: rest =>
    match g.shortSwitch? c with
    | none => .error .usage
    | some s =>
      match given.addFlag s true with
      | .error e => .error e
      | .ok (given, none) => readShort g given rest
      | .ok (given, some s) =>
        if rest.isEmpty then .ok (given, some s)
        else (given.addValue s (String.ofList (dropEquals rest))).map fun given => (given, none)

/-- One argument that looks like a switch, and the switch in it that still wants a value. -/
def readSwitch (g : Grammar) (given : Given) : List Char → Except Refusal (Given × Option Switch)
  | '-' :: '-' :: body => g.readLong given body
  | '-' :: body => g.readShort given body
  | _ => .error .usage

def addOperand (g : Grammar) (given : Given) (arg : String) : Except Refusal Given :=
  if given.operands.length < g.operands.length then
    .ok { given with operands := given.operands ++ [arg] }
  else .error .usage

/-- Everything up to a command, and that command with the arguments after it. -/
def readFrom (g : Grammar) (given : Given) :
    List String → Except Refusal (Given × Option (String × List String))
  | [] => .ok (given, none)
  | arg :: rest =>
    if g.commands.contains arg then .ok (given, some (arg, rest))
    else if arg = "--" then (rest.foldlM g.addOperand given).map fun given => (given, none)
    else if looksLikeSwitch arg then
      match g.readSwitch given arg.toList with
      | .error e => .error e
      | .ok (given, none) => readFrom g given rest
      | .ok (given, some s) =>
        match rest with
        | [] => .error .usage
        | value :: rest =>
          if looksLikeSwitch value then .error .usage
          else
            match given.addValue s value with
            | .error e => .error e
            | .ok given => readFrom g given rest
    else
      match g.addOperand given arg with
      | .error e => .error e
      | .ok given => readFrom g given rest

/-- All arguments of a command; every operand must be there. -/
def read (g : Grammar) (args : List String) :
    Except Refusal (Given × Option (String × List String)) := do
  let (given, command) ← g.readFrom {} args
  if given.operands.length < g.operands.length then throw .usage
  return (given, command)

end Grammar

end HostMonitor.CommandLine
