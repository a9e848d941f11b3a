import HostMonitor.CommandLine.Switch
import HostMonitor.Settings.File

/-!
# Arguments

The commands of the program, the switches of each, and what their arguments ask for.
-/

namespace HostMonitor.CommandLine

open Text

inductive ReportFormat where
  | yaml
  | json
  deriving DecidableEq, Repr

namespace ReportFormat

def all : List ReportFormat := [.yaml, .json]

def name : ReportFormat → String
  | .yaml => "yaml"
  | .json => "json"

def ofName? (text : String) : Option ReportFormat :=
  all.find? (·.name == text)

end ReportFormat

/-- A process and what to bind it to. -/
structure PlacementRequest where
  pid : Option Int := none
  nic : Option String := none
  socket : Option String := none
  cpu : Option String := none
  cpuset : Option String := none
  cgroup : Option String := none
  blacklist : Option String := none
  dryRun : Bool := false
  deriving DecidableEq, Repr

inductive Command where
  | sample (cycles : Nat) (format : ReportFormat)
  | place (request : PlacementRequest)
  | interrupts (iface : String)
  | check (procInputs sysInputs : Bool)
  | writeSettings (output : Option String) (format : FileFormat) (commented : Bool)
  | properties
  deriving DecidableEq, Repr

/-- Settings that the arguments make. -/
structure Overrides where
  interval : Option Nat := none
  procRoot : Option String := none
  sysRoot : Option String := none
  logLevel : Option LogLevel := none
  disablePlacement : Bool := false
  deriving DecidableEq, Repr

structure Arguments where
  command : Option Command := none
  settingsPath : Option String := none
  withoutFile : Bool := false
  showSettings : Bool := false
  showFormat : FileFormat := .yaml
  checkSettings : Bool := false
  overrides : Overrides := {}
  deriving DecidableEq, Repr

/-- The commands by name, `help` included. -/
inductive CommandName where
  | sample
  | affinity
  | interrupts
  | check
  | config
  | properties
  | help
  deriving DecidableEq, Repr

namespace CommandName

def all : List CommandName :=
  [.sample, .affinity, .interrupts, .check, .config, .properties, .help]

def text : CommandName → String
  | .sample => "sample"
  | .affinity => "affinity"
  | .interrupts => "interrupts"
  | .check => "check"
  | .config => "config"
  | .properties => "properties"
  | .help => "help"

def ofText? (s : String) : Option CommandName :=
  all.find? (·.text == s)

def summary : CommandName → String
  | .sample => "Run sampling cycles and print each report"
  | .affinity => "Bind a process using affinity directives"
  | .interrupts => "Show which CPUs service an interface's interrupts"
  | .check => "Validate configuration and system requirements"
  | .config => "Generate configuration files"
  | .properties => "Print the affinity property definitions (XML)"
  | .help => "Print this message or the help of the given subcommand(s)"

end CommandName

/-! ## Grammars -/

def helpSwitch : Switch where
  name := "help"
  short := some 'h'
  kind := .help
  help := "Print help"

def versionSwitch : Switch where
  name := "version"
  short := some 'V'
  kind := .version
  help := "Print version"

def askingSwitches : List Switch := [helpSwitch, versionSwitch]

def formatChoice : SwitchKind := .value (.choice (FileFormat.all.map (·.name)))

def programGrammar : Grammar where
  switches :=
    [{ name := "log-level", kind := .value (.choice (LogLevel.all.map (·.name)))
       help := "Log level (overrides config)" },
      { name := "config", short := some 'c', kind := .value .path
        help := "Config file (YAML/JSON/TOML)" },
      { name := "no-config", help := "Disable all config file loading" },
      { name := "show-config", help := "Print effective merged config and exit" },
      { name := "config-format", kind := formatChoice, usual := some "yaml"
        help := "Output format for --show-config" },
      { name := "check-config", help := "Validate config and exit (return code 1 on error)" },
      { name := "interval", short := some 'i', kind := .value .word
        help := "Sampling interval in seconds (overrides config)" },
      { name := "proc-root", kind := .value .path
        help := "Root of the proc filesystem (overrides config)" },
      { name := "sys-root", kind := .value .path
        help := "Root of the sys filesystem (overrides config)" },
      { name := "disable-affinity", help := "Disable affinity processing" }] ++ askingSwitches
  commands := CommandName.all.map (·.text)

def sampleGrammar : Grammar where
  switches :=
    [{ name := "iterations", short := some 'n', kind := .value .word, usual := some "2"
       help := "Number of sampling cycles" },
      { name := "format", kind := .value (.choice (ReportFormat.all.map (·.name)))
        usual := some "yaml", help := "Output format" }] ++ askingSwitches

def placementGrammar : Grammar where
  switches :=
    [{ name := "pid", kind := .value .processId
       help := "Target process id (defaults to this process)" },
      { name := "nic", kind := .value .text
        help := "Bind to the CPUs servicing this interface's interrupts" },
      { name := "socket", kind := .value .text
        help := "Bind to a NUMA node list, e.g. \"0\" or \"0-1\"" },
      { name := "cpu", kind := .value .text, help := "Bind to a CPU list, e.g. \"0,2-3\"" },
      { name := "cpuset", kind := .value .text, help := "Move the process into this cpuset" },
      { name := "cgroup", kind := .value .text, help := "Move the process into this cgroup" },
      { name := "blacklist", kind := .value .text
        help := "CPUs that must never be used (overrides config)" },
      { name := "dry-run", help := "Print the converted directives without applying them" }] ++
    askingSwitches

def interruptsGrammar : Grammar where
  switches := askingSwitches
  operands := [{ name := "iface", help := "Interface name, e.g. eth0" }]

def checkGrammar : Grammar where
  switches :=
    [{ name := "proc", help := "Check /proc inputs" },
      { name := "sys", help := "Check NUMA and NIC sysfs inputs" },
      { name := "all", help := "Check all system requirements" }] ++ askingSwitches

def settingsGrammar : Grammar where
  switches :=
    [{ name := "output", short := some 'o', kind := .value .path, help := "Output file path" },
      { name := "format", kind := formatChoice, usual := some "yaml", help := "Output format" },
      { name := "commented", help := "Include comments and examples" }] ++ askingSwitches

def propertiesGrammar : Grammar where
  switches := askingSwitches

def CommandName.grammar : CommandName → Grammar
  | .sample => sampleGrammar
  | .affinity => placementGrammar
  | .interrupts => interruptsGrammar
  | .check => checkGrammar
  | .config => settingsGrammar
  | .properties => propertiesGrammar
  | .help => { switches := [] }

/-! ## Meaning -/

namespace Given

def word? (g : Given) (name : String) : Option Nat :=
  (g.value? name).bind fun s => Numeral.word? s.toList

def processId? (g : Given) (name : String) : Option Int :=
  (g.value? name).bind fun s => Numeral.signed? ValueKind.processLimit s.toList

def fileFormat (g : Given) (name : String) : FileFormat :=
  ((g.value? name).bind FileFormat.ofName?).getD .yaml

def reportFormat (g : Given) (name : String) : ReportFormat :=
  ((g.value? name).bind ReportFormat.ofName?).getD .yaml

end Given

/-- The number of sampling cycles when none is asked for. -/
def usualCycles : Nat := 2

def CommandName.meaning (g : Given) : CommandName → Option Command
  | .sample => some (.sample ((g.word? "iterations").getD usualCycles) (g.reportFormat "format"))
  | .affinity => some (.place {
      pid := g.processId? "pid"
      nic := g.value? "nic"
      socket := g.value? "socket"
      cpu := g.value? "cpu"
      cpuset := g.value? "cpuset"
      cgroup := g.value? "cgroup"
      blacklist := g.value? "blacklist"
      dryRun := g.isSet "dry-run" })
  | .interrupts => some (.interrupts (g.operands.head?.getD ""))
  | .check => some (.check (g.isSet "proc" || g.isSet "all") (g.isSet "sys" || g.isSet "all"))
  | .config =>
    some (.writeSettings (g.value? "output") (g.fileFormat "format") (g.isSet "commented"))
  | .properties => some .properties
  | .help => none

def overridesOf (g : Given) : Overrides where
  interval := g.word? "interval"
  procRoot := g.value? "proc-root"
  sysRoot := g.value? "sys-root"
  logLevel := (g.value? "log-level").bind LogLevel.ofName?
  disablePlacement := g.isSet "disable-affinity"

def argumentsOf (g : Given) (command : Option Command) : Arguments where
  command := command
  settingsPath := g.value? "config"
  withoutFile := g.isSet "no-config"
  showSettings := g.isSet "show-config"
  showFormat := g.fileFormat "config-format"
  checkSettings := g.isSet "check-config"
  overrides := overridesOf g

/-- A refusal, and the command whose arguments were refused. -/
structure RefusedArguments where
  reason : Refusal
  command : Option CommandName
  deriving DecidableEq, Repr

/-- The command that help is asked for; help covers one command at a time. -/
def helpTopic (topics : List String) : RefusedArguments :=
  match topics with
  | [] => ⟨.help false, none⟩
  | [topic] =>
    match CommandName.ofText? topic with
    | some name => ⟨.help false, some name⟩
    | none => ⟨.usage, none⟩
  | _ => ⟨.usage, none⟩

def readCommand (name : CommandName) (args : List String) :
    Except RefusedArguments (Option Command) :=
  match name with
  | .help => .error (helpTopic args)
  | name =>
    match name.grammar.read args with
    | .error reason => .error ⟨reason, some name⟩
    | .ok (given, _) => .ok (name.meaning given)

namespace Arguments

def parse (args : List String) : Except RefusedArguments Arguments :=
  match programGrammar.read args with
  | .error reason => .error ⟨reason, none⟩
  | .ok (given, none) => .ok (argumentsOf given none)
  | .ok (given, some (word, rest)) =>
    match CommandName.ofText? word with
    | none => .error ⟨.usage, none⟩
    | some name => (readCommand name rest).map (argumentsOf given)

end Arguments

end HostMonitor.CommandLine
