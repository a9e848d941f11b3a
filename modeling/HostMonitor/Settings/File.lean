import HostMonitor.Document.JsonReading
import HostMonitor.Document.JsonText
import HostMonitor.Document.TomlReading
import HostMonitor.Document.TomlText
import HostMonitor.Document.YamlReading
import HostMonitor.Document.YamlText
import HostMonitor.File.Access
import HostMonitor.Settings.Reading
import HostMonitor.Settings.Writing

/-!
# Settings files

Settings are kept in one of three formats. When no file is named, the first of the usual places that
is there counts; a file that is not there stands for the standard settings.
-/

namespace HostMonitor

inductive FileFormat where
  | yaml
  | json
  | toml
  deriving DecidableEq, Repr

namespace FileFormat

def all : List FileFormat := [.yaml, .json, .toml]

def name : FileFormat → String
  | .yaml => "yaml"
  | .json => "json"
  | .toml => "toml"

def ofName? (text : String) : Option FileFormat :=
  all.find? (·.name == text)

/-- The extension decides, and every other file is taken for YAML. -/
def ofPath (path : Path) : FileFormat :=
  match path.extension? with
  | some "json" => .json
  | some "toml" => .toml
  | _ => .yaml

def read? (format : FileFormat) (content : String) : Option Document :=
  match format with
  | .yaml => Document.ofYaml? content
  | .json => Document.ofJson? content
  | .toml => Document.ofToml? content

def write (format : FileFormat) (d : Document) : String :=
  match format with
  | .yaml => d.toYaml
  | .json => d.toJson
  | .toml => d.toToml

end FileFormat

/-- Why a settings file could not be loaded. -/
inductive LoadError where
  | unreadable (cause : FileError)
  | malformed (path : Path) (format : FileFormat)
  deriving DecidableEq, Repr

namespace LoadError

def diagnostic : LoadError → String
  | .unreadable cause => cause.diagnostic
  | .malformed path format =>
    Text.quoted (path.text ++ " holds no settings in " ++ format.name)

end LoadError

namespace Settings

/-- The usual places of settings files, in the order in which they are tried. -/
def usualPlaces : List String :=
  ["/etc/gpp-monitor/gpp-monitor.yaml", "/etc/gpp-monitor/gpp-monitor.yml",
    "/etc/gpp-monitor/gpp-monitor.json", "./gpp-monitor.yaml", "./gpp-monitor.yml",
    "./gpp-monitor.json"]

def usualFile? (files : Files) : Option Path :=
  (usualPlaces.map Path.ofString).find? files.contains

def readFile (files : Files) (path : Path) : Except LoadError Settings := do
  let content ← (files.read path).mapError .unreadable
  let format := FileFormat.ofPath path
  match (format.read? content).bind ofDocument? with
  | some s => .ok s
  | none => .error (.malformed path format)

/-- The settings in the named file, or else in the usual place. -/
def load (files : Files) (path : Option String) : Except LoadError Settings :=
  match (path.map Path.ofString).or (usualFile? files) with
  | none => .ok standard
  | some path => if files.contains path then readFile files path else .ok standard

def render (s : Settings) (format : FileFormat) : String :=
  format.write s.document

end Settings

end HostMonitor
