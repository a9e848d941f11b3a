import HostMonitor.CommandLine.Host
import HostMonitor.CommandLine.Response

/-!
# Placing a process on request

The request is shown before anything is done. A dry run ends there.
-/

namespace HostMonitor.CommandLine

open Placement

namespace PlacementRequest

def directives (r : PlacementRequest) : List Directive :=
  [("nic", r.nic), ("socket", r.socket), ("cpu", r.cpu), ("cpuset", r.cpuset),
    ("cgroup", r.cgroup)].filterMap fun (className, value) => value.map (Directive.mk className)

def properties (r : PlacementRequest) : Properties :=
  Properties.ofDirectives r.directives

/-- The blacklist of the request, or else the one of the settings. -/
def blacklistedCpus (r : PlacementRequest) (s : Settings) : Except Failure (List Nat) :=
  match r.blacklist with
  | some list =>
    (CpuList.parse list []).mapError fun e => ⟨"Invalid --blacklist: " ++ e.message, []⟩
  | none =>
    s.placement.blacklistedCpus.mapError fun e => ⟨"Invalid affinity.blacklist: " ++ e.message, []⟩

end PlacementRequest

def causesOf (e : Placement.Error) : List String :=
  e.message :: e.systemCause?.toList

def requestLines (ds : List Directive) (pid : Int) : List String :=
  ("📌 Affinity request for pid " ++ Text.Numeral.signedText pid) ::
    ds.map fun d => "   ├─ " ++ d.text

def blacklistLine (blacklist : String) : String :=
  "   └─ blacklist: [" ++ blacklist ++ "]"

/-- The control files that a request wrote. -/
def writtenBy (effects : List Effect) : List (Path × String) :=
  effects.filterMap fun
    | .control path content true => some (path, content)
    | _ => none

def carryOut (h : Host) (s : Settings) (ps : Properties) (target : Target)
    (shown : List String) : Response :=
  let outcome := (h.resolver s).placeProperties h.disk ps target
  match outcome.result with
  | .ok () =>
    { output := Response.lines (shown ++ ["✅ Affinity applied"])
      disk := outcome.disk
      written := writtenBy outcome.effects }
  | .error e =>
    let message := "Failed to apply affinity to pid " ++ Text.Numeral.signedText target.pid
    { Response.failed outcome.disk ⟨message, causesOf e⟩ (Response.lines shown) with
      written := writtenBy outcome.effects }

def placeShown (h : Host) (s : Settings) (r : PlacementRequest) (target : Target)
    (shown : List String) : Response :=
  if r.dryRun then
    { output := Response.lines (shown ++ ["ℹ️  Dry run - nothing applied"]), disk := h.disk }
  else if (h.resolver s).isDisabled then
    { output := Response.lines
        (shown ++ ["⚠️  Affinity processing is disabled - nothing applied"])
      disk := h.disk }
  else carryOut h s r.properties target shown

def place (h : Host) (s : Settings) (r : PlacementRequest) : Response :=
  match r.properties.directives with
  | .error e => .failed h.disk ⟨"No affinity directive given", causesOf e⟩ ""
  | .ok ds =>
    match r.blacklistedCpus s with
    | .error failure => .failed h.disk failure ""
    | .ok blacklist =>
      let target : Target := ⟨r.pid.getD h.ownPid, blacklist⟩
      let shown := requestLines ds target.pid
      match CpuList.format blacklist with
      | .error e => .brokenOff h.disk e (Response.lines shown)
      | .ok text => placeShown h s r target (shown ++ [blacklistLine text])

end HostMonitor.CommandLine
