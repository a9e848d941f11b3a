import HostMonitor.CommandLine.Placing
import HostMonitor.CommandLine.Sampling

/-!
# Inputs of a run

Which files a run may look at. Whoever runs the program on a real host can read these beforehand.
-/

namespace HostMonitor.CommandLine

def settingsInputs (a : Arguments) : List Path :=
  match a.settingsPath with
  | some path => [Path.ofString path]
  | none => Settings.usualPlaces.map Path.ofString

def procInputs (s : Settings) : List Path :=
  requiredInputs s ++ [s.procPath.child "interrupts"]

/-- The lists of all cpus and of all nodes. -/
def possibleInputs (s : Settings) : List Path :=
  let roots := Placement.Topology.Roots.under s.sysPath
  [roots.cpu.child "possible", roots.node.child "possible"]

/-- The cpus of each node that a host with these files has. -/
def nodeInputs (s : Settings) (files : Files) : List Path :=
  let roots := Placement.Topology.Roots.under s.sysPath
  (Placement.Topology.readNodes files roots).map (Placement.Topology.cpulistPath roots)

/-- The attributes of the given interfaces. -/
def nicInputs (s : Settings) (interfaces : List String) : List Path :=
  interfaces.flatMap fun interface =>
    Nic.Attribute.all.map fun a => ((s.sysPath.child "class/net").child interface).child a.file

/-- The control files that a request would write. -/
def controlInputs (r : Placement.Resolver) : Option Command → List Path
  | some (.place request) =>
    (request.cpuset.map (r.taskPath .cpuset)).toList ++
      (request.cgroup.map (r.taskPath .cgroup)).toList
  | _ => []

/-- The interfaces in the kernel's table of network devices, whose first two lines are a heading. -/
def interfacesOf (table : String) : List String :=
  ((Text.lines table.toList).drop 2).filterMap fun line =>
    (Text.cut ':' line).map fun (name, _) => String.ofList (Text.trim name)

end HostMonitor.CommandLine
