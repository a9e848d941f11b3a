import HostMonitor.Placement.Error
import HostMonitor.File.Access

/-!
# Topology

Which cpus and memory nodes (sockets) a host has and which cpus belong to a node, as a table or as
the kernel describes it in files. A topology also answers whether the mask of a process can be set.
It holds the answers of one moment, which is all that a request sees of the host: while it is
carried out they do not change.
-/

namespace HostMonitor.Placement

/-- The answers of a topology at one moment. -/
structure Topology where
  available : Bool
  cpus : List Nat
  nodes : List Nat
  cpusOfNode : Nat → Except Error (List Nat)
  nodeOfCpu : Nat → Option Nat
  applyMask : Int → List Nat → Except Error Unit

namespace Topology

/-- A host without nodes: masks are ignored. -/
def none : Topology where
  available := false
  cpus := []
  nodes := []
  cpusOfNode node := .error (.noTopology node)
  nodeOfCpu _ := Option.none
  applyMask _ _ := .ok ()

/-- A host described by a table of nodes, which accepts every mask. -/
def ofTable (table : List (Nat × List Nat)) : Topology where
  available := !table.isEmpty
  cpus := CpuList.ascending (table.flatMap (·.2))
  nodes := table.map (·.1)
  cpusOfNode node :=
    match table.find? (·.1 == node) with
    | some (_, cpus) => .ok cpus
    | Option.none => .error (.unknownNode node)
  nodeOfCpu cpu := (table.find? (·.2.contains cpu)).map (·.1)
  applyMask _ _ := .ok ()

/-- The number of cpus that a kernel mask has room for. -/
def maskSize : Nat := 1024

/-- What the kernel has against a mask for a process, if anything. -/
abbrev Kernel := Int → List Nat → Option SystemError

/-- A mask is put to the kernel if it has room for all of its cpus. -/
def kernelMask (kernel : Kernel) (pid : Int) (cpus : List Nat) : Except Error Unit :=
  match cpus.find? (maskSize ≤ ·), kernel pid cpus with
  | some cpu, _ => .error (.noRoomInMask cpu)
  | Option.none, some e => .error (.maskRefused pid e)
  | Option.none, Option.none => .ok ()

/-- Where the kernel describes nodes and cpus. -/
structure Roots where
  node : Path
  cpu : Path

namespace Roots

def standard : Roots where
  node := Path.ofString "/sys/devices/system/node"
  cpu := Path.ofString "/sys/devices/system/cpu"

def under (sysRoot : Path) : Roots :=
  let system := sysRoot.child "devices/system"
  ⟨system.child "node", system.child "cpu"⟩

end Roots

/-- A file that holds a list, when it can be read as one. -/
def readList? (files : Files) (path : Path) : Option (List Nat) := do
  let content ← files.read? path
  (CpuList.parse content []).toOption

def cpulistPath (roots : Roots) (node : Nat) : Path :=
  (roots.node.child ("node" ++ Text.Numeral.text node)).child "cpulist"

def readNode (files : Files) (roots : Roots) (node : Nat) : Except Error (List Nat) :=
  match files.read (cpulistPath roots node) with
  | .error e => .error (.unreadableNode node e)
  | .ok content =>
    -- A node that only has memory reports an empty list.
    if (Text.trim content.toList).isEmpty then .ok []
    else (CpuList.parse content []).mapError (.invalidNode node)

/-- The number in a name such as `node3`. -/
def nodeNumber? (name : String) : Option Nat :=
  (Text.dropHead? "node".toList name.toList).bind Text.Numeral.word?

def listedNodes (files : Files) (roots : Roots) : List Nat :=
  match files.list roots.node with
  | .error _ => []
  | .ok entries =>
    (entries.filterMap fun p => p.fileName?.bind nodeNumber?).mergeSort (· ≤ ·)

def readNodes (files : Files) (roots : Roots) : List Nat :=
  (readList? files (roots.node.child "possible")).getD (listedNodes files roots)

/-- The possible cpus, or else the union of the nodes' cpus. -/
def readCpus (files : Files) (roots : Roots) : List Nat :=
  (readList? files (roots.cpu.child "possible")).getD
    (CpuList.ascending ((readNodes files roots).flatMap fun node =>
      ((readNode files roots node).toOption).getD []))

def holds (files : Files) (roots : Roots) (cpu node : Nat) : Bool :=
  match readNode files roots node with
  | .ok cpus => cpus.contains cpu
  | .error _ => false

/-- A host as the kernel describes it. -/
def ofFiles (files : Files) (roots : Roots) (kernel : Kernel) : Topology where
  available := files.contains roots.node
  cpus := readCpus files roots
  nodes := readNodes files roots
  cpusOfNode := readNode files roots
  nodeOfCpu cpu := (readNodes files roots).find? (holds files roots cpu)
  applyMask := kernelMask kernel

end Topology

end HostMonitor.Placement
