import HostMonitor.Placement.Config
import HostMonitor.Placement.Topology
import HostMonitor.File.Disk

/-!
# Placing a process

A resolver turns directives into masks and control files for a process. `plan` decides what one
directive asks for without touching anything; `place` carries directives out in order, stops at the
first failure, and undoes nothing. Every attempt to set a mask or write a control file, and every
call of the hook, is an effect of the request. What the resolver logs on the way is left out.

The files that a resolver reads and the answers of its topology are fixed for the time of a request:
the same question has the same answer throughout.
-/

namespace HostMonitor.Placement

structure Resolver where
  config : Config
  environment : Environment
  files : Files
  topology : Topology
  /-- The process that the resolver itself runs in. -/
  ownPid : Int

/-- Whom a request is for, and the cpus that it must not use. -/
structure Target where
  pid : Int
  blacklist : List Nat
  deriving DecidableEq, Repr

/-- An attempt to change how a process runs, and whether it was accepted. -/
inductive Effect where
  | mask (pid : Int) (cpus : List Nat) (accepted : Bool)
  | control (path : Path) (content : String) (accepted : Bool)
  /-- The hook was called. -/
  | handedOver (directives : List Directive) (target : Target) (accepted : Bool)
  deriving DecidableEq, Repr

/-- What is left after a request: its result, its effects in order, and the disk. -/
structure Outcome where
  result : Except Error Unit
  effects : List Effect
  disk : Disk

/-- What one directive asks for. -/
inductive Plan where
  | nothing
  | bind (cpus : List Nat) (binding : Binding)
  | enter (group : ControlGroup) (name : String)
  deriving DecidableEq, Repr

namespace Resolver

def isDisabled (r : Resolver) : Bool :=
  r.config.isDisabled r.environment

/-- The cpus that serve the interface's interrupts. -/
def interruptCpus (r : Resolver) (iface : String) : List Nat :=
  if r.isDisabled then []
  else match r.files.read r.config.interruptsPath with
    | .ok content => Interrupts.servingCpus content iface
    | .error _ => []

/-- The node that all of `cpus` share, `found` being the node of those before. -/
def sharedNode (nodeOf : Nat → Option Nat) (found : Option Nat) : List Nat → Option Nat
  | [] => found
  | cpu :: rest =>
    match nodeOf cpu with
    | none => none
    | some node =>
      if found.all (· == node) then sharedNode nodeOf (some node) rest else none

/-- The socket that serves the interface: of its first cpu outside the blacklist, or of all of them
if they agree. -/
def findSocket (r : Resolver) (iface : String) (first : Bool) (blacklist : List Nat) : Option Nat :=
  if r.isDisabled || !r.topology.available then none
  else
    let usable := CpuList.without (r.interruptCpus iface) blacklist
    sharedNode r.topology.nodeOfCpu none (if first then usable.take 1 else usable)

/-- The cpus of each node in turn, up to the first that fails. -/
def collectNodes (t : Topology) : List Nat → Except Error (List Nat)
  | [] => .ok []
  | node :: rest => do
    let cpus ← t.cpusOfNode node
    let more ← collectNodes t rest
    return cpus ++ more

def socketCpus (t : Topology) (nodes : String) : Except Error (List Nat) := do
  let ids ← (CpuList.parse nodes t.nodes).mapError (.invalidSockets nodes)
  let cpus ← collectNodes t ids
  return CpuList.ascending cpus

/-- The cpus that a list of the given class denotes. -/
def cpuList (r : Resolver) (className list : String) : Except Error (List Nat) :=
  if r.isDisabled || !r.topology.available then .ok []
  else if className = "socket" || className = "node" then socketCpus r.topology list
  else if className = "cpu" then
    (CpuList.parse list r.topology.cpus).mapError (.invalidCpuQuery list)
  else .ok []

def mentionsInterface (r : Resolver) (ps : Properties) : Bool :=
  !r.isDisabled && ps.mentionsInterface

/-- What is left of `cpus` outside the blacklist, which must be something. -/
def bindAllowed (cpus blacklist : List Nat) (binding : Binding) : Except Error Plan :=
  let allowed := CpuList.without cpus blacklist
  if allowed.isEmpty then .error (.allBlacklisted binding) else .ok (.bind allowed binding)

/-- The program itself, with nothing excluded, goes to every node that the interface touches. -/
def planOwn (t : Topology) (iface : String) (cpus : List Nat) : Except Error Plan := do
  let nodes := CpuList.ascending (cpus.filterMap t.nodeOfCpu)
  let nodeCpus ← collectNodes t nodes
  return .bind (if nodeCpus.isEmpty then cpus else nodeCpus) (.interfaceNodes iface)

/-- A single cpu, or cpus that are all blacklisted, give way to the socket of the first one. -/
def promoted (r : Resolver) (iface : String) (cpus blacklist : List Nat) :
    Except Error (List Nat) :=
  match cpus with
  | [] => .ok cpus
  | cpu :: rest =>
    if r.config.promoteToSocket && (rest.isEmpty || (CpuList.without cpus blacklist).isEmpty) then
      match r.topology.nodeOfCpu cpu with
      | none => .error (.noSocket cpu iface)
      | some node => r.topology.cpusOfNode node
    else .ok cpus

def planInterface (r : Resolver) (target : Target) (iface : String) : Except Error Plan :=
  let cpus := r.interruptCpus iface
  if cpus.isEmpty then .error (.noInterrupts iface)
  else if target.blacklist.isEmpty && target.pid == r.ownPid then planOwn r.topology iface cpus
  else do
    let cpus ← r.promoted iface cpus target.blacklist
    bindAllowed cpus target.blacklist (.interfaceCpus iface)

def planSocket (r : Resolver) (target : Target) (nodes : String) : Except Error Plan := do
  let cpus ← socketCpus r.topology nodes
  bindAllowed cpus target.blacklist (.socket nodes)

def planCpu (r : Resolver) (target : Target) (list : String) : Except Error Plan := do
  let cpus ← (CpuList.parse list r.topology.cpus).mapError (.invalidCpus list)
  bindAllowed cpus target.blacklist (.cpu list)

/-- Directives of these classes mean nothing on a host without nodes. -/
def needsTopology (className : String) : Bool :=
  className = "nic" || className = "socket" || className = "node" || className = "cpu"

/-- What the directive asks for; an unknown class asks for nothing. -/
def plan (r : Resolver) (target : Target) (d : Directive) : Except Error Plan :=
  if needsTopology d.className && !r.topology.available then .ok .nothing
  else if d.className = "nic" then r.planInterface target d.value
  else if d.className = "socket" || d.className = "node" then r.planSocket target d.value
  else if d.className = "cpu" then r.planCpu target d.value
  else if d.className = "cpuset" then .ok (.enter .cpuset d.value)
  else if d.className = "cgroup" then .ok (.enter .cgroup d.value)
  else .ok .nothing

def taskPath (r : Resolver) (group : ControlGroup) (name : String) : Path :=
  ((r.config.controlRoot r.environment group).child name).child "task"

def taskText (pid : Int) : String :=
  Text.Numeral.signedText pid ++ "\n"

def bind (r : Resolver) (disk : Disk) (pid : Int) (cpus : List Nat) (binding : Binding) :
    Outcome :=
  match r.topology.applyMask pid cpus with
  | .ok () => ⟨.ok (), [.mask pid cpus true], disk⟩
  | .error e => ⟨.error (.bindingFailed binding e), [.mask pid cpus false], disk⟩

def enter (r : Resolver) (disk : Disk) (pid : Int) (group : ControlGroup) (name : String) :
    Outcome :=
  let path := r.taskPath group name
  let written := disk.write path (taskText pid)
  match written.result with
  | .ok () => ⟨.ok (), [.control path (taskText pid) true], written.state⟩
  | .error e =>
    ⟨.error (.controlFile group name e), [.control path (taskText pid) false], written.state⟩

def carryOut (r : Resolver) (disk : Disk) (pid : Int) : Plan → Outcome
  | .nothing => ⟨.ok (), [], disk⟩
  | .bind cpus binding => r.bind disk pid cpus binding
  | .enter group name => r.enter disk pid group name

def placeOne (r : Resolver) (target : Target) (disk : Disk) (d : Directive) : Outcome :=
  match r.plan target d with
  | .error e => ⟨.error e, [], disk⟩
  | .ok plan => r.carryOut disk target.pid plan

/-- Each directive in turn, up to the first that fails. -/
def placeAll (r : Resolver) (target : Target) (disk : Disk) : List Directive → Outcome
  | [] => ⟨.ok (), [], disk⟩
  | d :: rest =>
    let first := r.placeOne target disk d
    match first.result with
    | .error e => ⟨.error e, first.effects, first.disk⟩
    | .ok () =>
      let more := r.placeAll target first.disk rest
      ⟨more.result, first.effects ++ more.effects, more.disk⟩

def handOver (hook : Hook) (disk : Disk) (ds : List Directive) (target : Target) : Outcome :=
  match hook ds target.pid target.blacklist with
  | .ok () => ⟨.ok (), [.handedOver ds target true], disk⟩
  | .error e => ⟨.error e, [.handedOver ds target false], disk⟩

/-- Carries out a request, unless placement is off or the hook takes it over. -/
def place (r : Resolver) (disk : Disk) (ds : List Directive) (target : Target) : Outcome :=
  if r.isDisabled then ⟨.ok (), [], disk⟩
  else match r.config.hook with
    | some hook => handOver hook disk ds target
    | none => r.placeAll target disk ds

def placeProperties (r : Resolver) (disk : Disk) (ps : Properties) (target : Target) : Outcome :=
  if r.isDisabled then ⟨.ok (), [], disk⟩
  else match ps.directives with
    | .error e => ⟨.error e, [], disk⟩
    | .ok ds => r.place disk ds target

end Resolver

end HostMonitor.Placement
