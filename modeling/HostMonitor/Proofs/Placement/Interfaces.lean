import HostMonitor.Proofs.Placement.NodeFiles
import HostMonitor.Proofs.Placement.Requests

/-!
# Placing a process near an interface

A process that is placed near an interface goes to the cpus that serve its interrupts, or to the
nodes of these cpus. `place_interface` says which, for any blacklist and with or without promotion,
and when the request is refused instead. It needs a topology whose answers fit together, as those of
a table do. These answers and the interrupts are the same throughout the request.
-/

namespace HostMonitor

namespace Placement

/-- A cpu that is said to be on a node is one of the node's cpus. -/
def Topology.IsConsistent (t : Topology) : Prop :=
  ∀ cpu node, t.nodeOfCpu cpu = some node → ∃ cpus, t.cpusOfNode node = .ok cpus ∧ cpu ∈ cpus

namespace Topology

theorem isConsistent_ofTable {table : List (Nat × List Nat)} (tabular : IsNodeTable table) :
    (ofTable table).IsConsistent := by
  intro cpu node h
  obtain ⟨n, found, rfl⟩ := Option.map_eq_some_iff.mp h
  have holds := List.find?_some found
  exact ⟨n.2, cpusOfNode_of_mem tabular (List.mem_of_find?_eq_some found), by simpa using holds⟩

end Topology

namespace Outcome

/-- Nothing is changed. -/
def refused (disk : Disk) (e : Error) : Outcome :=
  ⟨.error e, [], disk⟩

/-- One mask is set, and nothing else is changed. -/
def bound (disk : Disk) (pid : Int) (cpus : List Nat) : Outcome :=
  ⟨.ok (), [.mask pid cpus true], disk⟩

/-- The mask is what the blacklist leaves of `cpus`, unless that is nothing. -/
def boundOutside (disk : Disk) (target : Target) (iface : String) (cpus : List Nat) : Outcome :=
  if CpuList.without cpus target.blacklist = [] then
    refused disk (.allBlacklisted (.interfaceCpus iface))
  else bound disk target.pid (CpuList.without cpus target.blacklist)

end Outcome

namespace Resolver

variable {r : Resolver} {target : Target} {disk : Disk} {d : Directive} {iface : String}
  {nodes cpus : List Nat} {cpu node : Nat} {e : Error} {binding : Binding}

/-! ## Cpus of nodes -/

theorem mem_collectNodes {t : Topology} (h : collectNodes t nodes = .ok cpus) :
    cpu ∈ cpus ↔ ∃ node ∈ nodes, ∃ own, t.cpusOfNode node = .ok own ∧ cpu ∈ own := by
  induction nodes generalizing cpus with
  | nil =>
    cases h
    simp
  | cons node nodes ih =>
    obtain ⟨own, first, h⟩ := Except.bind_eq_ok_iff.mp h
    obtain ⟨more, rest, h⟩ := Except.bind_eq_ok_iff.mp h
    cases h
    simp [first, ih rest]

theorem exists_collectNodes {t : Topology}
    (known : ∀ node ∈ nodes, ∃ own, t.cpusOfNode node = .ok own) :
    ∃ cpus, collectNodes t nodes = .ok cpus := by
  induction nodes with
  | nil => exact ⟨[], rfl⟩
  | cons node nodes ih =>
    obtain ⟨⟨own, first⟩, known⟩ := List.forall_mem_cons.mp known
    obtain ⟨more, rest⟩ := ih known
    refine ⟨own ++ more, ?_⟩
    rw [collectNodes, first, rest]
    rfl

/-- The nodes of consistent answers can be collected, and they hold the cpus they come from. -/
theorem exists_collectNodes_of_isConsistent {t : Topology} (consistent : t.IsConsistent)
    (serving : List Nat) :
    ∃ cpus, collectNodes t (CpuList.ascending (serving.filterMap t.nodeOfCpu)) = .ok cpus ∧
      ∀ cpu, cpu ∈ cpus ↔ ∃ server ∈ serving, ∃ node own,
        t.nodeOfCpu server = some node ∧ t.cpusOfNode node = .ok own ∧ cpu ∈ own := by
  have from_server {node : Nat} :
      node ∈ CpuList.ascending (serving.filterMap t.nodeOfCpu) ↔
        ∃ server ∈ serving, t.nodeOfCpu server = some node := by
    rw [CpuList.mem_ascending, List.mem_filterMap]
  have known : ∀ node ∈ CpuList.ascending (serving.filterMap t.nodeOfCpu),
      ∃ own, t.cpusOfNode node = .ok own := by
    intro node hn
    obtain ⟨server, -, on⟩ := from_server.mp hn
    obtain ⟨own, known, -⟩ := consistent server node on
    exact ⟨own, known⟩
  obtain ⟨cpus, collected⟩ := exists_collectNodes known
  refine ⟨cpus, collected, fun cpu => ?_⟩
  rw [mem_collectNodes collected]
  constructor
  · rintro ⟨node, hn, own, known, hc⟩
    obtain ⟨server, hs, on⟩ := from_server.mp hn
    exact ⟨server, hs, node, own, on, known, hc⟩
  · rintro ⟨server, hs, node, own, on, known, hc⟩
    exact ⟨node, from_server.mpr ⟨server, hs, on⟩, own, known, hc⟩

/-! ## Requests of one directive -/

theorem place_of_plan_error (enabled : r.isDisabled = false) (unhooked : r.config.hook = none)
    (h : r.plan target d = .error e) : r.place disk [d] target = .refused disk e := by
  rw [place_eq_placeAll disk _ enabled unhooked, placeAll_singleton, placeOne, h]
  rfl

theorem place_of_plan_bind (enabled : r.isDisabled = false) (unhooked : r.config.hook = none)
    (accepted : r.topology.applyMask target.pid cpus = .ok ())
    (h : r.plan target d = .ok (.bind cpus binding)) :
    r.place disk [d] target = .bound disk target.pid cpus := by
  rw [place_eq_placeAll disk _ enabled unhooked, placeAll_singleton, placeOne, h]
  simp only [carryOut, bind, accepted]
  rfl

/-! ## Interfaces -/

theorem interruptCpus_of_read {content : String} (enabled : r.isDisabled = false)
    (read : r.files.read r.config.interruptsPath = .ok content) (iface : String) :
    r.interruptCpus iface = Interrupts.servingCpus content iface := by
  simp [interruptCpus, enabled, read]

theorem pairwise_interruptCpus (r : Resolver) (iface : String) :
    (r.interruptCpus iface).Pairwise (· < ·) := by
  unfold interruptCpus
  split
  · exact .nil
  · split
    · exact CpuList.pairwise_ascending _
    · exact .nil

theorem plan_nic (available : r.topology.available = true) (target : Target) (iface : String) :
    r.plan target ⟨"nic", iface⟩ = r.planInterface target iface := by
  simp [plan, available]

/-- Whether a request for the interface goes to the nodes of the program itself. -/
def IsOwn (r : Resolver) (target : Target) : Prop :=
  target.pid = r.ownPid ∧ target.blacklist = []

/-- Whether the node of the first cpu takes the place of the cpus that serve the interface: there is
only one of them, or all are blacklisted. -/
def IsPromoted (r : Resolver) (target : Target) (iface : String) : Prop :=
  r.config.promoteToSocket = true ∧
    ((r.interruptCpus iface).length = 1 ∨
      ∀ cpu ∈ r.interruptCpus iface, cpu ∈ target.blacklist)

instance (r : Resolver) (target : Target) : Decidable (r.IsOwn target) :=
  inferInstanceAs (Decidable (_ ∧ _))

instance (r : Resolver) (target : Target) (iface : String) :
    Decidable (r.IsPromoted target iface) :=
  inferInstanceAs (Decidable (_ ∧ _))

theorem planInterface_of_isOwn (served : r.interruptCpus iface ≠ []) (own : r.IsOwn target)
    (consistent : r.topology.IsConsistent) :
    ∃ mask, r.planInterface target iface = .ok (.bind mask (.interfaceNodes iface)) ∧ mask ≠ [] ∧
      ((∃ server ∈ r.interruptCpus iface, r.topology.nodeOfCpu server ≠ none) →
        ∀ cpu, cpu ∈ mask ↔ ∃ server ∈ r.interruptCpus iface, ∃ node cpus,
          r.topology.nodeOfCpu server = some node ∧ r.topology.cpusOfNode node = .ok cpus ∧
            cpu ∈ cpus) ∧
      ((∀ server ∈ r.interruptCpus iface, r.topology.nodeOfCpu server = none) →
        mask = r.interruptCpus iface) := by
  obtain ⟨cpus, collected, member⟩ :=
    exists_collectNodes_of_isConsistent consistent (r.interruptCpus iface)
  refine ⟨if cpus.isEmpty then r.interruptCpus iface else cpus, ?planned, ?usable, ?nodes, ?alone⟩
  case planned =>
    unfold planInterface
    dsimp only
    rw [if_neg (by simpa using served), if_pos (by simp [own.1, own.2]), planOwn, collected]
    rfl
  case usable =>
    split
    · exact served
    · next filled => simpa using filled
  case nodes =>
    rintro ⟨server, hs, on⟩
    obtain ⟨node, on⟩ := Option.ne_none_iff_exists'.mp on
    obtain ⟨own, known, there⟩ := consistent server node on
    have filled : cpus ≠ [] :=
      List.ne_nil_of_mem ((member server).mpr ⟨server, hs, node, own, on, known, there⟩)
    rwa [if_neg (by simpa using filled)]
  case alone =>
    intro homeless
    have empty : cpus = [] := List.eq_nil_iff_forall_not_mem.mpr fun cpu hc => by
      obtain ⟨server, hs, node, -, on, -⟩ := (member cpu).mp hc
      rw [homeless server hs] at on
      cases on
    rw [empty]
    rfl

theorem planInterface_of_not_isOwn (served : r.interruptCpus iface ≠ []) (other : ¬r.IsOwn target) :
    r.planInterface target iface =
      (r.promoted iface (r.interruptCpus iface) target.blacklist >>= fun cpus =>
        bindAllowed cpus target.blacklist (.interfaceCpus iface)) := by
  unfold planInterface
  dsimp only
  rw [if_neg (by simpa using served), if_neg]
  intro own
  exact other (by simpa [IsOwn, and_comm] using own)

theorem promoted_eq (served : r.interruptCpus iface = cpu :: cpus) (target : Target) :
    r.promoted iface (r.interruptCpus iface) target.blacklist =
      if r.IsPromoted target iface then
        match r.topology.nodeOfCpu cpu with
        | none => .error (.noSocket cpu iface)
        | some node => r.topology.cpusOfNode node
      else .ok (r.interruptCpus iface) := by
  have condition : (r.config.promoteToSocket && (cpus.isEmpty ||
      (CpuList.without (cpu :: cpus) target.blacklist).isEmpty)) = true ↔
      r.IsPromoted target iface := by
    rw [IsPromoted, served]
    simp [CpuList.without, List.filter_eq_nil_iff]
  rw [served, promoted]
  by_cases h : r.IsPromoted target iface
  · exact (if_pos (condition.mpr h)).trans (if_pos h).symm
  · exact (if_neg (mt condition.mp h)).trans (if_neg h).symm

/-- What becomes of a process that is to run on `cpus`, as far as its blacklist allows. -/
def bindOutside (r : Resolver) (disk : Disk) (target : Target) (binding : Binding)
    (cpus : List Nat) : Outcome :=
  if CpuList.without cpus target.blacklist = [] then .refused disk (.allBlacklisted binding)
  else r.bind disk target.pid (CpuList.without cpus target.blacklist) binding

theorem place_of_bindAllowed (enabled : r.isDisabled = false) (unhooked : r.config.hook = none)
    (h : r.plan target d = bindAllowed cpus target.blacklist binding) :
    r.place disk [d] target = r.bindOutside disk target binding cpus := by
  rw [place_eq_placeAll disk _ enabled unhooked, placeAll_singleton, placeOne, h]
  by_cases nothing : CpuList.without cpus target.blacklist = []
  · simp [bindAllowed, bindOutside, nothing, Outcome.refused]
  · simp [bindAllowed, bindOutside, nothing, carryOut]

theorem place_of_boundOutside (enabled : r.isDisabled = false) (unhooked : r.config.hook = none)
    (accepts : ∀ cpus, r.topology.applyMask target.pid cpus = .ok ())
    (h : r.plan target d = bindAllowed cpus target.blacklist (.interfaceCpus iface)) :
    r.place disk [d] target = .boundOutside disk target iface cpus := by
  rw [place_of_bindAllowed enabled unhooked h]
  simp [bindOutside, Outcome.boundOutside, Outcome.bound, bind, accepts]

/-- How a process is placed near an interface. It needs cpus that serve the interface. The program
itself goes to all nodes of these cpus, if it may use every cpu, and to the cpus alone if they are
on no node. Any other process goes to the node of the first cpu, if they are promoted, and else to
the cpus themselves, without the blacklist in both cases. Where nothing is left to run on, nothing
is changed. -/
theorem place_interface (enabled : r.isDisabled = false) (unhooked : r.config.hook = none)
    (available : r.topology.available = true)
    (accepts : ∀ cpus, r.topology.applyMask target.pid cpus = .ok ())
    (consistent : r.topology.IsConsistent) (disk : Disk) (iface : String) :
    let serving := r.interruptCpus iface
    let outcome := r.place disk [⟨"nic", iface⟩] target
    (∀ content, r.files.read r.config.interruptsPath = .ok content →
      serving = Interrupts.servingCpus content iface) ∧
    (serving = [] → outcome = .refused disk (.noInterrupts iface)) ∧
    (serving ≠ [] → r.IsOwn target →
      ∃ mask, outcome = .bound disk target.pid mask ∧ mask ≠ [] ∧
        ((∃ server ∈ serving, r.topology.nodeOfCpu server ≠ none) →
          ∀ cpu, cpu ∈ mask ↔ ∃ server ∈ serving, ∃ node cpus,
            r.topology.nodeOfCpu server = some node ∧ r.topology.cpusOfNode node = .ok cpus ∧
              cpu ∈ cpus) ∧
        ((∀ server ∈ serving, r.topology.nodeOfCpu server = none) → mask = serving)) ∧
    (∀ first ∈ serving, (∀ cpu ∈ serving, first ≤ cpu) → ¬r.IsOwn target →
      r.IsPromoted target iface →
        (r.topology.nodeOfCpu first = none → outcome = .refused disk (.noSocket first iface)) ∧
        ∀ node cpus, r.topology.nodeOfCpu first = some node →
          r.topology.cpusOfNode node = .ok cpus →
            outcome = .boundOutside disk target iface cpus) ∧
    (serving ≠ [] → ¬r.IsOwn target → ¬r.IsPromoted target iface →
      outcome = .boundOutside disk target iface serving) := by
  have planned := plan_nic available target iface
  refine ⟨fun content read => interruptCpus_of_read enabled read iface, ?unserved, ?own, ?promoted,
    ?plain⟩
  case unserved =>
    intro unserved
    refine place_of_plan_error enabled unhooked (planned.trans ?_)
    simp [planInterface, unserved]
  case own =>
    intro served own
    obtain ⟨mask, bound, usable, nodes, alone⟩ := planInterface_of_isOwn served own consistent
    have placed : r.place disk [⟨"nic", iface⟩] target = .bound disk target.pid mask :=
      place_of_plan_bind enabled unhooked (accepts mask) (planned.trans bound)
    exact ⟨mask, placed, usable, nodes, alone⟩
  case promoted =>
    intro first hf least other promoted
    have served : r.interruptCpus iface ≠ [] := List.ne_nil_of_mem hf
    obtain ⟨rest, split⟩ :=
      CpuList.exists_eq_cons_of_least (r.pairwise_interruptCpus iface) hf least
    rw [planInterface_of_not_isOwn served other, promoted_eq split target,
      if_pos promoted] at planned
    constructor
    · intro homeless
      rw [homeless] at planned
      exact place_of_plan_error enabled unhooked planned
    · intro node cpus on known
      rw [on] at planned
      dsimp only at planned
      rw [known] at planned
      exact place_of_boundOutside enabled unhooked accepts planned
  case plain =>
    intro served other plain
    obtain ⟨cpu, rest, split⟩ := List.exists_cons_of_ne_nil served
    rw [planInterface_of_not_isOwn served other, promoted_eq split target, if_neg plain] at planned
    exact place_of_boundOutside enabled unhooked accepts planned

theorem isConsistent_twoNodes : twoNodes.topology.IsConsistent :=
  Topology.isConsistent_ofTable ⟨by decide, by decide, by decide, by decide⟩

/-- The only cpu that serves the interface is blacklisted, and so is another of its node. The
process goes to the rest of the node. -/
theorem place_interface_twoNodes :
    twoNodes.isDisabled = false ∧ twoNodes.config.hook = none ∧
      twoNodes.topology.available = true ∧
      (∀ cpus, twoNodes.topology.applyMask 1 cpus = .ok ()) ∧ twoNodes.topology.IsConsistent ∧
      twoNodes.place (Disk.empty []) [⟨"nic", "eth0"⟩] ⟨1, [5, 7]⟩ =
        .bound (Disk.empty []) 1 [4, 6] := by
  have enabled : twoNodes.isDisabled = false := by cbv
  have available : twoNodes.topology.available = true := by cbv
  have accepts : ∀ cpus, twoNodes.topology.applyMask 1 cpus = .ok () := fun cpus => rfl
  refine ⟨enabled, rfl, available, accepts, isConsistent_twoNodes, ?_⟩
  obtain ⟨-, -, -, promoted, -⟩ := @place_interface twoNodes ⟨1, [5, 7]⟩ enabled rfl available
    accepts isConsistent_twoNodes (Disk.empty []) "eth0"
  have other : ¬twoNodes.IsOwn ⟨1, [5, 7]⟩ := by decide
  have lone : twoNodes.IsPromoted ⟨1, [5, 7]⟩ "eth0" :=
    ⟨rfl, .inl (by rw [interruptCpus_twoNodes]; rfl)⟩
  rw [interruptCpus_twoNodes] at promoted
  exact (promoted 5 (by simp) (by simp) other lone).2 1 [4, 5, 6, 7] (by cbv) (by cbv)

end Resolver

end Placement

end HostMonitor
