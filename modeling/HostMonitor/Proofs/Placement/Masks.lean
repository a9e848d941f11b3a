import HostMonitor.Placement.Resolver
import HostMonitor.Proofs.CpuList.Members
import HostMonitor.Proofs.Except
import Mathlib

/-!
# Masks that a request sets

A mask is tried only for a plan that binds, and there are five ways to such a plan: the nodes of the
program's own process, an interface with and without promotion, sockets, and cpus. `Plan.Respects`
holds at the end of each of them, so it holds of every mask of a request, wherever the request
stops. `place_withKernel` says that these masks are all that the kernel is asked for.

Here and in all that is said of requests, the topology and the files that a resolver reads answer
the same throughout one request.
-/

namespace HostMonitor

namespace Placement

/-- An attempt to set the mask of a process. -/
structure Mask where
  pid : Int
  cpus : List Nat
  deriving DecidableEq, Repr

def Effect.mask? : Effect → Option Mask
  | .mask pid cpus _ => some ⟨pid, cpus⟩
  | .control _ _ _ => none
  | .handedOver _ _ _ => none

/-- The masks that a request tried to set, in order, whether they were accepted or not. -/
def Outcome.masks (o : Outcome) : List Mask :=
  o.effects.filterMap Effect.mask?

/-- The control group that a directive enters, under the name that it gives. -/
def Directive.control? (d : Directive) : Option (ControlGroup × String) :=
  if d.className = "cpuset" then some (.cpuset, d.value)
  else if d.className = "cgroup" then some (.cgroup, d.value)
  else none

/-- A plan that binds leaves a cpu to run on, and none of the blacklist. -/
def Plan.Respects (blacklist : List Nat) : Plan → Prop
  | .nothing => True
  | .bind cpus _ => cpus ≠ [] ∧ ∀ cpu ∈ cpus, cpu ∉ blacklist
  | .enter _ _ => True

namespace Resolver

variable {r : Resolver} {target : Target} {d : Directive} {p : Plan}

/-! ## Plans -/

theorem bindAllowed_eq_ok_iff {cpus blacklist : List Nat} {binding : Binding} :
    bindAllowed cpus blacklist binding = .ok p ↔
      CpuList.without cpus blacklist ≠ [] ∧ p = .bind (CpuList.without cpus blacklist) binding := by
  unfold bindAllowed
  by_cases nothing : CpuList.without cpus blacklist = []
  · simp [nothing]
  · simp only [nothing, List.isEmpty_iff, if_false, ne_eq, not_false_eq_true, true_and]
    exact ⟨fun h => (Except.ok.inj h).symm, fun h => congrArg _ h.symm⟩

theorem bindAllowed_respects {cpus blacklist : List Nat} {binding : Binding}
    (h : bindAllowed cpus blacklist binding = .ok p) : p.Respects blacklist := by
  obtain ⟨left, rfl⟩ := bindAllowed_eq_ok_iff.mp h
  exact ⟨left, fun cpu hc => (CpuList.mem_without.mp hc).2⟩

theorem planOwn_respects {t : Topology} {iface : String} {cpus : List Nat} (hc : cpus ≠ [])
    (h : planOwn t iface cpus = .ok p) : p.Respects [] := by
  obtain ⟨nodeCpus, -, h⟩ := Except.bind_eq_ok_iff.mp h
  cases h
  refine ⟨?_, by simp⟩
  split
  · exact hc
  · next hne => simpa using hne

theorem planInterface_respects {iface : String} (h : r.planInterface target iface = .ok p) :
    p.Respects target.blacklist := by
  unfold planInterface at h
  dsimp only at h
  split at h
  · cases h
  · next hne =>
    split at h
    · next own =>
      -- The nodes of the own process are not filtered, since nothing is blacklisted here.
      have empty : target.blacklist = [] := by simp_all
      rw [empty]
      exact planOwn_respects (by simpa using hne) h
    · obtain ⟨cpus, -, h⟩ := Except.bind_eq_ok_iff.mp h
      exact bindAllowed_respects h

theorem planSocket_respects {nodes : String} (h : r.planSocket target nodes = .ok p) :
    p.Respects target.blacklist := by
  obtain ⟨cpus, -, h⟩ := Except.bind_eq_ok_iff.mp h
  exact bindAllowed_respects h

theorem planCpu_respects {list : String} (h : r.planCpu target list = .ok p) :
    p.Respects target.blacklist := by
  obtain ⟨cpus, -, h⟩ := Except.bind_eq_ok_iff.mp h
  exact bindAllowed_respects h

/-- What a directive can ask for, and when. -/
theorem plan_cases (h : r.plan target d = .ok p) :
    p = .nothing ∨ (∃ entry, d.control? = some entry ∧ p = .enter entry.1 entry.2) ∨
      r.topology.available = true ∧
        (r.planInterface target d.value = .ok p ∨ r.planSocket target d.value = .ok p ∨
          r.planCpu target d.value = .ok p) := by
  unfold plan at h
  split at h
  · cases h; exact .inl rfl
  · next hn =>
    have available (hc : needsTopology d.className = true) : r.topology.available = true := by
      simpa [hc] using hn
    split at h
    · next hc => exact .inr (.inr ⟨available (by simp [needsTopology, hc]), .inl h⟩)
    split at h
    · next hc =>
      refine .inr (.inr ⟨available ?_, .inr (.inl h)⟩)
      simp only [Bool.or_eq_true, decide_eq_true_eq] at hc
      rcases hc with hc | hc <;> simp [needsTopology, hc]
    split at h
    · next hc => exact .inr (.inr ⟨available (by simp [needsTopology, hc]), .inr (.inr h)⟩)
    split at h
    · next hc =>
      cases h
      exact .inr (.inl ⟨(.cpuset, d.value), if_pos hc, rfl⟩)
    split at h
    · next hn hc =>
      cases h
      exact .inr (.inl ⟨(.cgroup, d.value), (if_neg hn).trans (if_pos hc), rfl⟩)
    · cases h; exact .inl rfl

theorem plan_respects (h : r.plan target d = .ok p) : p.Respects target.blacklist := by
  rcases plan_cases h with rfl | ⟨entry, -, rfl⟩ | ⟨-, h | h | h⟩
  · trivial
  · trivial
  · exact planInterface_respects h
  · exact planSocket_respects h
  · exact planCpu_respects h

theorem available_of_plan_bind {cpus : List Nat} {binding : Binding}
    (h : r.plan target d = .ok (.bind cpus binding)) : r.topology.available = true := by
  rcases plan_cases h with h | ⟨entry, -, h⟩ | ⟨available, -⟩
  · cases h
  · cases h
  · exact available

/-! ## Requests -/

/-- The mask that a directive on its own leads to. -/
def maskOf? (r : Resolver) (target : Target) (d : Directive) : Option Mask :=
  match r.plan target d with
  | .ok (.bind cpus _) => some ⟨target.pid, cpus⟩
  | _ => none

theorem masks_placeOne (disk : Disk) :
    (r.placeOne target disk d).masks = (r.maskOf? target d).toList := by
  unfold placeOne maskOf?
  cases r.plan target d with
  | error e => rfl
  | ok p =>
    cases p with
    | nothing => rfl
    | bind cpus binding =>
      simp only [carryOut, bind]
      split <;> rfl
    | enter group name =>
      simp only [carryOut, enter]
      split <;> rfl

theorem masks_placeAll_cons (disk : Disk) (ds : List Directive) :
    (r.placeAll target disk (d :: ds)).masks =
      (r.maskOf? target d).toList ++
        match (r.placeOne target disk d).result with
        | .error _ => []
        | .ok () => (r.placeAll target (r.placeOne target disk d).disk ds).masks := by
  rw [← masks_placeOne disk, placeAll]
  cases (r.placeOne target disk d).result with
  | error e => simp [Outcome.masks]
  | ok u => simp [Outcome.masks]

/-- Every mask of a request comes from one of its directives. -/
theorem mem_masks_placeAll {disk : Disk} {ds : List Directive} {mask : Mask}
    (h : mask ∈ (r.placeAll target disk ds).masks) : ∃ d ∈ ds, r.maskOf? target d = some mask := by
  induction ds generalizing disk with
  | nil => cases h
  | cons d ds ih =>
    rw [masks_placeAll_cons, List.mem_append] at h
    rcases h with h | h
    · exact ⟨d, List.mem_cons_self, Option.mem_toList.mp h⟩
    · split at h
      · cases h
      · obtain ⟨d', hd, hm⟩ := ih h
        exact ⟨d', List.mem_cons_of_mem _ hd, hm⟩

theorem maskOf?_eq_some_iff {mask : Mask} :
    r.maskOf? target d = some mask ↔
      mask.pid = target.pid ∧ ∃ binding, r.plan target d = .ok (.bind mask.cpus binding) := by
  unfold maskOf?
  split
  · next cpus binding hp =>
    obtain ⟨pid, cpus'⟩ := mask
    simp only [Option.some.injEq, Mask.mk.injEq]
    constructor
    · rintro ⟨rfl, rfl⟩
      exact ⟨rfl, binding, hp⟩
    · rintro ⟨rfl, binding', hp'⟩
      rw [hp] at hp'
      cases hp'
      exact ⟨rfl, rfl⟩
  · next hp => simpa using fun _ binding h => hp mask.cpus binding h

/-- A mask of a request is one that the target admits, on a host that has nodes. -/
theorem mask_of_placeAll {disk : Disk} {ds : List Directive} {mask : Mask}
    (h : mask ∈ (r.placeAll target disk ds).masks) :
    mask.pid = target.pid ∧ r.topology.available = true ∧ mask.cpus ≠ [] ∧
      ∀ cpu ∈ mask.cpus, cpu ∉ target.blacklist := by
  obtain ⟨d, -, hd⟩ := mem_masks_placeAll h
  obtain ⟨pid, binding, hp⟩ := maskOf?_eq_some_iff.mp hd
  exact ⟨pid, available_of_plan_bind hp, plan_respects hp⟩

/-! ## Where the answer of the kernel matters -/

/-- The resolver on a host whose kernel answers otherwise. -/
def withKernel (r : Resolver) (applyMask : Int → List Nat → Except Error Unit) : Resolver :=
  { r with topology := { r.topology with applyMask } }

variable {applyMask : Int → List Nat → Except Error Unit}

theorem collectNodes_withKernel (nodes : List Nat) :
    collectNodes (r.withKernel applyMask).topology nodes = collectNodes r.topology nodes := by
  induction nodes with
  | nil => rfl
  | cons node nodes ih =>
    unfold collectNodes
    rw [ih]
    rfl

theorem planInterface_withKernel (iface : String) :
    (r.withKernel applyMask).planInterface target iface = r.planInterface target iface := by
  have own (cpus : List Nat) : planOwn (r.withKernel applyMask).topology iface cpus =
      planOwn r.topology iface cpus := by
    unfold planOwn
    dsimp only
    rw [collectNodes_withKernel]
    rfl
  unfold planInterface
  dsimp only
  rw [own]
  rfl

theorem planSocket_withKernel (nodes : String) :
    (r.withKernel applyMask).planSocket target nodes = r.planSocket target nodes := by
  unfold planSocket socketCpus
  simp only [collectNodes_withKernel]
  rfl

theorem plan_withKernel : (r.withKernel applyMask).plan target d = r.plan target d := by
  unfold plan
  rw [planInterface_withKernel, planSocket_withKernel]
  rfl

theorem placeOne_withKernel {disk : Disk}
    (agree : ∀ mask ∈ (r.placeOne target disk d).masks,
      applyMask mask.pid mask.cpus = r.topology.applyMask mask.pid mask.cpus) :
    (r.withKernel applyMask).placeOne target disk d = r.placeOne target disk d := by
  rw [masks_placeOne] at agree
  unfold placeOne
  rw [plan_withKernel]
  cases hp : r.plan target d with
  | error e => rfl
  | ok p =>
    cases p with
    | nothing => rfl
    | enter group name => rfl
    | bind cpus binding =>
      have asked : ⟨target.pid, cpus⟩ ∈ (r.maskOf? target d).toList :=
        Option.mem_toList.mpr (maskOf?_eq_some_iff.mpr ⟨rfl, binding, hp⟩)
      have same : (r.withKernel applyMask).topology.applyMask target.pid cpus =
        r.topology.applyMask target.pid cpus := agree _ asked
      simp only [carryOut, bind, same]

theorem placeAll_withKernel {disk : Disk} {ds : List Directive}
    (agree : ∀ mask ∈ (r.placeAll target disk ds).masks,
      applyMask mask.pid mask.cpus = r.topology.applyMask mask.pid mask.cpus) :
    (r.withKernel applyMask).placeAll target disk ds = r.placeAll target disk ds := by
  induction ds generalizing disk with
  | nil => rfl
  | cons d ds ih =>
    rw [masks_placeAll_cons, List.forall_mem_append, ← masks_placeOne disk] at agree
    obtain ⟨first, rest⟩ := agree
    unfold placeAll
    rw [placeOne_withKernel first]
    cases hr : (r.placeOne target disk d).result with
    | error e => simp only [hr]
    | ok u =>
      rw [hr] at rest
      simp only [hr, ih rest]

/-- The kernel is asked for nothing but the masks of the request: whatever it would say to any other
mask, the request ends the same way. -/
theorem place_withKernel (disk : Disk) (ds : List Directive)
    (agree : ∀ mask ∈ (r.place disk ds target).masks,
      applyMask mask.pid mask.cpus = r.topology.applyMask mask.pid mask.cpus) :
    (r.withKernel applyMask).place disk ds target = r.place disk ds target := by
  have disabled : (r.withKernel applyMask).isDisabled = r.isDisabled := rfl
  have hook : (r.withKernel applyMask).config.hook = r.config.hook := rfl
  unfold place at agree ⊢
  rw [disabled, hook]
  cases off : r.isDisabled with
  | true => rfl
  | false =>
    cases hh : r.config.hook with
    | some hook => rfl
    | none =>
      simp only [off, hh] at agree
      exact placeAll_withKernel agree

/-! ## Whole requests -/

theorem masks_place_of_disabled (disk : Disk) (ds : List Directive) (h : r.isDisabled = true) :
    (r.place disk ds target).masks = [] := by
  simp [place, h, Outcome.masks]

theorem place_eq_placeAll (disk : Disk) (ds : List Directive) (enabled : r.isDisabled = false)
    (unhooked : r.config.hook = none) : r.place disk ds target = r.placeAll target disk ds := by
  simp [place, enabled, unhooked]

/-- Whatever a request asks for and however it ends, it only ever sets masks of its own process that
leave a cpu to run on and none of the blacklist, and it sets none where placement is off or the host
has no nodes. -/
theorem masks_place_admitted (r : Resolver) (disk : Disk) (ds : List Directive) (target : Target)
    (unhooked : r.config.hook = none) :
    (∀ mask ∈ (r.place disk ds target).masks,
      mask.pid = target.pid ∧ mask.cpus ≠ [] ∧ ∀ cpu ∈ mask.cpus, cpu ∉ target.blacklist) ∧
    (r.isDisabled = true ∨ r.topology.available = false →
      (r.place disk ds target).masks = []) := by
  cases off : r.isDisabled with
  | true => simp [masks_place_of_disabled disk ds off]
  | false =>
    rw [place_eq_placeAll disk ds off unhooked]
    constructor
    · intro mask h
      obtain ⟨pid, -, usable⟩ := mask_of_placeAll h
      exact ⟨pid, usable⟩
    · intro h
      refine List.eq_nil_iff_forall_not_mem.mpr fun mask hm => ?_
      simp [(mask_of_placeAll hm).2.1] at h

/-! ## A host with two nodes -/

def interruptTable : String :=
  "  CPU0 CPU1 CPU2 CPU3 CPU4 CPU5 CPU6 CPU7\n 40: 0 0 0 0 0 9 0 0 edge eth0\n"

/-- Two nodes of four cpus, and the interrupts of `eth0` at a cpu of the second. -/
def twoNodes : Resolver where
  config := {}
  environment := []
  files := { Files.empty with read := fun _ => .ok interruptTable }
  topology := Topology.ofTable [(0, [0, 1, 2, 3]), (1, [4, 5, 6, 7])]
  ownPid := 7

theorem interruptCpus_twoNodes : twoNodes.interruptCpus "eth0" = [5] := by cbv

theorem maskOf?_twoNodes :
    twoNodes.maskOf? ⟨1, [2, 7]⟩ ⟨"nic", "eth0"⟩ = some ⟨1, [4, 5, 6]⟩ := by
  have promoted : twoNodes.planInterface ⟨1, [2, 7]⟩ "eth0" =
      .ok (.bind [4, 5, 6] (.interfaceCpus "eth0")) := by
    rw [planInterface, interruptCpus_twoNodes]
    cbv
  rw [maskOf?, plan, promoted]
  cbv

/-- A promoted interface, then a socket that is not there: the request fails after its mask was set,
and the mask is admitted all the same. Without nodes there is none. -/
theorem masks_place_admitted_twoNodes :
    twoNodes.config.hook = none ∧
      ⟨1, [4, 5, 6]⟩ ∈ (twoNodes.place (Disk.empty [])
        [⟨"nic", "eth0"⟩, ⟨"socket", "9"⟩] ⟨1, [2, 7]⟩).masks ∧
      ((1 : Int) = 1 ∧ [4, 5, 6] ≠ [] ∧ ∀ cpu ∈ [4, 5, 6], cpu ∉ [2, 7]) ∧
      Topology.none.available = false ∧
      ({ twoNodes with topology := Topology.none }.place (Disk.empty [])
        [⟨"nic", "eth0"⟩, ⟨"socket", "9"⟩] ⟨1, [2, 7]⟩).masks = [] := by
  have member : ⟨1, [4, 5, 6]⟩ ∈ (twoNodes.place (Disk.empty [])
      [⟨"nic", "eth0"⟩, ⟨"socket", "9"⟩] ⟨1, [2, 7]⟩).masks := by
    rw [place_eq_placeAll _ _ (by cbv) rfl, masks_placeAll_cons, maskOf?_twoNodes]
    simp
  exact ⟨rfl, member, (masks_place_admitted twoNodes _ _ _ rfl).1 _ member, rfl,
    (masks_place_admitted { twoNodes with topology := Topology.none } _ _ _ rfl).2 (.inr rfl)⟩

end Resolver

end Placement

end HostMonitor
