import HostMonitor.Proofs.CpuList.Marks
import HostMonitor.Proofs.CpuList.RoundTrip
import HostMonitor.Proofs.Placement.Interfaces

/-!
# Lists of cpus and of nodes

What a list of cpus or of nodes denotes can be asked for, and a directive can place a process there.
The two agree as long as the topology answers the same: a process runs on what the question is
answered with, less its blacklist. A list of cpus denotes configured ones, where any is configured.
-/

namespace HostMonitor

namespace Placement

/-- Whether the value of a directive is a list of cpus or of nodes. -/
def Directive.IsList (d : Directive) : Prop :=
  d.className = "socket" ∨ d.className = "node" ∨ d.className = "cpu"

/-- What the mask of such a directive is for. -/
def Directive.binding (d : Directive) : Binding :=
  if d.className = "cpu" then .cpu d.value else .socket d.value

/-- Whether such a directive fails with `e'` where the question fails with `e`. Both give the same
cause, a list of cpus is only announced in other words. -/
def Directive.SameFault (d : Directive) (e e' : Error) : Prop :=
  if d.className = "cpu" then
    ∃ cause, e = .invalidCpuQuery d.value cause ∧ e' = .invalidCpus d.value cause
  else e' = e

theorem Directive.SameFault.eq_of_ne {d : Directive} {e e' : Error} (h : d.SameFault e e')
    (other : d.className ≠ "cpu") : e' = e := by
  simpa [SameFault, other] using h

namespace Topology

/-! ## Topologies without cpus -/

/-- A table has no cpus if none of its nodes has any. -/
theorem cpus_ofTable_eq_nil_iff {table : List (Nat × List Nat)} :
    (ofTable table).cpus = [] ↔ ∀ n ∈ table, n.2 = [] := by
  simp [ofTable, CpuList.ascending_eq_nil_iff]

/-- Files show no cpus if the possible ones are given and there are none, or if they are not given
and no node that can be read has any. -/
theorem cpus_ofFiles_eq_nil_iff {files : Files} {roots : Roots} {kernel : Kernel} :
    (ofFiles files roots kernel).cpus = [] ↔
      readList? files (roots.cpu.child "possible") = some [] ∨
        readList? files (roots.cpu.child "possible") = Option.none ∧
          ∀ node ∈ readNodes files roots, ∀ cpus,
            readNode files roots node = .ok cpus → cpus = [] := by
  change readCpus files roots = [] ↔ _
  unfold readCpus
  cases readList? files (roots.cpu.child "possible") with
  | some cpus => simp
  | none =>
    simp only [Option.getD_none, CpuList.ascending_eq_nil_iff, List.flatMap_eq_nil_iff,
      reduceCtorEq,
      false_or, true_and]
    refine forall₂_congr fun node _ => ?_
    cases readNode files roots node <;> simp [Except.toOption]

end Topology

namespace Resolver

variable {r : Resolver} {target : Target} {disk : Disk} {d : Directive} {ds : List Directive}
  {className list : String} {cpus ids : List Nat} {id : Nat} {e : Error} {binding : Binding}
  {mask : Mask}

/-! ## Questions -/

theorem cpuList_of_isList (enabled : r.isDisabled = false) (available : r.topology.available = true)
    (listing : d.IsList) :
    r.cpuList d.className d.value =
      if d.className = "cpu" then
        (CpuList.parse d.value r.topology.cpus).mapError (.invalidCpuQuery d.value)
      else socketCpus r.topology d.value := by
  unfold cpuList
  rcases listing with h | h | h <;> simp [enabled, available, h]

theorem pairwise_of_socketCpus {t : Topology} {nodes : String} (h : socketCpus t nodes = .ok cpus) :
    cpus.Pairwise (· < ·) := by
  obtain ⟨ids, -, h⟩ := Except.bind_eq_ok_iff.mp h
  obtain ⟨collected, -, h⟩ := Except.bind_eq_ok_iff.mp h
  cases h
  exact CpuList.pairwise_ascending collected

/-- Every question is answered in ascending order. -/
theorem pairwise_of_cpuList (h : r.cpuList className list = .ok cpus) : cpus.Pairwise (· < ·) := by
  unfold cpuList at h
  split at h
  · cases h
    exact .nil
  split at h
  · exact pairwise_of_socketCpus h
  split at h
  · exact CpuList.pairwise_of_parse (Except.mapError_eq_ok_iff.mp h)
  · cases h
    exact .nil

/-! ## Directives -/

theorem plan_of_isList (available : r.topology.available = true) (listing : d.IsList) :
    r.plan target d =
      if d.className = "cpu" then r.planCpu target d.value else r.planSocket target d.value := by
  unfold plan
  rcases listing with h | h | h <;> simp [available, h]

/-- A directive asks the question and binds to the answer. -/
theorem plan_cases_of_isList (enabled : r.isDisabled = false)
    (available : r.topology.available = true) (listing : d.IsList) (target : Target) :
    (∃ cpus, r.cpuList d.className d.value = .ok cpus ∧
      r.plan target d = bindAllowed cpus target.blacklist d.binding) ∨
    ∃ e e', r.cpuList d.className d.value = .error e ∧ d.SameFault e e' ∧
      r.plan target d = .error e' := by
  rw [cpuList_of_isList enabled available listing, plan_of_isList available listing]
  unfold Directive.binding Directive.SameFault
  split
  · unfold planCpu
    cases CpuList.parse d.value r.topology.cpus with
    | error cause => exact .inr ⟨_, _, rfl, ⟨cause, rfl, rfl⟩, rfl⟩
    | ok cpus => exact .inl ⟨cpus, rfl, rfl⟩
  · unfold planSocket
    cases socketCpus r.topology d.value with
    | error e => exact .inr ⟨e, e, rfl, rfl, rfl⟩
    | ok cpus => exact .inl ⟨cpus, rfl, rfl⟩

/-! ## What becomes of the process -/

theorem bound_ne_refused {pid : Int} : Outcome.bound disk pid cpus ≠ .refused disk e := by
  simp [Outcome.bound, Outcome.refused]

theorem bindOutside_eq_bound_iff :
    r.bindOutside disk target binding cpus = .bound disk target.pid ids ↔
      ids = CpuList.without cpus target.blacklist ∧ ids ≠ [] ∧
        r.topology.applyMask target.pid ids = .ok () := by
  unfold bindOutside
  by_cases nothing : CpuList.without cpus target.blacklist = []
  · simp only [nothing, if_true]
    constructor
    · intro h
      exact absurd h.symm bound_ne_refused
    · rintro ⟨rfl, usable, -⟩
      exact absurd rfl usable
  · simp only [nothing, if_false, bind]
    cases accepted : r.topology.applyMask target.pid (CpuList.without cpus target.blacklist) with
    | ok u =>
      simp only [Outcome.bound, Outcome.mk.injEq, List.cons.injEq, Effect.mask.injEq, true_and,
        and_true]
      constructor
      · rintro rfl
        exact ⟨rfl, nothing, accepted⟩
      · rintro ⟨rfl, -⟩
        rfl
    | error e =>
      constructor
      · intro h
        simp [Outcome.bound] at h
      · rintro ⟨rfl, -, h⟩
        simp [h] at accepted

theorem bindOutside_of_nothing (nothing : CpuList.without cpus target.blacklist = []) :
    r.bindOutside disk target binding cpus = .refused disk (.allBlacklisted binding) :=
  if_pos nothing

theorem bindOutside_of_error (usable : CpuList.without cpus target.blacklist ≠ [])
    (declined :
      r.topology.applyMask target.pid (CpuList.without cpus target.blacklist) = .error e) :
    r.bindOutside disk target binding cpus =
      ⟨.error (.bindingFailed binding e),
        [.mask target.pid (CpuList.without cpus target.blacklist) false], disk⟩ := by
  simp [bindOutside, bind, usable, declined]

section Placing

variable (enabled : r.isDisabled = false) (unhooked : r.config.hook = none)
  (available : r.topology.available = true) (listing : d.IsList)

include enabled unhooked available listing

/-- A process that is placed by a list runs on the answer, as far as its blacklist allows. -/
theorem place_of_cpuList_ok (answered : r.cpuList d.className d.value = .ok cpus) (disk : Disk)
    (target : Target) : r.place disk [d] target = r.bindOutside disk target d.binding cpus := by
  rcases plan_cases_of_isList enabled available listing target with
    ⟨cpus', answered', planned⟩ | ⟨e, e', failed, -, -⟩
  · obtain rfl : cpus' = cpus := Except.ok.inj (answered'.symm.trans answered)
    exact place_of_bindAllowed enabled unhooked planned
  · simp [failed] at answered

theorem place_of_cpuList_error (failed : r.cpuList d.className d.value = .error e) (disk : Disk)
    (target : Target) : ∃ e', d.SameFault e e' ∧ r.place disk [d] target = .refused disk e' := by
  rcases plan_cases_of_isList enabled available listing target with
    ⟨cpus, answered, -⟩ | ⟨e₁, e', failed', same, planned⟩
  · simp [failed] at answered
  · obtain rfl : e₁ = e := Except.error.inj (failed'.symm.trans failed)
    exact ⟨e', same, place_of_plan_error enabled unhooked planned⟩

theorem place_list_eq_bound_iff :
    r.place disk [d] target = .bound disk target.pid ids ↔
      ∃ cpus, r.cpuList d.className d.value = .ok cpus ∧
        ids = CpuList.without cpus target.blacklist ∧ ids ≠ [] ∧
          r.topology.applyMask target.pid ids = .ok () := by
  constructor
  · intro bound
    cases answered : r.cpuList d.className d.value with
    | ok cpus =>
      have placed := place_of_cpuList_ok enabled unhooked available listing answered disk target
      exact ⟨cpus, rfl, bindOutside_eq_bound_iff.mp (placed.symm.trans bound)⟩
    | error e =>
      obtain ⟨e', -, placed⟩ :=
        place_of_cpuList_error enabled unhooked available listing answered disk target
      exact absurd (bound.symm.trans placed) bound_ne_refused
  · rintro ⟨cpus, answered, left⟩
    have placed := place_of_cpuList_ok enabled unhooked available listing answered disk target
    exact placed.trans (bindOutside_eq_bound_iff.mpr left)

/-- A directive with a list of cpus or of nodes does what the list is said to denote. It sets a mask
exactly if there is an answer that the blacklist leaves something of, and the mask is accepted; the
mask then is what is left, in ascending order. If there is no answer, or nothing is left of it, no
mask is tried and nothing is changed, and nothing is changed either if the mask is not accepted. -/
theorem place_list (disk : Disk) (target : Target) :
    let answer := r.cpuList d.className d.value
    let outcome := r.place disk [d] target
    (∀ mask, outcome = .bound disk target.pid mask ↔
      ∃ cpus, answer = .ok cpus ∧ mask = CpuList.without cpus target.blacklist ∧ mask ≠ [] ∧
        r.topology.applyMask target.pid mask = .ok ()) ∧
    (∀ mask, outcome = .bound disk target.pid mask → mask.Pairwise (· < ·)) ∧
    (∀ e, answer = .error e → ∃ e', d.SameFault e e' ∧ outcome = .refused disk e') ∧
    (∀ cpus, answer = .ok cpus → CpuList.without cpus target.blacklist = [] →
      outcome = .refused disk (.allBlacklisted d.binding)) ∧
    (∀ cpus e, answer = .ok cpus → CpuList.without cpus target.blacklist ≠ [] →
      r.topology.applyMask target.pid (CpuList.without cpus target.blacklist) = .error e →
        outcome.applied = [] ∧ outcome.result = .error (.bindingFailed d.binding e)) := by
  intro answer outcome
  have bound {mask} : outcome = .bound disk target.pid mask ↔ _ :=
    place_list_eq_bound_iff enabled unhooked available listing
  have placed {cpus} (answered : answer = .ok cpus) : outcome = _ :=
    place_of_cpuList_ok enabled unhooked available listing answered disk target
  refine ⟨fun mask => bound, ?ascending, ?failed, ?nothing, ?declined⟩
  case ascending =>
    intro mask h
    obtain ⟨cpus, answered, rfl, -, -⟩ := bound.mp h
    exact (pairwise_of_cpuList answered).filter _
  case failed =>
    intro e failed
    exact place_of_cpuList_error enabled unhooked available listing failed disk target
  case nothing =>
    intro cpus answered nothing
    exact (placed answered).trans (bindOutside_of_nothing nothing)
  case declined =>
    intro cpus e answered usable declined
    have ended := (placed answered).trans (bindOutside_of_error usable declined)
    exact ⟨congrArg Outcome.applied ended, congrArg Outcome.result ended⟩

end Placing

/-- All nodes but the first, and a cpu of the other one blacklisted; then a list whose cpus are all
blacklisted. -/
theorem place_list_twoNodes :
    twoNodes.isDisabled = false ∧ twoNodes.config.hook = none ∧
      twoNodes.topology.available = true ∧
      (⟨"node", "!0"⟩ : Directive).IsList ∧ (⟨"cpu", "4-5"⟩ : Directive).IsList ∧
      twoNodes.cpuList "node" "!0" = .ok [4, 5, 6, 7] ∧
      twoNodes.place (Disk.empty []) [⟨"node", "!0"⟩] ⟨1, [5, 2, 4]⟩ =
        .bound (Disk.empty []) 1 [6, 7] ∧
      twoNodes.cpuList "cpu" "4-5" = .ok [4, 5] ∧
      twoNodes.place (Disk.empty []) [⟨"cpu", "4-5"⟩] ⟨1, [5, 2, 4]⟩ =
        .refused (Disk.empty []) (.allBlacklisted (.cpu "4-5")) := by
  have enabled : twoNodes.isDisabled = false := by cbv
  have available : twoNodes.topology.available = true := by cbv
  have nodes : (⟨"node", "!0"⟩ : Directive).IsList := .inr (.inl rfl)
  have cpus : (⟨"cpu", "4-5"⟩ : Directive).IsList := .inr (.inr rfl)
  have answer : twoNodes.cpuList "node" "!0" = .ok [4, 5, 6, 7] := by cbv
  have answer' : twoNodes.cpuList "cpu" "4-5" = .ok [4, 5] := by cbv
  obtain ⟨bound, -⟩ := place_list enabled rfl available nodes (Disk.empty []) ⟨1, [5, 2, 4]⟩
  obtain ⟨-, -, -, nothing, -⟩ :=
    place_list enabled rfl available cpus (Disk.empty []) ⟨1, [5, 2, 4]⟩
  refine ⟨enabled, rfl, available, nodes, cpus, answer, ?_, answer', ?_⟩
  · exact (bound [6, 7]).mpr ⟨_, answer, by decide, by decide, rfl⟩
  · exact nothing _ answer' (by decide)

/-! ## Cpus that a list can name -/

theorem active_of_mem_masks (h : mask ∈ (r.place disk ds target).masks) :
    r.isDisabled = false ∧ r.config.hook = none := by
  unfold place at h
  split at h
  · cases h
  · next enabled =>
    split at h
    · next hook hooked =>
      unfold handOver at h
      split at h <;> cases h
    · next unhooked => exact ⟨by simpa using enabled, unhooked⟩

theorem plan_of_mem_masks (h : mask ∈ (r.place disk [d] target).masks) :
    mask.pid = target.pid ∧ ∃ binding, r.plan target d = .ok (.bind mask.cpus binding) := by
  obtain ⟨enabled, unhooked⟩ := active_of_mem_masks h
  rw [place_eq_placeAll disk _ enabled unhooked] at h
  obtain ⟨d', hd, planned⟩ := mem_masks_placeAll h
  rw [List.mem_singleton.mp hd] at planned
  exact maskOf?_eq_some_iff.mp planned

/-- The mask of a directive with a list is part of what the list is said to denote. -/
theorem exists_answer_of_mem_masks (listing : d.IsList)
    (h : mask ∈ (r.place disk [d] target).masks) :
    ∃ cpus, r.cpuList d.className d.value = .ok cpus ∧
      mask.cpus = CpuList.without cpus target.blacklist := by
  obtain ⟨-, binding, planned⟩ := plan_of_mem_masks h
  have available := available_of_plan_bind planned
  rcases plan_cases_of_isList (active_of_mem_masks h).1 available listing target with
    ⟨cpus, answered, planned'⟩ | ⟨e, e', -, -, planned'⟩
  · refine ⟨cpus, answered, ?_⟩
    rw [planned] at planned'
    obtain ⟨-, same⟩ := bindAllowed_eq_ok_iff.mp planned'.symm
    exact (Plan.bind.inj same).1
  · simp [planned] at planned'

theorem cpuList_cpu (enabled : r.isDisabled = false) (available : r.topology.available = true)
    (list : String) :
    r.cpuList "cpu" list =
      (CpuList.parse list r.topology.cpus).mapError (.invalidCpuQuery list) := by
  simp [cpuList, enabled, available]

theorem configured_of_cpuList (configured : r.topology.cpus ≠ [])
    (h : r.cpuList "cpu" list = .ok ids) : ∀ id ∈ ids, id ∈ r.topology.cpus := by
  unfold cpuList at h
  split at h
  · cases h
    simp
  · exact CpuList.mem_of_parse configured (Except.mapError_eq_ok_iff.mp h)

/-- Without a configured cpu to compare with, every id passes. -/
theorem cpuList_text (enabled : r.isDisabled = false) (available : r.topology.available = true)
    (nothing : r.topology.cpus = []) (small : id < 2 ^ 64) :
    r.cpuList "cpu" (Text.Numeral.text id) = .ok [id] := by
  rw [cpuList_cpu enabled available, nothing, CpuList.parse_text small]
  rfl

/-- Where some cpu is configured, a list of cpus only denotes configured ones, so does every mask
that it leads to, and a list that mentions another cpu leads nowhere. Where none is, every cpu is
let through. That is so of tables whose nodes have no cpus, and of files that give an empty list of
cpus, or none and no node with a cpu. -/
theorem cpu_list_configured (available : r.topology.available = true) :
    (r.topology.cpus ≠ [] → ∀ list,
      (∀ ids, r.cpuList "cpu" list = .ok ids → ∀ id ∈ ids, id ∈ r.topology.cpus) ∧
      (∀ disk target, ∀ mask ∈ (r.place disk [⟨"cpu", list⟩] target).masks,
        ∀ id ∈ mask.cpus, id ∈ r.topology.cpus) ∧
      (r.isDisabled = false → ∀ id, CpuList.Mentions list.toList id → id ∉ r.topology.cpus →
        (∃ e, r.cpuList "cpu" list = .error e) ∧
        (r.config.hook = none → ∀ disk target,
          ∃ e, r.place disk [⟨"cpu", list⟩] target = .refused disk e))) ∧
    (r.topology.cpus = [] → r.isDisabled = false → ∀ id < 2 ^ 64,
      ∃ list, r.cpuList "cpu" list = .ok [id]) ∧
    (∀ table, r.topology = .ofTable table →
      (r.topology.cpus = [] ↔ ∀ n ∈ table, n.2 = [])) ∧
    (∀ files roots kernel, r.topology = .ofFiles files roots kernel →
      (r.topology.cpus = [] ↔
        Topology.readList? files (roots.cpu.child "possible") = some [] ∨
          Topology.readList? files (roots.cpu.child "possible") = none ∧
            ∀ node ∈ Topology.readNodes files roots, ∀ cpus,
              Topology.readNode files roots node = .ok cpus → cpus = [])) := by
  have listing (list : String) : (⟨"cpu", list⟩ : Directive).IsList := .inr (.inr rfl)
  refine ⟨?configured, ?unconfigured, fun table h => ?table, fun files roots kernel h => ?files⟩
  case configured =>
    intro configured list
    refine ⟨fun ids => configured_of_cpuList configured, ?masks, ?others⟩
    case masks =>
      intro disk target mask h id hid
      obtain ⟨cpus, answered, same⟩ := exists_answer_of_mem_masks (listing list) h
      rw [same] at hid
      exact configured_of_cpuList configured answered id (CpuList.mem_without.mp hid).1
    case others =>
      intro enabled id mentions outside
      obtain ⟨e, fault⟩ := CpuList.exists_error_of_mentions configured outside mentions
      have failed : r.cpuList "cpu" list = .error (.invalidCpuQuery list e) := by
        rw [cpuList_cpu enabled available, CpuList.parse, fault]
        rfl
      refine ⟨⟨_, failed⟩, fun unhooked disk target => ?_⟩
      obtain ⟨e', -, placed⟩ :=
        place_of_cpuList_error enabled unhooked available (listing list) failed disk target
      exact ⟨e', placed⟩
  case unconfigured =>
    intro nothing enabled id small
    exact ⟨_, cpuList_text enabled available nothing small⟩
  case table =>
    rw [h]
    exact Topology.cpus_ofTable_eq_nil_iff
  case files =>
    rw [h]
    exact Topology.cpus_ofFiles_eq_nil_iff

/-- The second node, in a list that blanks and a mark stand in front of, and an id that is no cpu of
the host behind such a mark. -/
theorem cpu_list_configured_twoNodes :
    twoNodes.topology.available = true ∧ twoNodes.topology.cpus ≠ [] ∧
      twoNodes.isDisabled = false ∧ twoNodes.config.hook = none ∧
      twoNodes.cpuList "cpu" " ! 0-3" = .ok [4, 5, 6, 7] ∧
      (∀ id ∈ [4, 5, 6, 7], id ∈ twoNodes.topology.cpus) ∧
      CpuList.Mentions "!7-9".toList 8 ∧ 8 ∉ twoNodes.topology.cpus ∧
      ∃ e, twoNodes.place (Disk.empty []) [⟨"cpu", "!7-9"⟩] ⟨1, []⟩ =
        .refused (Disk.empty []) e := by
  have enabled : twoNodes.isDisabled = false := by cbv
  have available : twoNodes.topology.available = true := by cbv
  have cpus : twoNodes.topology.cpus = [0, 1, 2, 3, 4, 5, 6, 7] := by cbv
  have configured : twoNodes.topology.cpus ≠ [] := by simp [cpus]
  have answer : twoNodes.cpuList "cpu" " ! 0-3" = .ok [4, 5, 6, 7] := by cbv
  have names : CpuList.Names "7-9".toList ⟨7, 9⟩ :=
    (CpuList.names_iff_of_cut (a := "7".toList) (b := "9".toList) (by decide)).mpr
      ⟨CpuList.word?_eq_some_iff.mp (by cbv), CpuList.word?_eq_some_iff.mp (by cbv), by decide⟩
  have behind : CpuList.Mentions "7-9".toList 8 :=
    .listed (by decide) (by decide) ⟨"7-9".toList, by decide, ⟨7, 9⟩, names, by decide⟩
  have mentions : CpuList.Mentions "!7-9".toList 8 := .marked (by decide) behind
  have outside : 8 ∉ twoNodes.topology.cpus := by simp [cpus]
  obtain ⟨within, -⟩ := cpu_list_configured available
  refine ⟨available, configured, enabled, rfl, answer, (within configured _).1 _ answer, mentions,
    outside, ?_⟩
  exact ((within configured "!7-9").2.2 enabled 8 mentions outside).2 rfl _ _

/-- A host whose only node has no cpus. -/
def memoryNode : Resolver :=
  { twoNodes with topology := Topology.ofTable [(0, [])] }

/-- Nothing is configured, and a process is bound to a cpu that is not there. -/
theorem cpu_list_unconfigured :
    memoryNode.topology.available = true ∧
      (¬∀ ids, memoryNode.cpuList "cpu" "5" = .ok ids → ∀ id ∈ ids, id ∈ memoryNode.topology.cpus) ∧
      ¬∀ mask ∈ (memoryNode.place (Disk.empty []) [⟨"cpu", "5"⟩] ⟨1, []⟩).masks,
        ∀ id ∈ mask.cpus, id ∈ memoryNode.topology.cpus := by
  have cpus : memoryNode.topology.cpus = [] := Topology.cpus_ofTable_eq_nil_iff.mpr (by simp)
  have answer : memoryNode.cpuList "cpu" "5" = .ok [5] := by cbv
  have masks : (memoryNode.place (Disk.empty []) [⟨"cpu", "5"⟩] ⟨1, []⟩).masks = [⟨1, [5]⟩] := by
    cbv
  refine ⟨by cbv, fun within => ?_, fun within => ?_⟩
  · simpa [cpus] using within _ answer
  · simp [masks, cpus] at within

end Resolver

end Placement

end HostMonitor
