import HostMonitor.Proofs.Placement.Lists

/-!
# Requests under a larger blacklist

A larger blacklist takes its ids out of the masks of a request, and ends the request where it leaves
no cpu to run on. Nothing else comes of it for directives with lists: no mask is set that the
smaller blacklist would not have set with more cpus. How a blacklist is ordered and what it repeats
matters to no directive. Both requests are made of the same host: the topology and the interrupts
answer the same in both, and throughout each.
-/

namespace HostMonitor

namespace Placement

/-- The mask less the ids of a blacklist. -/
def Mask.without (mask : Mask) (blacklist : List Nat) : Mask :=
  { mask with cpus := CpuList.without mask.cpus blacklist }

/-- The masks that a request has set, in order. -/
def Outcome.appliedMasks (o : Outcome) : List Mask :=
  o.applied.filterMap Effect.mask?

namespace Resolver

variable {r : Resolver} {target : Target} {disk : Disk} {d : Directive} {ds : List Directive}
  {pid : Int} {small large : List Nat} {mask : Mask}

/-! ## Masks that are accepted -/

theorem mem_effects_placeAll {effect : Effect}
    (h : effect ∈ (r.placeAll target disk ds).effects) :
    ∃ d ∈ ds, ∃ disk, effect ∈ (r.placeOne target disk d).effects := by
  induction ds generalizing disk with
  | nil => simp [placeAll] at h
  | cons d ds ih =>
    cases result : (r.placeOne target disk d).result with
    | error e =>
      rw [placeAll_cons_of_error result] at h
      exact ⟨d, by simp, disk, h⟩
    | ok u =>
      rw [placeAll_cons_of_ok result] at h
      rcases List.mem_append.mp h with first | later
      · exact ⟨d, by simp, disk, first⟩
      · obtain ⟨d', hd, disk', made⟩ := ih later
        exact ⟨d', by simp [hd], disk', made⟩

theorem isApplied_of_mask (accepts : ∀ cpus, r.topology.applyMask target.pid cpus = .ok ())
    {effect : Effect} (h : effect ∈ (r.placeAll target disk ds).effects)
    (tried : effect.mask? = some mask) : effect.isApplied = true := by
  obtain ⟨d, -, disk', made⟩ := mem_effects_placeAll h
  unfold placeOne at made
  cases planned : r.plan target d with
  | error e => simp [planned] at made
  | ok p =>
    rw [planned] at made
    cases p with
    | nothing => simp [carryOut] at made
    | bind cpus binding =>
      simp only [carryOut, bind, accepts, List.mem_singleton] at made
      simp [made, Effect.isApplied]
    | enter group name =>
      simp only [carryOut, enter] at made
      split at made <;> simp_all [Effect.mask?]

/-- Where every mask is accepted, the masks that are tried are set. -/
theorem appliedMasks_placeAll (accepts : ∀ cpus, r.topology.applyMask target.pid cpus = .ok ()) :
    (r.placeAll target disk ds).appliedMasks = (r.placeAll target disk ds).masks := by
  unfold Outcome.appliedMasks Outcome.applied Outcome.masks
  rw [List.filterMap_filter]
  refine List.filterMap_congr fun effect made => ?_
  cases tried : effect.mask? with
  | none => simp
  | some mask => simp [isApplied_of_mask accepts made tried]

/-! ## One directive with a list -/

section Listing

variable (enabled : r.isDisabled = false) (available : r.topology.available = true)
  (listing : d.IsList)

include enabled available listing

/-- The blacklist plays no part in what a list denotes. -/
theorem exists_plan_of_isList :
    (∃ cpus, ∀ target, r.plan target d = bindAllowed cpus target.blacklist d.binding) ∨
      ∀ target, ∃ e, r.plan target d = .error e := by
  have planned := plan_cases_of_isList enabled available listing
  cases answered : r.cpuList d.className d.value with
  | ok cpus =>
    refine .inl ⟨cpus, fun target => ?_⟩
    rcases planned target with ⟨cpus', same, bound⟩ | ⟨e, e', failed, -⟩
    · rw [answered] at same
      cases same
      exact bound
    · simp [answered] at failed
  | error e =>
    refine .inr fun target => ?_
    rcases planned target with ⟨cpus, found, -⟩ | ⟨e, e', -, -, failed⟩
    · simp [answered] at found
    · exact ⟨e', failed⟩

/-- What a larger blacklist leaves a process to run on is part of what a smaller one leaves. -/
theorem exists_mask_of_larger (larger : ∀ id ∈ small, id ∈ large)
    (h : r.maskOf? ⟨pid, large⟩ d = some mask) :
    ∃ mask', r.maskOf? ⟨pid, small⟩ d = some mask' ∧ mask = mask'.without large := by
  obtain ⟨own, binding, planned⟩ := maskOf?_eq_some_iff.mp h
  rcases exists_plan_of_isList enabled available listing with ⟨cpus, plans⟩ | fails
  · rw [plans, bindAllowed_eq_ok_iff] at planned
    obtain ⟨usable, same⟩ := planned
    have left : CpuList.without cpus small ≠ [] := by
      intro nothing
      apply usable
      rw [← CpuList.without_without larger, nothing]
      rfl
    refine ⟨⟨pid, CpuList.without cpus small⟩, maskOf?_eq_some_iff.mpr ⟨rfl, d.binding, ?_⟩, ?_⟩
    · rw [plans, bindAllowed_eq_ok_iff]
      exact ⟨left, rfl⟩
    · obtain ⟨pid', cpus'⟩ := mask
      simp_all [Mask.without, CpuList.without_without larger]
  · obtain ⟨e, failed⟩ := fails ⟨pid, large⟩
    simp [failed] at planned

/-- A directive with a list sets its mask, or else it fails and changes nothing. -/
theorem placeOne_cases_of_isList (target : Target)
    (accepts : ∀ cpus, r.topology.applyMask target.pid cpus = .ok ()) (disk : Disk) :
    (∃ mask, r.maskOf? target d = some mask ∧
      r.placeOne target disk d = .bound disk mask.pid mask.cpus) ∨
    r.maskOf? target d = none ∧ ∃ e, r.placeOne target disk d = .refused disk e := by
  unfold maskOf? placeOne
  rcases exists_plan_of_isList enabled available listing with ⟨cpus, plans⟩ | fails
  · cases planned : r.plan target d with
    | error e => exact .inr ⟨rfl, e, rfl⟩
    | ok p =>
      rw [plans, bindAllowed_eq_ok_iff] at planned
      obtain ⟨-, rfl⟩ := planned
      refine .inl ⟨_, rfl, ?_⟩
      simp [carryOut, bind, accepts, Outcome.bound]
  · obtain ⟨e, failed⟩ := fails target
    rw [failed]
    exact .inr ⟨rfl, e, rfl⟩

end Listing

/-! ## Requests with lists -/

theorem masks_placeAll_of_bound (first : r.placeOne target disk d = .bound disk mask.pid mask.cpus)
    (ds : List Directive) :
    (r.placeAll target disk (d :: ds)).masks = mask :: (r.placeAll target disk ds).masks ∧
      (r.placeAll target disk (d :: ds)).result = (r.placeAll target disk ds).result := by
  have done : (r.placeOne target disk d).result = .ok () := by rw [first]; rfl
  rw [placeAll_cons_of_ok done, first]
  exact ⟨rfl, rfl⟩

/-- The two requests set their masks one by one, until the larger blacklist stops one of them. -/
theorem masks_placeAll_of_larger (enabled : r.isDisabled = false)
    (available : r.topology.available = true)
    (accepts : ∀ cpus, r.topology.applyMask pid cpus = .ok ()) (lists : ∀ d ∈ ds, d.IsList)
    (larger : ∀ id ∈ small, id ∈ large) (disk : Disk) :
    (r.placeAll ⟨pid, large⟩ disk ds).masks <+:
        (r.placeAll ⟨pid, small⟩ disk ds).masks.map (·.without large) ∧
      ((r.placeAll ⟨pid, large⟩ disk ds).result = .ok () →
        (r.placeAll ⟨pid, small⟩ disk ds).result = .ok () ∧
          (r.placeAll ⟨pid, large⟩ disk ds).masks =
            (r.placeAll ⟨pid, small⟩ disk ds).masks.map (·.without large)) := by
  induction ds with
  | nil => exact ⟨List.prefix_rfl, fun _ => ⟨rfl, rfl⟩⟩
  | cons d ds ih =>
    obtain ⟨listing, others⟩ := List.forall_mem_cons.mp lists
    obtain ⟨before, all⟩ := ih others
    rcases placeOne_cases_of_isList enabled available listing ⟨pid, large⟩ accepts disk with
      ⟨mask, masked, bound⟩ | ⟨-, e, refused⟩
    · obtain ⟨mask', masked', rfl⟩ := exists_mask_of_larger enabled available listing larger masked
      rcases placeOne_cases_of_isList enabled available listing ⟨pid, small⟩ accepts disk with
        ⟨mask, same, bound'⟩ | ⟨none, -⟩
      · rw [masked'] at same
        cases same
        obtain ⟨masks, result⟩ := masks_placeAll_of_bound bound ds
        obtain ⟨masks', result'⟩ := masks_placeAll_of_bound bound' ds
        rw [masks, masks', result, result', List.map_cons, List.cons_prefix_cons]
        exact ⟨⟨rfl, before⟩, fun done => ⟨(all done).1, by rw [(all done).2]⟩⟩
      · simp [masked'] at none
    · have failed : (r.placeOne ⟨pid, large⟩ disk d).result = .error e := by rw [refused]; rfl
      rw [placeAll_cons_of_error failed, refused]
      exact ⟨List.nil_prefix, nofun⟩

/-! ## Blacklists with the same members -/

section Same

variable (same : ∀ id, id ∈ small ↔ id ∈ large)

include same

theorem planInterface_congr (pid : Int) (iface : String) :
    r.planInterface ⟨pid, small⟩ iface = r.planInterface ⟨pid, large⟩ iface := by
  have empty : small.isEmpty = large.isEmpty := by
    rw [Bool.eq_iff_iff]
    simp [List.eq_nil_iff_forall_not_mem, same]
  unfold planInterface promoted bindAllowed
  simp only [empty, CpuList.without_congr same]

/-- A directive asks for the same, however the blacklist is written. -/
theorem plan_congr (pid : Int) (d : Directive) :
    r.plan ⟨pid, small⟩ d = r.plan ⟨pid, large⟩ d := by
  unfold plan planSocket planCpu bindAllowed
  simp only [planInterface_congr same, CpuList.without_congr same]

theorem placeAll_congr (pid : Int) (disk : Disk) (ds : List Directive) :
    r.placeAll ⟨pid, small⟩ disk ds = r.placeAll ⟨pid, large⟩ disk ds := by
  have one (disk : Disk) (d : Directive) :
      r.placeOne ⟨pid, small⟩ disk d = r.placeOne ⟨pid, large⟩ disk d := by
    unfold placeOne
    rw [plan_congr same]
  induction ds generalizing disk with
  | nil => rfl
  | cons d ds ih => simp only [placeAll, one, ih]

end Same

/-! ## Whole requests -/

/-- On a host that accepts every mask, as one described by a table does, a request with lists sets
under a larger blacklist the masks that it sets under a smaller one, each without the blacklisted
ids, up to the directive that stops it. If it succeeds it sets all of them, and then it succeeds
under the smaller one too. The order of a blacklist and what it repeats make no difference. -/
theorem place_of_larger_blacklist (enabled : r.isDisabled = false) (unhooked : r.config.hook = none)
    (available : r.topology.available = true)
    (accepts : ∀ cpus, r.topology.applyMask pid cpus = .ok ()) (lists : ∀ d ∈ ds, d.IsList)
    (larger : ∀ id ∈ small, id ∈ large) (disk : Disk) :
    let few := r.place disk ds ⟨pid, small⟩
    let many := r.place disk ds ⟨pid, large⟩
    many.appliedMasks <+: few.appliedMasks.map (·.without large) ∧
    (many.result = .ok () →
      few.result = .ok () ∧ many.appliedMasks = few.appliedMasks.map (·.without large)) ∧
    ((∀ id ∈ large, id ∈ small) → many = few) := by
  have applied (blacklist : List Nat) : (r.placeAll ⟨pid, blacklist⟩ disk ds).appliedMasks =
      (r.placeAll ⟨pid, blacklist⟩ disk ds).masks := appliedMasks_placeAll accepts
  simp only [place_eq_placeAll disk ds enabled unhooked, applied]
  obtain ⟨before, all⟩ := masks_placeAll_of_larger enabled available accepts lists larger disk
  refine ⟨before, all, fun smaller => ?_⟩
  exact (placeAll_congr (fun id => ⟨larger id, smaller id⟩) pid disk ds).symm

/-- The larger blacklist leaves nothing of the second list, so that the third is not reached. -/
theorem place_of_larger_blacklist_stopped :
    let ds : List Directive := [⟨"socket", "0"⟩, ⟨"cpu", "4-5"⟩, ⟨"node", "1"⟩]
    twoNodes.isDisabled = false ∧ twoNodes.config.hook = none ∧
      twoNodes.topology.available = true ∧
      (∀ cpus, twoNodes.topology.applyMask 1 cpus = .ok ()) ∧ (∀ d ∈ ds, d.IsList) ∧
      (∀ id ∈ [1], id ∈ [4, 1, 5, 5]) ∧
      (twoNodes.place (Disk.empty []) ds ⟨1, [1]⟩).appliedMasks =
        [⟨1, [0, 2, 3]⟩, ⟨1, [4, 5]⟩, ⟨1, [4, 5, 6, 7]⟩] ∧
      (twoNodes.place (Disk.empty []) ds ⟨1, [4, 1, 5, 5]⟩).appliedMasks = [⟨1, [0, 2, 3]⟩] ∧
      (twoNodes.place (Disk.empty []) ds ⟨1, [4, 1, 5, 5]⟩).appliedMasks <+:
        (twoNodes.place (Disk.empty []) ds ⟨1, [1]⟩).appliedMasks.map (·.without [4, 1, 5, 5]) := by
  intro ds
  have enabled : twoNodes.isDisabled = false := by cbv
  have available : twoNodes.topology.available = true := by cbv
  have accepts : ∀ cpus, twoNodes.topology.applyMask 1 cpus = .ok () := fun _ => rfl
  have lists : ∀ d ∈ ds, d.IsList := by simp [ds, Directive.IsList]
  have larger : ∀ id ∈ [1], id ∈ [4, 1, 5, 5] := by decide
  refine ⟨enabled, rfl, available, accepts, lists, larger, by cbv, by cbv, ?_⟩
  exact (place_of_larger_blacklist enabled rfl available accepts lists larger (Disk.empty [])).1

/-- A hook gives the answer by itself and leaves masks and disk alone. -/
theorem place_of_hook {hook : Hook} (enabled : r.isDisabled = false)
    (hooked : r.config.hook = some hook) (disk : Disk) (ds : List Directive) (target : Target) :
    (r.place disk ds target).result = hook ds target.pid target.blacklist ∧
      (r.place disk ds target).appliedMasks = [] ∧ (r.place disk ds target).disk = disk := by
  have handed : r.place disk ds target = handOver hook disk ds target := by
    simp [place, enabled, hooked]
  rw [handed, handOver]
  cases hook ds target.pid target.blacklist <;> exact ⟨rfl, rfl, rfl⟩

end Resolver

end Placement

end HostMonitor
