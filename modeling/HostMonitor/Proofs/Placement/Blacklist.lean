import HostMonitor.CommandLine.Placing
import HostMonitor.Proofs.CpuList.Parsing
import HostMonitor.Proofs.Placement.Masks

/-!
# Blacklists of requests

A blacklist is read as if nothing were configured, the lists of directives are read against the cpus
of the host, which stay the same throughout a request. A blacklist that names its cpus keeps them
out of every mask. One that is relative to the configured cpus is accepted as well and keeps none of
them out.
-/

namespace HostMonitor

open CpuList (IsExplicit)

namespace Placement.Resolver

variable {r : Resolver} {pid : Int}

theorem planCpu_all (hne : r.topology.cpus ≠ []) :
    r.planCpu ⟨pid, []⟩ "all" =
      .ok (.bind (CpuList.ascending r.topology.cpus) (.cpu "all")) := by
  have nonempty : CpuList.ascending r.topology.cpus ≠ [] := by
    obtain ⟨cpu, hc⟩ := List.exists_mem_of_ne_nil _ hne
    exact List.ne_nil_of_mem (CpuList.mem_ascending.mpr hc)
  refine Except.bind_eq_ok_iff.mpr ⟨CpuList.ascending r.topology.cpus, ?_, ?_⟩
  · rw [CpuList.parse_all]
    rfl
  · simp [bindAllowed, CpuList.without_nil, nonempty]

theorem maskOf?_cpu_all (available : r.topology.available = true) (hne : r.topology.cpus ≠ []) :
    r.maskOf? ⟨pid, []⟩ ⟨"cpu", "all"⟩ = some ⟨pid, CpuList.ascending r.topology.cpus⟩ := by
  have planned : r.plan ⟨pid, []⟩ ⟨"cpu", "all"⟩ = r.planCpu ⟨pid, []⟩ "all" := by
    simp [plan, available]
  rw [maskOf?, planned, planCpu_all hne]

/-- Without a blacklist every configured cpu is in some mask. -/
theorem exists_mask_of_mem {cpu : Nat} (enabled : r.isDisabled = false)
    (unhooked : r.config.hook = none) (available : r.topology.available = true)
    (hc : cpu ∈ r.topology.cpus) (disk : Disk) (pid : Int) :
    ∃ ds, ∃ mask ∈ (r.place disk ds ⟨pid, []⟩).masks, cpu ∈ mask.cpus := by
  refine ⟨[⟨"cpu", "all"⟩], ⟨pid, CpuList.ascending r.topology.cpus⟩, ?_,
    CpuList.mem_ascending.mpr hc⟩
  rw [place_eq_placeAll disk _ enabled unhooked, masks_placeAll_cons,
    maskOf?_cpu_all available (List.ne_nil_of_mem hc)]
  simp

end Placement.Resolver

namespace CommandLine.PlacementRequest

open Placement

variable {q : PlacementRequest} {s : Settings} {r : Resolver} {text : String}
  {blacklist ids : List Nat}

/-- The text of the blacklist in force. -/
def blacklistText? (q : PlacementRequest) (s : Settings) : Option String :=
  q.blacklist.or s.placement.blacklist

theorem blacklistedCpus_of_parse (h : CpuList.parse text [] = .ok blacklist) :
    blacklistedCpus { q with blacklist := some text } s = .ok blacklist := by
  simp [blacklistedCpus, h, Except.mapError]

theorem parse_of_blacklistedCpus (given : q.blacklistText? s = some text)
    (accepted : q.blacklistedCpus s = .ok blacklist) (hne : Text.trim text.toList ≠ []) :
    CpuList.parse text [] = .ok blacklist := by
  unfold blacklistText? at given
  unfold blacklistedCpus at accepted
  cases hq : q.blacklist with
  | some list =>
    rw [hq] at given accepted
    cases given
    exact Except.mapError_eq_ok_iff.mp accepted
  | none =>
    rw [hq, Option.none_or] at given
    rw [hq] at accepted
    have read := Except.mapError_eq_ok_iff.mp accepted
    rw [PlacementSettings.blacklistedCpus, given] at read
    dsimp only at read
    rwa [if_neg (by simpa using hne)] at read

/-- The ids that an accepted blacklist denotes on a host stay out of every mask exactly if the list
names them, if it denotes nothing there, or if placement is off and no mask is ever set. -/
theorem masks_avoid_blacklist_iff (given : q.blacklistText? s = some text)
    (accepted : q.blacklistedCpus s = .ok blacklist) (unhooked : r.config.hook = none)
    (available : r.topology.available = true) (configured : r.topology.cpus ≠ [])
    (denoted : CpuList.parse text r.topology.cpus = .ok ids) (pid : Int) :
    (∀ disk ds, ∀ mask ∈ (r.place disk ds ⟨pid, blacklist⟩).masks, ∀ id ∈ ids, id ∉ mask.cpus) ↔
      IsExplicit text ∨ ids = [] ∨ r.isDisabled = true := by
  have read := parse_of_blacklistedCpus given accepted (CpuList.trim_ne_nil_of_parse denoted)
  constructor
  · intro avoided
    by_cases explicit : IsExplicit text
    · exact .inl explicit
    cases off : r.isDisabled with
    | true => exact .inr (.inr rfl)
    | false =>
      refine .inr (.inl (List.eq_nil_iff_forall_not_mem.mpr fun id hid => ?_))
      -- The list was read as nothing, so a request for all cpus reaches each id.
      have nothing : blacklist = [] := CpuList.eq_nil_of_parse_nil explicit read
      subst nothing
      have member := CpuList.mem_of_parse configured denoted id hid
      obtain ⟨ds, mask, hm, hc⟩ :=
        Resolver.exists_mask_of_mem off unhooked available member (Disk.empty []) pid
      exact avoided _ ds mask hm id hid hc
  · intro safe disk ds mask hm id hid
    cases off : r.isDisabled with
    | true => simp [Resolver.masks_place_of_disabled disk ds off] at hm
    | false =>
      rw [Resolver.place_eq_placeAll disk ds off unhooked] at hm
      rcases safe with explicit | rfl | h
      · have same : blacklist = ids := by
          rw [CpuList.parse_nil_of_isExplicit explicit denoted] at read
          exact (Except.ok.inj read).symm
        intro hc
        exact (Resolver.mask_of_placeAll hm).2.2.2 id hc (same ▸ hid)
      · cases hid
      · simp [off] at h

/-- Two cpus that a request names stay out of the masks of every request on the host. -/
theorem masks_avoid_named_cpus :
    blacklistedCpus { blacklist := some " 7, 2" } Settings.standard = .ok [2, 7] ∧
      ∀ disk ds, ∀ mask ∈ (Resolver.twoNodes.place disk ds ⟨1, [2, 7]⟩).masks, ∀ id ∈ [2, 7],
        id ∉ mask.cpus := by
  have accepted : blacklistedCpus { blacklist := some " 7, 2" } Settings.standard = .ok [2, 7] :=
    blacklistedCpus_of_parse (q := {}) (by cbv)
  have configured : Resolver.twoNodes.topology.cpus = [0, 1, 2, 3, 4, 5, 6, 7] := by cbv
  refine ⟨accepted, (masks_avoid_blacklist_iff rfl accepted rfl (by cbv) ?_ ?_ 1).mpr
    (.inl (by decide))⟩
  · simp [configured]
  · rw [configured]
    cbv

/-- Every cpu of the host is blacklisted, and a mask of one of them is set. -/
theorem mask_of_blacklisted_cpu :
    blacklistedCpus { blacklist := some "all" } Settings.standard = .ok [] ∧
      CpuList.parse "all" Resolver.twoNodes.topology.cpus = .ok [0, 1, 2, 3, 4, 5, 6, 7] ∧
      ¬∀ mask ∈ (Resolver.twoNodes.place (Disk.empty []) [⟨"cpu", "0"⟩] ⟨1, []⟩).masks,
        ∀ id ∈ [0, 1, 2, 3, 4, 5, 6, 7], id ∉ mask.cpus := by
  have masks : (Resolver.twoNodes.place (Disk.empty []) [⟨"cpu", "0"⟩] ⟨1, []⟩).masks =
      [⟨1, [0]⟩] := by cbv
  have nothing : CpuList.parse "all" [] = .ok [] := by
    rw [CpuList.parse_all, CpuList.ascending_nil]
  refine ⟨blacklistedCpus_of_parse (q := {}) nothing, by cbv, ?_⟩
  simp [masks]

end CommandLine.PlacementRequest

end HostMonitor
