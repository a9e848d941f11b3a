import HostMonitor.Proofs.Nic.Decisions
import HostMonitor.Proofs.Nic.History
import Mathlib.Data.List.Perm.Subperm

/-!
# Headroom

With exact arithmetic, a ledger that holds a part of what another holds has at least as much left on
every device. What the other grants it grants as well, on a device that comes no later.
-/

namespace HostMonitor.Nic.Ledger

section

variable {α : Type} {l l' : Ledger α}

/-! ## Parts of a ledger -/

/-- Under the same percentage, a part of what another ledger holds. -/
structure PartOf (l' l : Ledger α) : Prop where
  maxPercent : l'.maxPercent = l.maxPercent
  keys : l'.held.keys ⊆ l.held.keys
  reservations : l'.reservations.Subperm l.reservations

theorem Holds.partOf {held held' : List (Reservation α)} (h' : l'.Holds held') (h : l.Holds held)
    (percent : l'.maxPercent = l.maxPercent) (subset : l'.reservations ⊆ l.reservations) :
    l'.PartOf l where
  maxPercent := percent
  keys := by
    rw [h'.keys_eq, h.keys_eq]
    exact List.map_subset _ subset
  reservations := List.subperm_of_subset h'.nodup subset

theorem partOf_freed (l : Ledger α) (identifier : String) : (l.freed identifier).PartOf l where
  maxPercent := rfl
  keys := (List.filter_sublist.map Prod.fst).subset
  reservations := (reservations_freed_sublist l identifier).subperm

variable [Scalar α] {r : Reservation α} {devices : List (Capacity α)} {c : Capacity α} {i : Nat}

theorem run_concat (l : Ledger α) (ts : List (Transaction α)) (t : Transaction α) :
    l.run (ts ++ [t]) = (l.run ts).after t := by
  rw [run, List.foldl_concat, run]

/-- A release leaves a part of what there was, whether it succeeds or not. -/
theorem partOf_after_release (l : Ledger α) (identifier : String) :
    (l.after (.release identifier)).PartOf l := by
  rw [after]
  rcases release_cases l identifier with ⟨-, h⟩ | ⟨e, h⟩ <;> rw [h]
  · exact partOf_freed l identifier
  · exact ⟨rfl, fun _ held => held, .refl _⟩

/-- Whatever is held has been asked for at a rate. -/
def IsRated (l : Ledger α) : Prop :=
  ∀ r ∈ l.reservations, Reservation.isRate r.dataRate = true

theorem isRated_empty (maxPercent : α) : (empty maxPercent).IsRated := by
  intro r hr
  simp [Ledger.reservations, empty, Assoc.empty, Assoc.values] at hr

namespace IsRated

theorem after (h : l.IsRated) (t : Transaction α) : (l.after t).IsRated := by
  intro r' hr'
  rcases after_cases l t with same | ⟨r, devices, c, -, grants, granted⟩ | ⟨identifier, freed⟩
  · rw [same] at hr'
    exact h r' hr'
  · rw [granted, (reservations_grant_perm c.device grants.fresh).mem_iff] at hr'
    rcases List.mem_cons.mp hr' with rfl | held
    · exact grants.isRate
    · exact h r' held
  · rw [freed] at hr'
    exact h r' ((reservations_freed_sublist l identifier).subset hr')

theorem run (h : l.IsRated) (ts : List (Transaction α)) : (l.run ts).IsRated := by
  induction ts generalizing l with
  | nil => exact h
  | cons t ts ih => exact ih (h.after t)

end IsRated

/-! ## Positions -/

/-- A request is granted on the device at position `i`. -/
def GrantsAt (l : Ledger α) (r : Reservation α) (devices : List (Capacity α)) (i : Nat) : Prop :=
  ∃ c, l.FirstEligible r devices i c ∧ l.allocate r devices = ⟨.ok true, l.grant r c.device⟩

theorem grantsAt_iff :
    l.GrantsAt r devices i ↔
      r.WellFormed ∧ r.identifier ∉ l.held.keys ∧ ∃ c, l.FirstEligible r devices i c := by
  constructor
  · rintro ⟨c, first, answer⟩
    obtain ⟨well, fresh, -⟩ := allocate_grants_iff.mp answer
    exact ⟨well, fresh, c, first⟩
  · rintro ⟨well, fresh, c, first⟩
    exact ⟨c, first, allocate_grants_iff.mpr ⟨well, fresh, i, c, first, rfl⟩⟩

/-- Where a device is eligible, the first that is comes no later. -/
theorem exists_firstEligible (offered : devices[i]? = some c) (eligible : l.Eligible r c) :
    ∃ j ≤ i, ∃ c', l.FirstEligible r devices j c' := by
  classical
  have here : ∃ c, devices[i]? = some c ∧ l.Eligible r c := ⟨c, offered, eligible⟩
  have found : ∃ j c, devices[j]? = some c ∧ l.Eligible r c := ⟨i, here⟩
  -- The least position with an eligible device has none before it.
  obtain ⟨c', offered', eligible'⟩ := Nat.find_spec found
  refine ⟨Nat.find found, Nat.find_min' found here, c', offered', eligible', ?_⟩
  intro d hd also
  obtain ⟨j, before, rfl⟩ := List.mem_take_iff_getElem.mp hd
  have earlier : j < Nat.find found := lt_of_lt_of_le before (min_le_left _ _)
  exact Nat.find_min found earlier ⟨_, List.getElem?_eq_getElem _, also⟩

end

/-! ## What is left -/

variable {l l' : Ledger ℚ} {r : Reservation ℚ} {devices : List (Capacity ℚ)} {c : Capacity ℚ}
  {i : Nat}

theorem available_eq (l : Ledger ℚ) (c : Capacity ℚ) :
    l.available c = max (l.limit c.speed - max (l.allocated c.device) c.throughput) 0 := by
  rw [available, Scalar.max_rat, Scalar.max_rat, Scalar.zero_rat]

namespace PartOf

theorem allocated_le (h : l'.PartOf l) (rated : l.IsRated) (device : String) :
    l'.allocated device ≤ l.allocated device := by
  -- A part is what is left of a permutation, and what is left out is reserved at no less than zero.
  obtain ⟨kept, same, part⟩ := h.reservations
  rw [allocated_eq, allocated_eq, ← ((same.filter _).map Reservation.required).sum_eq]
  refine ((part.filter _).map _).sum_le_sum ?_
  intro x hx
  obtain ⟨r, hr, rfl⟩ := List.mem_map.mp hx
  exact Reservation.required_nonneg (rated r (List.mem_of_mem_filter hr))

theorem available_le (h : l'.PartOf l) (rated : l.IsRated) (c : Capacity ℚ) :
    l.available c ≤ l'.available c := by
  have used : max (l'.allocated c.device) c.throughput ≤ max (l.allocated c.device) c.throughput :=
    max_le_max_right c.throughput (h.allocated_le rated c.device)
  rw [available_eq, available_eq, limit_eq, limit_eq, h.maxPercent]
  exact max_le_max_right 0 (sub_le_sub_left used _)

theorem eligible (h : l'.PartOf l) (rated : l.IsRated) (eligible : l.Eligible r c) :
    l'.Eligible r c where
  device := eligible.device
  multicast := eligible.multicast
  address := eligible.address
  room := by
    have room : r.required ≤ l.available c := by simpa using eligible.room
    simpa using room.trans (h.available_le rated c)

theorem grantsAt (h : l'.PartOf l) (rated : l.IsRated) (granted : l.GrantsAt r devices i) :
    ∃ j ≤ i, l'.GrantsAt r devices j := by
  obtain ⟨well, fresh, c, first⟩ := grantsAt_iff.mp granted
  have fresh' : r.identifier ∉ l'.held.keys := fun held => fresh (h.keys held)
  obtain ⟨j, earlier, c', first'⟩ :=
    exists_firstEligible first.offered (h.eligible rated first.eligible)
  exact ⟨j, earlier, grantsAt_iff.mpr ⟨well, fresh', c', first'⟩⟩

end PartOf

/-- Of two ledgers under one percentage, one that holds only a part of what the other holds grants
every request that the other grants, and on a device that comes no later. -/
theorem grantsAt_of_subset {percent : ℚ} {ts ts' : List (Transaction ℚ)}
    (subset : ((empty percent).run ts').reservations ⊆ ((empty percent).run ts).reservations)
    (granted : ((empty percent).run ts).GrantsAt r devices i) :
    ∃ j ≤ i, ((empty percent).run ts').GrantsAt r devices j := by
  obtain ⟨_, -, holds⟩ := (Holds.empty percent).run ts
  obtain ⟨_, -, holds'⟩ := (Holds.empty percent).run ts'
  have percents : ((empty percent).run ts').maxPercent = ((empty percent).run ts).maxPercent := by
    rw [maxPercent_run, maxPercent_run]
  have rated : ((empty percent).run ts).IsRated := (isRated_empty percent).run ts
  exact (holds'.partOf holds percents subset).grantsAt rated granted

/-- The slow link is full, and a new request has to go to the fast one. -/
def crowded : List (Transaction ℚ) :=
  [.allocate (request "half" 500) [slowLink 0], .allocate (request "other" 1) [fastLink]]

theorem grantsAt_of_subset_crowded :
    ((empty (50 : ℚ)).run (crowded ++ [.release "half"])).reservations ⊆
      ((empty (50 : ℚ)).run crowded).reservations ∧
    ((empty (50 : ℚ)).run crowded).GrantsAt (request "new" 400) [slowLink 0, fastLink] 1 ∧
    ∃ j ≤ 1, ((empty (50 : ℚ)).run (crowded ++ [.release "half"])).GrantsAt (request "new" 400)
      [slowLink 0, fastLink] j := by
  have subset : ((empty (50 : ℚ)).run (crowded ++ [.release "half"])).reservations ⊆
      ((empty (50 : ℚ)).run crowded).reservations := by
    rw [run_concat]
    exact (partOf_after_release _ _).reservations.subset
  have granted : ((empty (50 : ℚ)).run crowded).GrantsAt (request "new" 400)
      [slowLink 0, fastLink] 1 := by
    refine grantsAt_iff.mpr ⟨by decide +kernel, by decide +kernel, fastLink, rfl, ?_, ?_⟩
    · decide +kernel
    · decide +kernel
  exact ⟨subset, granted, grantsAt_of_subset subset granted⟩

/-- After the release the new request fits the slow link. -/
example : ((empty (50 : ℚ)).run (crowded ++ [.release "half"])).Eligible (request "new" 400)
    (slowLink 0) := by
  decide +kernel

end HostMonitor.Nic.Ledger
