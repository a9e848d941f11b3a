import HostMonitor.Proofs.ExactArithmetic
import HostMonitor.Proofs.Nic.Transactions
import Mathlib.Algebra.Order.BigOperators.Group.List
import Mathlib.Tactic.Linarith
import Mathlib.Tactic.NormNum
import Mathlib.Tactic.Positivity

/-!
# Commitment of devices

With exact arithmetic, what is reserved on a device never exceeds its limit. What is left of a full
device is zero and not less, so a request for nothing is granted there, and it adds nothing.
-/

namespace HostMonitor.Nic

theorem Reservation.required_eq (r : Reservation ℚ) :
    r.required = r.dataRate * r.dataSize * 8 := rfl

theorem Reservation.required_nonneg {r : Reservation ℚ} (h : isRate r.dataRate = true) :
    0 ≤ r.required := by
  have hr : 0 ≤ r.dataRate := by simpa [isRate] using h
  rw [required_eq]
  positivity

namespace Ledger

variable {l : Ledger ℚ} {r : Reservation ℚ} {c : Capacity ℚ} {speedOf : String → Nat}

/-! ## The quantities of a ledger -/

theorem allocated_eq (l : Ledger ℚ) (device : String) :
    l.allocated device =
      ((l.reservations.filter (·.interface == device)).map Reservation.required).sum := by
  rw [allocated, Scalar.sum_rat]

theorem limit_eq (l : Ledger ℚ) (speed : Nat) :
    l.limit speed = speed * 1000000 * l.maxPercent / 100 := rfl

theorem required_le_of_fits (h : l.fits r c = true) :
    r.required ≤ max (l.limit c.speed - max (l.allocated c.device) c.throughput) 0 := by
  have hl : r.required ≤ l.available c := by simpa [fits] using h
  rw [available, Scalar.max_rat, Scalar.max_rat, Scalar.zero_rat] at hl
  exact hl

/-- A request that fits either is for nothing or leaves the device within its limit. -/
theorem required_nonpos_or_within (h : l.fits r c = true) :
    r.required ≤ 0 ∨ l.allocated c.device + r.required ≤ l.limit c.speed := by
  have room := required_le_of_fits h
  have reserved := le_max_left (l.allocated c.device) c.throughput
  rcases le_max_iff.mp room with hr | hr
  · right
    linarith
  · exact .inl hr

theorem allocated_grant (device device' : String) (h : l.held.contains r.identifier = false) :
    (l.grant r device).allocated device' =
      l.allocated device' + if device = device' then r.required else 0 := by
  have perm := reservations_grant_perm device h
  rw [allocated_eq, allocated_eq, ((perm.filter _).map Reservation.required).sum_eq]
  by_cases hd : device = device'
  · rw [List.filter_cons_of_pos (by simpa using hd), List.map_cons, List.sum_cons, if_pos hd,
      add_comm]
    rfl
  · rw [List.filter_cons_of_neg (by simpa using hd), if_neg hd, add_zero]

theorem allocated_freed_le (nonneg : ∀ r ∈ l.reservations, 0 ≤ r.required)
    (identifier device : String) :
    (l.freed identifier).allocated device ≤ l.allocated device := by
  rw [allocated_eq, allocated_eq]
  refine (((reservations_freed_sublist l identifier).filter _).map _).sum_le_sum ?_
  intro x hx
  obtain ⟨r, hr, rfl⟩ := List.mem_map.mp hx
  exact nonneg r (List.mem_of_mem_filter hr)

/-! ## Within the limits -/

/-- No device is committed beyond the limit of its link. -/
structure WithinLimits (speedOf : String → Nat) (l : Ledger ℚ) : Prop where
  nonneg : ∀ r ∈ l.reservations, 0 ≤ r.required
  within : ∀ device, l.allocated device ≤ l.limit (speedOf device)

theorem withinLimits_empty {percent : ℚ} (h : 0 ≤ percent) (speedOf : String → Nat) :
    WithinLimits speedOf (empty percent) where
  nonneg _ hr := nomatch hr
  within device := by
    have nothing : (empty percent).allocated device = 0 := by
      rw [allocated_eq]
      rfl
    rw [nothing, limit_eq]
    have : 0 ≤ (empty percent).maxPercent := h
    positivity

namespace WithinLimits

theorem grant (w : WithinLimits speedOf l) (rate : Reservation.isRate r.dataRate = true)
    (fresh : l.held.contains r.identifier = false) (fits : l.fits r c = true)
    (speed : c.speed = speedOf c.device) : WithinLimits speedOf (l.grant r c.device) where
  nonneg r' hr' := by
    rcases List.mem_cons.mp ((reservations_grant_perm c.device fresh).mem_iff.mp hr') with rfl | hr'
    · exact Reservation.required_nonneg rate
    · exact w.nonneg r' hr'
  within device := by
    rw [allocated_grant c.device device fresh]
    have before := w.within device
    show _ ≤ l.limit (speedOf device)
    split
    · next hd =>
      subst hd
      rcases required_nonpos_or_within fits with nothing | room
      -- A full device grants only what takes nothing from it.
      · linarith
      · rwa [speed] at room
    · simpa using before

theorem freed (w : WithinLimits speedOf l) (identifier : String) :
    WithinLimits speedOf (l.freed identifier) where
  nonneg r hr := w.nonneg r ((reservations_freed_sublist l identifier).subset hr)
  within device := (allocated_freed_le w.nonneg identifier device).trans (w.within device)

theorem after (w : WithinLimits speedOf l) {t : Transaction ℚ}
    (steady : ∀ c ∈ t.offers, c.speed = speedOf c.device) : WithinLimits speedOf (l.after t) := by
  rcases after_cases l t with h | ⟨r, devices, c, rfl, hc, h⟩ | ⟨identifier, h⟩ <;> rw [h]
  · exact w
  · exact w.grant hc.isRate hc.fresh hc.fits (steady c hc.mem)
  · exact w.freed identifier

theorem run (w : WithinLimits speedOf l) {ts : List (Transaction ℚ)}
    (steady : ∀ c ∈ offered ts, c.speed = speedOf c.device) : WithinLimits speedOf (l.run ts) := by
  induction ts generalizing l with
  | nil => exact w
  | cons t ts ih =>
    rw [offered, List.flatMap_cons, List.forall_mem_append] at steady
    exact ih (w.after steady.1) steady.2

end WithinLimits

/-! ## Steady links -/

/-- The speed that is offered for a device. -/
def speedIn (offers : List (Capacity ℚ)) (device : String) : Nat :=
  ((offers.find? (·.device == device)).map Capacity.speed).getD 0

theorem speedIn_eq {offers : List (Capacity ℚ)}
    (steady : ∀ c ∈ offers, ∀ c' ∈ offers, c.device = c'.device → c.speed = c'.speed)
    (hc : c ∈ offers) : c.speed = speedIn offers c.device := by
  unfold speedIn
  cases hf : offers.find? (·.device == c.device) with
  | none => simpa using List.find?_eq_none.mp hf c hc
  | some c' =>
    have same : c'.device = c.device := by simpa using List.find?_some hf
    exact (steady c' (List.mem_of_find?_eq_some hf) c hc same).symm

/-- Whatever is requested and released, and whatever the devices are measured to move: as long as
the links keep their speed, no device is ever committed beyond the limit of its link. -/
theorem reserved_le_limit {percent : ℚ} (nonneg : 0 ≤ percent) (ts : List (Transaction ℚ))
    (steady : ∀ c ∈ offered ts, ∀ c' ∈ offered ts, c.device = c'.device → c.speed = c'.speed) :
    ∀ c ∈ offered ts,
      ((((empty percent).run ts).reservations.filter (·.interface == c.device)).map
        Reservation.required).sum ≤ c.speed * 1000000 * percent / 100 := by
  intro c hc
  have w := (withinLimits_empty nonneg (speedIn (offered ts))).run fun c => speedIn_eq steady
  have bound := w.within c.device
  rw [allocated_eq, limit_eq, maxPercent_run, ← speedIn_eq steady hc] at bound
  exact bound

/-! ## A full link -/

def request (identifier : String) (rate : ℚ) : Reservation ℚ :=
  ⟨identifier, rate, 125, "", "", ""⟩

def slowLink (throughput : ℚ) : Capacity ℚ :=
  ⟨"eth0", 1, false, [], throughput⟩

def fastLink : Capacity ℚ :=
  ⟨"eth1", 10, false, [], 0⟩

/-- The first request fills half of the slow link, which is all there is to have. A request for
nothing still goes there, others are refused or go elsewhere. -/
def filling : List (Transaction ℚ) :=
  [.allocate (request "half" 500) [slowLink 0, fastLink],
    .allocate (request "nothing" 0) [slowLink 900000],
    .allocate (request "refused" 1) [slowLink 0],
    .allocate (request "elsewhere" 1) [slowLink 0, fastLink],
    .allocate (request "half" 1) [fastLink],
    .release "unknown"]

theorem reserved_le_limit_filling :
    ((empty (50 : ℚ)).run filling).reservations.map
        (fun r => (r.identifier, r.interface, r.required)) =
      [("elsewhere", "eth1", 1000), ("half", "eth0", 500000), ("nothing", "eth0", 0)] ∧
    ((((empty (50 : ℚ)).run filling).reservations.filter (·.interface == "eth0")).map
      Reservation.required).sum ≤ (1 : Nat) * 1000000 * 50 / 100 := by
  refine ⟨by decide +kernel, ?_⟩
  refine reserved_le_limit (by norm_num) filling ?_ (slowLink 0) ?_
  · decide
  · simp [filling, offered, Transaction.offers]

end Ledger

end HostMonitor.Nic
