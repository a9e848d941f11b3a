import HostMonitor.Nic.Ledger
import HostMonitor.Proofs.Assoc
import HostMonitor.Proofs.Except

/-!
# Runs of a ledger

A transaction is a request or a release, whether it succeeds or not. Each request is made with the
devices that are on offer at that moment.
-/

namespace HostMonitor.Nic.Ledger

variable {α : Type}

inductive Transaction (α : Type) where
  | allocate (request : Reservation α) (devices : List (Capacity α))
  | release (identifier : String)

/-- The devices on offer, as they are at the time of the transaction. -/
def Transaction.offers : Transaction α → List (Capacity α)
  | .allocate _ devices => devices
  | .release _ => []

def offered (ts : List (Transaction α)) : List (Capacity α) :=
  ts.flatMap Transaction.offers

variable {l l' : Ledger α} {r : Reservation α} {devices : List (Capacity α)} {c : Capacity α}

/-! ## Held reservations -/

theorem reservations_grant_perm (device : String) (h : l.held.contains r.identifier = false) :
    (l.grant r device).reservations.Perm ({ r with interface := device } :: l.reservations) :=
  Assoc.values_insert_perm _ h

/-- The ledger without the reservation held under an identifier. -/
def freed (l : Ledger α) (identifier : String) : Ledger α :=
  { l with held := l.held.erase identifier }

theorem reservations_freed_sublist (l : Ledger α) (identifier : String) :
    (l.freed identifier).reservations.Sublist l.reservations :=
  Assoc.values_erase_sublist l.held identifier

theorem release_cases (l : Ledger α) (identifier : String) :
    (l.held.contains identifier = true ∧ l.release identifier = ⟨.ok (), l.freed identifier⟩) ∨
      ∃ e, l.release identifier = ⟨.error e, l⟩ := by
  unfold release
  split
  · next held => exact .inl ⟨held, rfl⟩
  · exact .inr ⟨_, rfl⟩

/-! ## Transactions -/

variable [Scalar α]

/-- The ledger after a transaction, whatever the answer is. -/
def after (l : Ledger α) : Transaction α → Ledger α
  | .allocate request devices => (l.allocate request devices).state
  | .release identifier => (l.release identifier).state

def run (l : Ledger α) (ts : List (Transaction α)) : Ledger α :=
  ts.foldl after l

theorem run_cons (l : Ledger α) (t : Transaction α) (ts : List (Transaction α)) :
    l.run (t :: ts) = (l.after t).run ts := rfl

/-- The device `c` is the one that serves a request that is well-formed and new. -/
structure Grants (l : Ledger α) (r : Reservation α) (devices : List (Capacity α))
    (c : Capacity α) : Prop where
  fresh : l.held.contains r.identifier = false
  served : ∃ needsMulticast, r.validate = .ok needsMulticast ∧
    l.serving? r needsMulticast devices = some c

/-- What a request can come to. -/
theorem allocate_cases (l : Ledger α) (r : Reservation α) (devices : List (Capacity α)) :
    (∃ c, l.Grants r devices c ∧ l.allocate r devices = ⟨.ok true, l.grant r c.device⟩) ∨
      l.allocate r devices = ⟨.ok false, l⟩ ∨ ∃ e, l.allocate r devices = ⟨.error e, l⟩ := by
  unfold allocate
  cases valid : r.validate with
  | error e => exact .inr (.inr ⟨e, rfl⟩)
  | ok needsMulticast =>
    dsimp only
    cases held : l.held.contains r.identifier with
    | true => exact .inr (.inr ⟨_, rfl⟩)
    | false =>
      cases served : l.serving? r needsMulticast devices with
      | some c => exact .inl ⟨c, ⟨held, needsMulticast, valid, served⟩, rfl⟩
      | none => exact .inr (.inl rfl)

theorem isRate_of_validate {needsMulticast : Bool} (h : r.validate = .ok needsMulticast) :
    Reservation.isRate r.dataRate = true := by
  unfold Reservation.validate at h
  split at h
  · cases h
  split at h
  · cases h
  · next hr => simpa using hr

namespace Grants

theorem isRate (h : l.Grants r devices c) : Reservation.isRate r.dataRate = true := by
  obtain ⟨needsMulticast, hv, -⟩ := h.served
  exact isRate_of_validate hv

theorem mem (h : l.Grants r devices c) : c ∈ devices := by
  obtain ⟨needsMulticast, -, hs⟩ := h.served
  exact List.mem_of_find?_eq_some hs

theorem fits (h : l.Grants r devices c) : l.fits r c = true := by
  obtain ⟨needsMulticast, -, hs⟩ := h.served
  have accepted := List.find?_some hs
  rw [Bool.and_eq_true] at accepted
  exact accepted.2

end Grants

/-- What a transaction can do. -/
theorem after_cases (l : Ledger α) (t : Transaction α) :
    l.after t = l ∨
      (∃ r devices c, t = .allocate r devices ∧ l.Grants r devices c ∧
        l.after t = l.grant r c.device) ∨
      ∃ identifier, l.after t = l.freed identifier := by
  cases t with
  | allocate r devices =>
    rw [after]
    rcases allocate_cases l r devices with ⟨c, hc, h⟩ | h | ⟨e, h⟩ <;> rw [h]
    · exact .inr (.inl ⟨r, devices, c, rfl, hc, rfl⟩)
    · exact .inl rfl
    · exact .inl rfl
  | release identifier =>
    rw [after]
    rcases release_cases l identifier with ⟨-, h⟩ | ⟨e, h⟩ <;> rw [h]
    · exact .inr (.inr ⟨identifier, rfl⟩)
    · exact .inl rfl

/-! ## Runs -/

theorem maxPercent_after (l : Ledger α) (t : Transaction α) :
    (l.after t).maxPercent = l.maxPercent := by
  rcases after_cases l t with h | ⟨r, devices, c, -, -, h⟩ | ⟨identifier, h⟩ <;> rw [h]
  · rfl
  · rfl

theorem maxPercent_run (l : Ledger α) (ts : List (Transaction α)) :
    (l.run ts).maxPercent = l.maxPercent := by
  induction ts generalizing l with
  | nil => rfl
  | cons t ts ih => rw [run_cons, ih, maxPercent_after]

end HostMonitor.Nic.Ledger
