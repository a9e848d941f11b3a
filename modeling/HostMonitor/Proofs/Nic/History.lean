import HostMonitor.Proofs.Nic.Commitment
import HostMonitor.Proofs.Nic.Holdings
import Mathlib.Data.List.Forall2

/-!
# What a ledger owes to its history

Who keeps the answers of a ledger knows what it holds: each request that was granted and not
released since. With any other answer the ledger is as it was, and a request that is granted and
released at once leaves no trace.
-/

namespace HostMonitor.Nic.Ledger

variable {α : Type}

inductive Answer where
  | granted
  | refused
  | released
  | failed (e : ReservationError)
  deriving DecidableEq, Repr

/-- A transaction that was made, and the answer to it. -/
abbrev Exchange (α : Type) := Transaction α × Answer

def Exchange.releases (identifier : String) : Exchange α → Bool
  | (.release other, .released) => other == identifier
  | _ => false

/-- Whether a reservation has been released. -/
def wasReleased (identifier : String) (said : List (Exchange α)) : Bool :=
  said.any (Exchange.releases identifier)

/-- Those of the reservations that have not been released. -/
def unreleased (said : List (Exchange α)) (held : List (Reservation α)) : List (Reservation α) :=
  held.filter fun r => !wasReleased r.identifier said

/-- The requests that were granted and not released since, with the devices that were on offer. -/
def outstanding : List (Exchange α) → List (Reservation α × List (Capacity α))
  | [] => []
  | (.allocate r devices, .granted) :: said =>
    if wasReleased r.identifier said then outstanding said else (r, devices) :: outstanding said
  | _ :: said => outstanding said

/-- A reservation is the request, on a device that was on offer. -/
def IsHeldAs (asked : Reservation α × List (Capacity α)) (held : Reservation α) : Prop :=
  ∃ c ∈ asked.2, held = { asked.1 with interface := c.device }

variable [Scalar α]

def answer (l : Ledger α) : Transaction α → Answer
  | .allocate request devices =>
    match (l.allocate request devices).result with
    | .ok true => .granted
    | .ok false => .refused
    | .error e => .failed e
  | .release identifier =>
    match (l.release identifier).result with
    | .ok () => .released
    | .error e => .failed e

/-- All transactions of a run with their answers. -/
def transcript (l : Ledger α) : List (Transaction α) → List (Exchange α)
  | [] => []
  | t :: ts => (t, l.answer t) :: (l.after t).transcript ts

variable {l granted : Ledger α} {t : Transaction α} {ts : List (Transaction α)} {r : Reservation α}
  {devices : List (Capacity α)} {identifier : String} {held : List (Reservation α)}

/-! ## Histories -/

section

variable {said : List (Exchange α)} {a : Answer}

omit [Scalar α]

theorem outstanding_cons_of_not_granted (h : a = .refused ∨ ∃ e, a = .failed e) :
    outstanding ((t, a) :: said) = outstanding said := by
  rcases h with rfl | ⟨e, rfl⟩ <;> cases t <;> rfl

theorem wasReleased_cons_of_not_released (h : a ≠ .released) :
    wasReleased identifier ((t, a) :: said) = wasReleased identifier said := by
  cases t <;> cases a <;> first | rfl | exact absurd rfl h

theorem unreleased_nil : unreleased [] held = held :=
  List.filter_eq_self.mpr fun _ _ => rfl

theorem unreleased_cons_of_not_released (h : a ≠ .released) :
    unreleased ((t, a) :: said) held = unreleased said held := by
  simp only [unreleased, wasReleased_cons_of_not_released h]

theorem unreleased_release_cons :
    unreleased ((.release identifier, .released) :: said) held =
      unreleased said (held.filter (·.identifier ≠ identifier)) := by
  unfold unreleased
  rw [List.filter_filter]
  refine List.filter_congr fun r _ => ?_
  have step : wasReleased r.identifier ((.release identifier, .released) :: said) =
      (identifier == r.identifier || wasReleased r.identifier said) := rfl
  rw [step, Bool.not_or, Bool.and_comm]
  grind

end

/-! ## Answers -/

/-- What an answer can mean. -/
theorem answer_cases (l : Ledger α) (t : Transaction α) :
    (∃ r devices c, t = .allocate r devices ∧ l.answer t = .granted ∧ l.Grants r devices c ∧
      l.after t = l.grant r c.device) ∨
    (∃ identifier, t = .release identifier ∧ l.answer t = .released ∧
      l.after t = l.freed identifier) ∨
    (l.answer t = .refused ∨ ∃ e, l.answer t = .failed e) ∧ l.after t = l := by
  cases t with
  | allocate r devices =>
    rw [answer, after]
    rcases allocate_cases l r devices with ⟨c, hc, h⟩ | h | ⟨e, h⟩ <;> rw [h]
    · exact .inl ⟨r, devices, c, rfl, rfl, hc, rfl⟩
    · exact .inr (.inr ⟨.inl rfl, rfl⟩)
    · exact .inr (.inr ⟨.inr ⟨e, rfl⟩, rfl⟩)
  | release identifier =>
    rw [answer, after]
    rcases release_cases l identifier with ⟨-, h⟩ | ⟨e, h⟩ <;> rw [h]
    · exact .inr (.inl ⟨identifier, rfl, rfl, rfl⟩)
    · exact .inr (.inr ⟨.inr ⟨e, rfl⟩, rfl⟩)

omit [Scalar α] in
theorem contains_grant (l : Ledger α) (r : Reservation α) (device : String) :
    (l.grant r device).held.contains r.identifier = true := by
  simp [grant, Assoc.contains, Assoc.get?_insert]

omit [Scalar α] in
theorem contains_freed (l : Ledger α) (identifier : String) :
    (l.freed identifier).held.contains identifier = false := by
  simp [freed, Assoc.contains, Assoc.get?, Assoc.erase]

theorem contains_of_released (h : l.answer (.release identifier) = .released) :
    l.held.contains identifier = true := by
  rcases release_cases l identifier with ⟨held, -⟩ | ⟨e, failed⟩
  · exact held
  · rw [answer, failed] at h
    cases h

/-- A ledger stays as it is exactly where nothing was granted or released. -/
theorem after_eq_self_iff :
    l.after t = l ↔ l.answer t = .refused ∨ ∃ e, l.answer t = .failed e := by
  constructor
  · intro same
    rcases answer_cases l t with ⟨r, devices, c, -, -, grants, granted⟩ |
      ⟨identifier, rfl, said, freed⟩ | ⟨said, -⟩
    · have held := contains_grant l r c.device
      rw [← granted, same, grants.fresh] at held
      cases held
    · have gone := contains_freed l identifier
      rw [← freed, same, contains_of_released said] at gone
      cases gone
    · exact said
  · intro h
    rcases answer_cases l t with ⟨_, _, _, -, said, -, -⟩ | ⟨_, -, said, -⟩ | ⟨-, unchanged⟩
    · rw [said] at h
      rcases h with h | ⟨_, h⟩ <;> cases h
    · rw [said] at h
      rcases h with h | ⟨_, h⟩ <;> cases h
    · exact unchanged

omit [Scalar α] in
/-- A new reservation can be released, and nothing is left of it. -/
theorem release_grant (fresh : l.held.contains r.identifier = false) (device : String) :
    (l.grant r device).release r.identifier = ⟨.ok (), l⟩ := by
  rw [release, if_pos (contains_grant l r device)]
  exact congrArg (fun held => Performed.mk _ (Ledger.mk l.maxPercent held))
    (Assoc.erase_insert _ fresh)

/-! ## Runs -/

omit [Scalar α] in
theorem Holds.perm {held' : List (Reservation α)} (h : l.Holds held) (same : held.Perm held') :
    l.Holds held' :=
  ⟨h.ascending, h.identifiers, h.reservations.trans same⟩

/-- What was held is held until it is released, and so is what is granted. -/
theorem Holds.run (h : l.Holds held) (ts : List (Transaction α)) :
    ∃ new, List.Forall₂ IsHeldAs (outstanding (l.transcript ts)) new ∧
      (l.run ts).Holds (unreleased (l.transcript ts) held ++ new) := by
  -- By induction on the run, for any ledger: what is granted first is then part of what is held.
  induction ts generalizing l held with
  | nil =>
    refine ⟨[], .nil, ?_⟩
    rwa [transcript, unreleased_nil, List.append_nil]
  | cons t ts ih =>
    rw [run_cons, transcript]
    rcases answer_cases l t with ⟨r, devices, c, rfl, said, grants, after⟩ |
      ⟨identifier, rfl, said, after⟩ | ⟨said, after⟩
    · obtain ⟨new, asked, holds⟩ := ih (after ▸ h.grant grants.fresh c.device)
      have other : Answer.granted ≠ .released := nofun
      rw [said, outstanding, unreleased_cons_of_not_released other]
      unfold unreleased at holds ⊢
      split
      · next gone =>
        rw [List.filter_cons_of_neg (by simpa using gone)] at holds
        exact ⟨new, asked, holds⟩
      · next kept =>
        rw [List.filter_cons_of_pos (by simpa using kept)] at holds
        exact ⟨_ :: new, .cons ⟨c, grants.mem, rfl⟩ asked, holds.perm List.perm_middle.symm⟩
    · rw [said, unreleased_release_cons]
      exact ih (after ▸ h.freed identifier)
    · rw [outstanding_cons_of_not_granted said, unreleased_cons_of_not_released]
      · exact ih (after.symm ▸ h)
      · rcases said with said | ⟨e, said⟩ <;> rw [said] <;> nofun

/-- After any run a ledger holds the requests that were granted and not released since, each on a
device that was on offer, and lists them in ascending order of their identifiers. It changes exactly
with what is granted or released, and a request that is granted and released leaves no trace. -/
theorem run_history (maxPercent : α) (ts : List (Transaction α)) :
    (∃ held, List.Forall₂ IsHeldAs (outstanding ((empty maxPercent).transcript ts)) held ∧
      ((empty maxPercent).run ts).reservations.Perm held) ∧
    ((empty maxPercent).run ts).reservations.Pairwise (fun r r' => r.identifier < r'.identifier) ∧
    (∀ t, ((empty maxPercent).run ts).after t = (empty maxPercent).run ts ↔
      ((empty maxPercent).run ts).answer t = .refused ∨
        ∃ e, ((empty maxPercent).run ts).answer t = .failed e) ∧
    ∀ r devices granted, ((empty maxPercent).run ts).allocate r devices = ⟨.ok true, granted⟩ →
      granted.release r.identifier = ⟨.ok (), (empty maxPercent).run ts⟩ := by
  obtain ⟨held, asked, holds⟩ := (Holds.empty maxPercent).run ts
  refine ⟨⟨held, asked, holds.reservations⟩, holds.pairwise_identifier,
    fun t => after_eq_self_iff, fun r devices granted result => ?_⟩
  rcases allocate_cases ((empty maxPercent).run ts) r devices with ⟨c, grants, h⟩ | h | ⟨e, h⟩ <;>
    cases result.symm.trans h
  exact release_grant grants.fresh c.device

/-- One link that is asked for too much, under an identifier that is there, and under one that
differs in its blanks only. -/
def renewing : List (Transaction ℚ) :=
  [.allocate (request "a" 500) [slowLink 0], .allocate (request "b" 1) [slowLink 0],
    .allocate (request "a" 1) [fastLink], .allocate (request " " 1) [fastLink], .release " a ",
    .allocate (request " a " 2) [slowLink 0, fastLink], .release "a",
    .allocate (request "a" 3) [slowLink 0, fastLink]]

theorem run_history_renewing :
    ((empty (50 : ℚ)).transcript renewing).map Prod.snd =
      [.granted, .refused, .failed (.duplicate "a"), .failed (.emptyIdentifier " "),
        .failed (.unknown " a "), .granted, .released, .granted] ∧
    (outstanding ((empty (50 : ℚ)).transcript renewing)).map (fun asked => asked.1.identifier) =
      [" a ", "a"] ∧
    ∃ held, List.Forall₂ IsHeldAs (outstanding ((empty (50 : ℚ)).transcript renewing)) held ∧
      ((empty (50 : ℚ)).run renewing).reservations.Perm held :=
  ⟨by decide +kernel, by decide +kernel, (run_history 50 renewing).1⟩

end HostMonitor.Nic.Ledger
