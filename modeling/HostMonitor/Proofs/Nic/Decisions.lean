import HostMonitor.Proofs.Nic.Transactions
import HostMonitor.Proofs.Text.Splitting
import Mathlib.Data.List.TakeWhile

/-!
# What a ledger decides

A request is looked at by itself first, then its identifier is looked up, and the devices come last.
The request goes to the first device that is eligible; it is refused only when none is.
-/

namespace HostMonitor.Nic

open Text

variable {α : Type}

/-- The device is the part of a name before its first point. -/
theorem splitInterface_device (interface : String) :
    (splitInterface interface).1 = String.ofList (interface.toList.takeWhile (· ≠ '.')) := by
  unfold splitInterface
  split
  case h_2 parts =>
    have pointless := cut_eq_none_iff.mp parts
    have whole : interface.toList.takeWhile (· ≠ '.') = interface.toList := by
      refine List.takeWhile_eq_self_iff.mpr fun c hc => decide_eq_true ?_
      rintro rfl
      exact pointless hc
    rw [whole, String.ofList_toList]
  case h_1 device vlan parts =>
    obtain ⟨name, pointless⟩ := cut_eq_some_iff.mp parts
    have before : ∀ c ∈ device, decide (c ≠ '.') = true := by
      refine fun c hc => decide_eq_true ?_
      rintro rfl
      exact pointless hc
    rw [name, List.takeWhile_append_of_pos before, List.takeWhile_cons_of_neg (by simp),
      List.append_nil]

/-! ## Requests by themselves -/

namespace Reservation

/-- The device asked for; empty when any will do. -/
def wanted (r : Reservation α) : String :=
  String.ofList ((trim r.interface.toList).takeWhile (· ≠ '.'))

/-- The multicast flag as it is compared. -/
def flag (r : Reservation α) : List Char :=
  asciiLower (trim r.multicast.toList)

/-- Whether only a device with multicast will do. -/
def asksMulticast (r : Reservation α) : Bool :=
  r.flag = "true".toList

/-- The flags that mean something. -/
def knownFlags : List (List Char) :=
  [[], "true".toList, "false".toList]

theorem requestedDevice_eq (r : Reservation α) : r.requestedDevice = r.wanted := by
  rw [requestedDevice, splitInterface_device, String.toList_ofList, wanted]

theorem needsMulticast_eq (r : Reservation α) :
    r.needsMulticast =
      if r.flag.isEmpty || r.flag = "false".toList then .ok false
      else if r.flag = "true".toList then .ok true
      else .error (.invalidMulticast r.identifier (String.ofList r.flag)) := rfl

variable [Scalar α]

/-- A request with an identifier, a rate and a flag that means something. -/
structure WellFormed (r : Reservation α) : Prop where
  named : trim r.identifier.toList ≠ []
  finite : Scalar.isFinite r.dataRate = true
  nonnegative : Scalar.lt r.dataRate Scalar.zero = false
  flagged : r.flag ∈ knownFlags

instance (r : Reservation α) : Decidable r.WellFormed :=
  decidable_of_iff (trim r.identifier.toList ≠ [] ∧ Scalar.isFinite r.dataRate = true ∧
      Scalar.lt r.dataRate Scalar.zero = false ∧ r.flag ∈ knownFlags)
    ⟨fun ⟨named, finite, nonnegative, flagged⟩ => ⟨named, finite, nonnegative, flagged⟩,
      fun h => ⟨h.named, h.finite, h.nonnegative, h.flagged⟩⟩

/-- What an ill-formed request is refused for: its identifier, else its rate, else its flag. -/
inductive Fault (r : Reservation α) : ReservationError → Prop where
  | identifier (blank : trim r.identifier.toList = []) : Fault r (.emptyIdentifier r.identifier)
  | rate (named : trim r.identifier.toList ≠ [])
      (unrated : Scalar.isFinite r.dataRate = false ∨ Scalar.lt r.dataRate Scalar.zero = true) :
      Fault r (.invalidRate r.identifier)
  | flag (named : trim r.identifier.toList ≠ []) (finite : Scalar.isFinite r.dataRate = true)
      (nonnegative : Scalar.lt r.dataRate Scalar.zero = false) (unknown : r.flag ∉ knownFlags) :
      Fault r (.invalidMulticast r.identifier (String.ofList r.flag))

variable {r : Reservation α} {e : ReservationError}

theorem wellFormed_or_fault (r : Reservation α) : r.WellFormed ∨ ∃ e, r.Fault e := by
  by_cases named : trim r.identifier.toList = []
  · exact .inr ⟨_, .identifier named⟩
  cases finite : Scalar.isFinite r.dataRate with
  | false => exact .inr ⟨_, .rate named (.inl finite)⟩
  | true =>
    cases nonnegative : Scalar.lt r.dataRate Scalar.zero with
    | true => exact .inr ⟨_, .rate named (.inr nonnegative)⟩
    | false =>
      by_cases flagged : r.flag ∈ knownFlags
      · exact .inl ⟨named, finite, nonnegative, flagged⟩
      · exact .inr ⟨_, .flag named finite nonnegative flagged⟩

theorem Fault.not_wellFormed (h : r.Fault e) : ¬r.WellFormed := by
  intro well
  cases h with
  | identifier blank => exact well.named blank
  | rate _ unrated => rcases unrated with h | h <;> simp [well.finite, well.nonnegative] at h
  | flag _ _ _ unknown => exact unknown well.flagged

theorem validate_of_wellFormed (h : r.WellFormed) : r.validate = .ok r.asksMulticast := by
  have flagged : r.needsMulticast = .ok r.asksMulticast := by
    have known := h.flagged
    simp only [knownFlags, List.mem_cons, List.not_mem_nil, or_false] at known
    rw [needsMulticast_eq, asksMulticast]
    generalize r.flag = value at known ⊢
    rcases known with rfl | rfl | rfl <;> rfl
  rw [validate, if_neg (by simpa using h.named),
    if_neg (by simp [isRate, h.finite, h.nonnegative]), flagged]

theorem validate_of_fault (h : r.Fault e) : r.validate = .error e := by
  unfold validate
  cases h with
  | identifier blank => rw [if_pos (by simpa using blank)]
  | rate named unrated =>
    rw [if_neg (by simpa using named), if_pos]
    rcases unrated with h | h <;> simp [isRate, h]
  | flag named finite nonnegative unknown =>
    simp only [knownFlags, List.mem_cons, List.not_mem_nil, or_false, not_or] at unknown
    obtain ⟨present, notTrue, notFalse⟩ := unknown
    rw [if_neg (by simpa using named), if_neg (by simp [isRate, finite, nonnegative]),
      needsMulticast_eq, if_neg (by simpa using ⟨present, notFalse⟩), if_neg notTrue]

end Reservation

/-! ## The devices -/

namespace Ledger

variable [Scalar α] {l : Ledger α} {r : Reservation α} {devices : List (Capacity α)}
  {c : Capacity α}

/-- A device that is what a request asks for and has room for it. -/
structure Eligible (l : Ledger α) (r : Reservation α) (c : Capacity α) : Prop where
  device : r.wanted = "" ∨ r.wanted = c.device
  multicast : r.asksMulticast = true → c.multicast = true
  address : r.address = "" ∨ r.address ∈ c.addresses
  room : Scalar.lt (l.available c) r.required = false

/-- The device at position `i` is eligible, and none before it is. -/
structure FirstEligible (l : Ledger α) (r : Reservation α) (devices : List (Capacity α)) (i : Nat)
    (c : Capacity α) : Prop where
  offered : devices[i]? = some c
  eligible : l.Eligible r c
  earlier : ∀ c' ∈ devices.take i, ¬l.Eligible r c'

theorem accepts_and_fits_iff :
    (r.accepts r.asksMulticast c && l.fits r c) = true ↔ l.Eligible r c := by
  simp only [Reservation.accepts, Reservation.requestedDevice_eq, fits, Bool.and_eq_true,
    Bool.or_eq_true, Bool.not_eq_true', decide_eq_true_eq, List.contains_iff_mem]
  constructor
  · rintro ⟨⟨⟨device, multicast⟩, address⟩, room⟩
    exact ⟨device, by simpa [imp_iff_not_or] using multicast, address, room⟩
  · rintro ⟨device, multicast, address, room⟩
    exact ⟨⟨⟨device, by simpa [imp_iff_not_or] using multicast⟩, address⟩, room⟩

instance : Decidable (l.Eligible r c) :=
  decidable_of_iff _ accepts_and_fits_iff

theorem serving?_eq_none_iff :
    l.serving? r r.asksMulticast devices = none ↔ ∀ c ∈ devices, ¬l.Eligible r c := by
  simp only [serving?, List.find?_eq_none, accepts_and_fits_iff]

theorem serving?_eq_some_iff :
    l.serving? r r.asksMulticast devices = some c ↔ ∃ i, l.FirstEligible r devices i c := by
  rw [serving?, List.find?_eq_some_iff_append, accepts_and_fits_iff]
  constructor
  · rintro ⟨eligible, before, after, rfl, earlier⟩
    refine ⟨before.length, by simp, eligible, fun c' hc' => ?_⟩
    rw [List.take_left] at hc'
    simpa only [Bool.not_eq_true', ← Bool.not_eq_true, accepts_and_fits_iff] using earlier c' hc'
  · rintro ⟨i, offered, eligible, earlier⟩
    obtain ⟨hi, rfl⟩ := List.getElem?_eq_some_iff.mp offered
    refine ⟨eligible, devices.take i, devices.drop (i + 1), ?_, fun c' hc' => ?_⟩
    · rw [← List.drop_eq_getElem_cons hi, List.take_append_drop]
    · simpa only [Bool.not_eq_true', ← Bool.not_eq_true, accepts_and_fits_iff] using earlier c' hc'

/-! ## The decision -/

theorem allocate_of_fault {e : ReservationError} (h : r.Fault e) :
    l.allocate r devices = ⟨.error e, l⟩ := by
  rw [allocate, Reservation.validate_of_fault h]

theorem allocate_of_wellFormed (h : r.WellFormed) :
    l.allocate r devices =
      if r.identifier ∈ l.held.keys then ⟨.error (.duplicate r.identifier), l⟩
      else match l.serving? r r.asksMulticast devices with
        | some c => ⟨.ok true, l.grant r c.device⟩
        | none => ⟨.ok false, l⟩ := by
  rw [allocate, Reservation.validate_of_wellFormed h]
  exact if_congr Assoc.contains_iff rfl rfl

theorem allocate_fails_iff {e : ReservationError} :
    l.allocate r devices = ⟨.error e, l⟩ ↔ r.Fault e ∨
      r.WellFormed ∧ r.identifier ∈ l.held.keys ∧ e = .duplicate r.identifier := by
  -- Well-formed or not, one equation gives the whole answer.
  rcases r.wellFormed_or_fault with well | ⟨fault, ill⟩
  · have sound : ¬r.Fault e := fun h => h.not_wellFormed well
    rw [allocate_of_wellFormed well]
    split
    · next held => simp [well, sound, held, eq_comm]
    · next fresh => cases l.serving? r r.asksMulticast devices <;> simp [sound, fresh]
  · have faulty : ¬r.WellFormed := ill.not_wellFormed
    constructor
    · intro refused
      cases (allocate_of_fault ill).symm.trans refused
      exact .inl ill
    · rintro (h | ⟨well, -, -⟩)
      · exact allocate_of_fault h
      · exact absurd well faulty

theorem allocate_grants_iff {granted : Ledger α} :
    l.allocate r devices = ⟨.ok true, granted⟩ ↔
      r.WellFormed ∧ r.identifier ∉ l.held.keys ∧
        ∃ i c, l.FirstEligible r devices i c ∧ granted = l.grant r c.device := by
  rcases r.wellFormed_or_fault with well | ⟨fault, ill⟩
  · rw [allocate_of_wellFormed well]
    split
    · next held => simp [held]
    · next fresh =>
      -- The device that serves the request is the only one that can be the first.
      have first (i c) : l.FirstEligible r devices i c →
          l.serving? r r.asksMulticast devices = some c :=
        fun first => serving?_eq_some_iff.mpr ⟨i, first⟩
      cases served : l.serving? r r.asksMulticast devices with
      | some c =>
        obtain ⟨i, eligible⟩ := serving?_eq_some_iff.mp served
        simp only [Performed.mk.injEq, true_and, well, fresh, not_false_eq_true]
        constructor
        · rintro rfl
          exact ⟨i, c, eligible, rfl⟩
        · rintro ⟨i', c', eligible', rfl⟩
          cases served.symm.trans (first i' c' eligible')
          rfl
      | none =>
        simp only [Performed.mk.injEq, Except.ok.injEq, Bool.false_eq_true, false_and, false_iff,
          not_and]
        rintro - - ⟨i, c, eligible, -⟩
        cases served.symm.trans (first i c eligible)
  · simp [allocate_of_fault ill, ill.not_wellFormed]

theorem allocate_refuses_iff :
    l.allocate r devices = ⟨.ok false, l⟩ ↔
      r.WellFormed ∧ r.identifier ∉ l.held.keys ∧ ∀ c ∈ devices, ¬l.Eligible r c := by
  rcases r.wellFormed_or_fault with well | ⟨fault, ill⟩
  · rw [allocate_of_wellFormed well, ← serving?_eq_none_iff]
    split
    · next held => simp [held]
    · next fresh => cases l.serving? r r.asksMulticast devices <;> simp [well, fresh]
  · simp [allocate_of_fault ill, ill.not_wellFormed]

/-- What comes of a request: an ill-formed one is refused for its first fault, and one under an
identifier that is held as a duplicate. Any other is granted on the first device that is eligible,
and is turned down only if no device on offer is. The ledger changes only if the request is
granted. -/
theorem allocate_decision (l : Ledger α) (r : Reservation α) (devices : List (Capacity α)) :
    ((∃ e, r.Fault e) ↔ ¬r.WellFormed) ∧
    (∀ e, l.allocate r devices = ⟨.error e, l⟩ ↔ r.Fault e ∨
      r.WellFormed ∧ r.identifier ∈ l.held.keys ∧ e = .duplicate r.identifier) ∧
    (∀ granted, l.allocate r devices = ⟨.ok true, granted⟩ ↔
      r.WellFormed ∧ r.identifier ∉ l.held.keys ∧
        ∃ i c, l.FirstEligible r devices i c ∧
          granted =
            { l with held := l.held.insert r.identifier { r with interface := c.device } }) ∧
    (l.allocate r devices = ⟨.ok false, l⟩ ↔
      r.WellFormed ∧ r.identifier ∉ l.held.keys ∧ ∀ c ∈ devices, ¬l.Eligible r c) := by
  refine ⟨⟨?_, fun ill => r.wellFormed_or_fault.resolve_left ill⟩, fun e => allocate_fails_iff,
    fun granted => allocate_grants_iff, allocate_refuses_iff⟩
  rintro ⟨e, fault⟩
  exact fault.not_wellFormed

end Ledger

end HostMonitor.Nic
