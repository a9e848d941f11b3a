import HostMonitor.Proofs.Nic.Transactions

/-!
# What a ledger holds

A ledger holds one reservation for each request that has been granted and not been released, and
lists them in ascending order of their identifiers.
-/

namespace HostMonitor.Nic

namespace Ledger

variable {α : Type} {l : Ledger α} {r : Reservation α} {held : List (Reservation α)}

/-- The ledger holds these reservations and no other, each under its identifier. -/
structure Holds (l : Ledger α) (held : List (Reservation α)) : Prop where
  ascending : l.held.Ascending
  identifiers : ∀ e ∈ l.held.entries, e.2.identifier = e.1
  reservations : l.reservations.Perm held

namespace Holds

theorem empty (maxPercent : α) : (Ledger.empty maxPercent).Holds [] :=
  ⟨List.Pairwise.nil, by simp [Ledger.empty, Assoc.empty], .refl _⟩

theorem grant (h : l.Holds held) (fresh : l.held.contains r.identifier = false)
    (device : String) : (l.grant r device).Holds ({ r with interface := device } :: held) := by
  refine ⟨h.ascending.insert _ _, fun e he => ?_, ?_⟩
  · rcases Assoc.eq_or_mem_of_mem_insertInto he with rfl | he
    · rfl
    · exact h.identifiers e he
  · exact (reservations_grant_perm device fresh).trans (h.reservations.cons _)

theorem reservations_freed (h : l.Holds held) (identifier : String) :
    (l.freed identifier).reservations =
      l.reservations.filter (·.identifier ≠ identifier) := by
  have keyed := h.identifiers
  unfold freed Ledger.reservations Assoc.erase Assoc.values
  dsimp only
  rw [List.filter_map]
  refine congrArg _ (List.filter_congr fun e he => ?_)
  rw [Function.comp_apply, keyed e he]

theorem freed (h : l.Holds held) (identifier : String) :
    (l.freed identifier).Holds (held.filter (·.identifier ≠ identifier)) := by
  refine ⟨h.ascending.erase _, fun e he => h.identifiers e (List.mem_filter.mp he).1, ?_⟩
  rw [h.reservations_freed]
  exact h.reservations.filter _

/-- No two reservations have one identifier. -/
theorem pairwise_identifier (h : l.Holds held) :
    l.reservations.Pairwise fun r r' => r.identifier < r'.identifier := by
  refine List.pairwise_map.mpr (h.ascending.imp_of_mem fun he he' before => ?_)
  rwa [h.identifiers _ he, h.identifiers _ he']

theorem nodup (h : l.Holds held) : l.reservations.Nodup := by
  refine h.pairwise_identifier.imp fun {r r'} before => ?_
  rintro rfl
  exact String.lt_irrefl _ before

theorem keys_eq (h : l.Holds held) : l.held.keys = l.reservations.map (·.identifier) := by
  unfold Ledger.reservations Assoc.keys Assoc.values
  rw [List.map_map]
  exact List.map_congr_left fun e he => (h.identifiers e he).symm

end Holds

end Ledger

end HostMonitor.Nic
