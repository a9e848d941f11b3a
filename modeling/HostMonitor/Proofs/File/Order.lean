import Mathlib.Data.List.Lex
import Mathlib.Data.Prod.Lex
import Mathlib.Data.String.Basic
import HostMonitor.Proofs.File.Components

/-!
# The order of paths

Paths are ordered lexicographically by their components. The order is total up to paths that are the
same, so that sorting paths of which no two are the same gives a strictly ascending list.
-/

namespace HostMonitor

/-- What the order of components goes by: the kind first, and the characters of a name. -/
def Component.key (x : Component) : Nat ×ₗ String :=
  toLex (x.rank, match x with
    | .name s => s
    | _ => "")

theorem Component.key_injective : Function.Injective Component.key := by
  intro a b h
  cases a <;> cases b <;> simp_all [key, rank]

theorem Component.lt_iff {a b : Component} : a.lt b = true ↔ a.key < b.key := by
  cases a <;> cases b <;> simp [lt, key, rank, Prod.Lex.toLex_lt_toLex]

namespace Path

variable {p q : Path} {ps : List Path}

/-- What the order of paths goes by. -/
def key (p : Path) : List (Nat ×ₗ String) :=
  p.components.map Component.key

theorem key_eq_iff : p.key = q.key ↔ p.components = q.components :=
  (List.map_injective_iff.mpr Component.key_injective).eq_iff

theorem ltComponents_iff {as bs : List Component} :
    ltComponents as bs = true ↔ as.map Component.key < bs.map Component.key := by
  induction as generalizing bs with
  | nil => cases bs <;> simp [ltComponents]
  | cons a as ih =>
    cases bs with
    | nil => simp [ltComponents]
    | cons b bs =>
      rw [ltComponents, List.map_cons, List.map_cons, List.cons_lt_cons_iff]
      split
      · next same => simp [same, ih]
      · next differ =>
        rw [Component.lt_iff, Component.key_injective.eq_iff]
        simp [differ]

theorem lt_iff : p.lt q = true ↔ p.key < q.key :=
  ltComponents_iff

theorem not_lt_iff : (!q.lt p) = true ↔ p.key ≤ q.key := by
  rw [Bool.not_eq_true', Bool.eq_false_iff, ne_eq, lt_iff, not_lt]

/-- Sorted paths of which no two are the same are in strictly ascending order. -/
theorem pairwise_sort (distinct : ((sort ps).map components).Nodup) :
    (sort ps).Pairwise fun p q => p.lt q = true := by
  have sorted : (sort ps).Pairwise fun p q => (!q.lt p) = true := by
    refine List.pairwise_mergeSort (fun p q r hpq hqr => ?_) (fun p q => ?_) ps
    · exact not_lt_iff.mpr ((not_lt_iff.mp hpq).trans (not_lt_iff.mp hqr))
    · rw [Bool.or_eq_true, not_lt_iff, not_lt_iff]
      exact le_total p.key q.key
  refine (sorted.and (List.pairwise_map.mp distinct)).imp ?_
  rintro p q ⟨upward, differ⟩
  exact lt_iff.mpr ((not_lt_iff.mp upward).lt_of_ne (mt key_eq_iff.mp differ))

end Path

end HostMonitor
