import HostMonitor.Monitor.Devices
import HostMonitor.Proofs.File.Listings
import HostMonitor.Proofs.Nic.Readings

/-!
# What is watched

The interfaces are found in ascending order, each once, if a directory shows each name once. Their
devices are kept in the order in which they first appear, each once, and reading an interface again
never changes which one it is.
-/

namespace HostMonitor

namespace Nic

variable {files : Files}

/-- Every interface is found once, in ascending order. -/
theorem discover_ascending (once : files.ListsOnce) (root : Path) :
    (discover files root).Pairwise (· < ·) := by
  unfold discover
  dsimp only
  generalize hn : ((((files.list root).toOption.getD []).filter fun p =>
    files.contains (p.child Attribute.rxBytes.file)).filterMap Path.fileName?) = names
  have distinct : names.Nodup := by
    rw [← hn]
    cases listed : files.list root with
    | error e => exact List.nodup_nil
    | ok entries => exact (once root entries listed).sublist (List.filter_sublist.filterMap _)
  have sorted : (names.mergeSort fun a b => !(b < a)).Pairwise fun a b => (!(b < a : Bool)) := by
    refine List.pairwise_mergeSort (fun a b c hab hbc => ?_) (fun a b => ?_) names
    · simp only [Bool.not_eq_true', decide_eq_false_iff_not, String.not_lt] at *
      exact String.le_trans hab hbc
    · simp only [Bool.or_eq_true, Bool.not_eq_true', decide_eq_false_iff_not, String.not_lt]
      exact String.le_total a b
  have distinct' := (List.mergeSort_perm names fun a b => !(b < a)).nodup_iff.mpr distinct
  refine (sorted.and distinct').imp ?_
  rintro a b ⟨upward, differ⟩
  simp only [Bool.not_eq_true', decide_eq_false_iff_not, String.not_lt] at upward
  exact String.not_le.mp fun back => differ (String.le_antisymm upward back)

/-- The device of an interface. -/
def deviceOf (interface : String) : String :=
  (splitInterface interface).1

end Nic

namespace Device

variable {α : Type} {ds : List (Device α)} {position : Nat} {interface : String}

open Nic (deviceOf)

theorem name_addVlan (t : Nic.Throughput α) (vlan : String) :
    (t.addVlan vlan).device = t.device := by
  unfold Nic.Throughput.addVlan
  split <;> rfl

theorem name_extend (d : Device α) (position : Nat) (interface : String) :
    (d.extend position interface).name = d.name :=
  name_addVlan _ _

variable [Scalar α]

theorem name_start (position : Nat) (interface : String) :
    (start position interface : Device α).name = deviceOf interface :=
  name_addVlan _ _

theorem place_cons (d : Device α) :
    place position interface (d :: ds) =
      if d.name = deviceOf interface then d.extend position interface :: ds
      else d :: place position interface ds := rfl

/-- An interface adds its device at the end, unless it is there already. -/
theorem names_place (position : Nat) (interface : String) (ds : List (Device α)) :
    (place position interface ds).map name =
      if deviceOf interface ∈ ds.map name then ds.map name
      else ds.map name ++ [deviceOf interface] := by
  induction ds with
  | nil => simp [place, name_start]
  | cons d ds ih =>
    rw [place_cons]
    by_cases same : d.name = deviceOf interface
    · rw [if_pos same]
      simp [name_extend, same]
    · rw [if_neg same, List.map_cons, List.map_cons, ih]
      have other := Ne.symm same
      split
      · next there => rw [if_pos (List.mem_cons_of_mem _ there)]
      · next new => rw [if_neg (List.not_mem_cons_of_ne_of_not_mem other new), List.cons_append]

theorem names_groupFrom (ds : List (Device α)) (position : Nat) (interfaces : List String)
    (distinct : (ds.map name).Nodup) :
    ((groupFrom ds position interfaces).map name).Nodup ∧
      ∀ device, device ∈ (groupFrom ds position interfaces).map name ↔
        device ∈ ds.map name ∨ device ∈ interfaces.map deviceOf := by
  induction interfaces generalizing ds position with
  | nil => exact ⟨distinct, by simp [groupFrom]⟩
  | cons interface rest ih =>
    have placed := names_place position interface ds
    have distinct' : ((place position interface ds).map name).Nodup := by
      rw [placed]
      split
      · exact distinct
      · next new =>
        refine List.nodup_append.mpr ⟨distinct, by simp, ?_⟩
        rintro device hd _ hi rfl
        exact new (List.mem_singleton.mp hi ▸ hd)
    obtain ⟨nodup, member⟩ := ih (place position interface ds) (position + 1) distinct'
    refine ⟨nodup, fun device => (member device).trans ?_⟩
    rw [placed, List.map_cons, List.mem_cons]
    split
    · next there => grind
    · next new => grind

/-- The devices of interfaces, each once. -/
theorem names_group (interfaces : List String) :
    ((group interfaces : List (Device α)).map name).Nodup ∧
      ∀ device, device ∈ (group interfaces : List (Device α)).map name ↔
        device ∈ interfaces.map deviceOf := by
  have names := names_groupFrom ([] : List (Device α)) 0 interfaces List.nodup_nil
  simpa [group] using names

end Device

end HostMonitor
