import Mathlib.Data.List.Basic
import HostMonitor.File.Disk
import HostMonitor.Proofs.Except
import HostMonitor.Proofs.File.Contents

/-!
# Listings of directories

A directory shows each name once. That is so for a tree in memory however it was put together, and
for a disk on which no two things are at one place.
-/

namespace HostMonitor

/-- No directory has two entries of one name. -/
def Files.ListsOnce (f : Files) : Prop :=
  ∀ path entries, f.list path = .ok entries → (entries.filterMap Path.fileName?).Nodup

namespace Path

variable {p : Path} {cs : List Component} {x : Component} {name : String}

theorem eq_name_of_fileName? (h : p.fileName? = some name) (last : p.components = cs ++ [x]) :
    x = .name name := by
  unfold fileName? at h
  rw [last, List.getLast?_concat] at h
  cases x with
  | name s =>
    cases h
    rfl
  | _ => cases h

theorem fileName?_child (p : Path) (h : IsName name) : (p.child name).fileName? = some name := by
  rw [fileName?, components_child p h, List.getLast?_concat]

end Path

namespace FileTree

variable {t : FileTree} {entries : List (Path × String)} {path : Path}

/-! ## Trees in memory -/

theorem keys_put_of_mem (content : String) (h : path.components ∈ entries.map (·.1.components)) :
    (put path content entries).map (·.1.components) = entries.map (·.1.components) := by
  induction entries with
  | nil => cases h
  | cons e rest ih =>
    obtain ⟨p, c⟩ := e
    rw [put]
    cases same : p.same path with
    | true => rfl
    | false =>
      have other : path.components ≠ p.components := fun equal => by
        simp [Path.same_iff.mpr equal.symm] at same
      rw [List.map_cons] at h
      simp [ih ((List.mem_cons.mp h).resolve_left other)]

theorem nodup_keys_add (h : t.keys.Nodup) (path : Path) (content : String) :
    (t.add path content).keys.Nodup := by
  unfold keys add at *
  dsimp only
  by_cases there : path.components ∈ t.entries.map (·.1.components)
  · rwa [keys_put_of_mem content there]
  · rw [put_of_new there, List.map_append, List.map_singleton]
    refine List.nodup_append.mpr ⟨h, by simp, ?_⟩
    rintro cs hcs _ hp rfl
    exact there (List.mem_singleton.mp hp ▸ hcs)

theorem nodup_keys_remove (h : t.keys.Nodup) (path : Path) : (t.remove path).keys.Nodup :=
  h.sublist (List.filter_sublist.map _)

theorem nodup_keys_foldl_add (h : t.keys.Nodup) (files : List (Path × String)) :
    (files.foldl (fun t (p, c) => t.add p c) t).keys.Nodup := by
  induction files generalizing t with
  | nil => exact h
  | cons f files ih => exact ih (nodup_keys_add h f.1 f.2)

theorem nodup_keys_ofList (files : List (Path × String)) : (ofList files).keys.Nodup :=
  nodup_keys_foldl_add (t := empty) List.nodup_nil files

theorem listsOnce (distinct : t.keys.Nodup) : t.files.ListsOnce := by
  intro path entries listed
  change t.list path = .ok entries at listed
  unfold list at listed
  split at listed
  · cases listed
    have children : ((t.children path).map Path.components).Nodup := nodup_children distinct
    refine List.pairwise_filterMap.mpr ((List.pairwise_map.mp children).imp_of_mem ?_)
    rintro p q hp hq differ name hn name' hn' rfl
    obtain ⟨-, x, -, hx⟩ := mem_children_iff.mp ⟨p, hp, rfl⟩
    obtain ⟨-, y, -, hy⟩ := mem_children_iff.mp ⟨q, hq, rfl⟩
    refine differ ?_
    rw [hx, hy, Path.eq_name_of_fileName? hn hx, Path.eq_name_of_fileName? hn' hy]
  · cases listed

end FileTree

namespace Disk

/-! ## Disks -/

theorem eq_append_of_below {place p : List String} {name : String}
    (h : (if p.length = place.length + 1 && p.take place.length = place then p.getLast? else none) =
      some name) : p = place ++ [name] := by
  split at h
  · next below =>
    simp only [Bool.and_eq_true, decide_eq_true_eq] at below
    obtain ⟨front, rfl⟩ := List.getLast?_eq_some_iff.mp h
    have lengths : front.length = place.length := by simpa using below.1
    rw [← below.2, List.take_append_of_le_length (Nat.le_of_eq lengths.symm), ← lengths,
      List.take_length]
  · cases h

theorem nodup_names {d : Disk} (distinct : (d.nodes.map (·.1)).Nodup) (place : List String) :
    (d.names place).Nodup := by
  unfold names
  refine (List.mergeSort_perm _ _).nodup_iff.mpr ?_
  refine List.pairwise_filterMap.mpr ((List.pairwise_map.mp distinct).imp ?_)
  rintro ⟨p, _⟩ ⟨q, _⟩ differ name hn name' hn' rfl
  exact differ ((eq_append_of_below hn).trans (eq_append_of_below hn').symm)

theorem mem_nodes_of_mem_names {d : Disk} {place : List String} {name : String}
    (h : name ∈ d.names place) : ∃ node, (place ++ [name], node) ∈ d.nodes := by
  obtain ⟨⟨p, node⟩, member, hn⟩ := List.mem_filterMap.mp (List.mem_mergeSort.mp h)
  exact ⟨node, eq_append_of_below hn ▸ member⟩

theorem listsOnce {d : Disk} (distinct : (d.nodes.map (·.1)).Nodup)
    (named : ∀ node ∈ d.nodes, ∀ name ∈ node.1, Path.IsName name) : d.files.ListsOnce := by
  intro path entries listed
  obtain ⟨found, -, listed⟩ := Except.bind_eq_ok_iff.mp listed
  match found with
  | .found place .directory =>
    cases listed
    have shown : ((d.names place).map path.child).filterMap Path.fileName? = d.names place := by
      have each : ∀ name ∈ d.names place, (path.child name).fileName? = some name := by
        intro name hn
        obtain ⟨node, member⟩ := mem_nodes_of_mem_names hn
        exact Path.fileName?_child path (named _ member name (by simp))
      rw [List.filterMap_map]
      exact (List.filterMap_eq_map_iff_forall_eq_some (g := id).mpr each).trans (List.map_id _)
    rw [shown]
    exact nodup_names distinct place
  | .found _ (.file _) => cases listed
  | .free _ _ => cases listed

end Disk

end HostMonitor
