import HostMonitor.Proofs.File.History
import HostMonitor.Proofs.Monitor.Watching
import HostMonitor.Proofs.Nic.Attributes

/-!
# Discovery of interfaces

Below the directory of all interfaces there is one directory for each of them, and there may be
other things. An interface is known by the file that counts its received bytes. In a file tree in
memory every interface with such a file is found and nothing else is, since whatever lies above a
file has been made a directory when the file was added.
-/

namespace HostMonitor

namespace Nic

open FileTree

variable {files : Files} {edits : List Edit} {root : Path} {name : String}

theorem mem_discover_iff :
    name ∈ discover files root ↔ ∃ entries, files.list root = .ok entries ∧ ∃ entry ∈ entries,
      files.contains (entry.child Attribute.rxBytes.file) = true ∧ entry.fileName? = some name := by
  unfold discover
  cases files.list root with
  | error e => simp [Except.toOption]
  | ok entries => simp [Except.toOption, and_assoc]

theorem components_counter (directory : Path) :
    (directory.child Attribute.rxBytes.file).components =
      directory.components ++ [.name "statistics", .name "rx_bytes"] :=
  components_child_file directory .rxBytes

/-- The directory of an interface lies below the root, and its counter below that. -/
theorem isAbove_counter (given : root.text ≠ "") (h : Path.IsName name) :
    root.IsAbove ((root.child name).child Attribute.rxBytes.file) ∧
      (root.child name).IsAbove ((root.child name).child Attribute.rxBytes.file) := by
  have top : root.components ≠ [] := mt Path.components_eq_nil_iff.mp given
  have own : (root.child name).components = root.components ++ [.name name] :=
    Path.components_child root h
  constructor <;> simp [Path.IsAbove, components_counter, own, top]

/-- The counter is looked for below the entry, which may be written in another way. -/
theorem components_counter_of_entry {entry : Path}
    (own : entry.components = root.components ++ [.name name]) (h : Path.IsName name) :
    (entry.child Attribute.rxBytes.file).components =
      ((root.child name).child Attribute.rxBytes.file).components := by
  rw [components_counter, components_counter, own, Path.components_child root h]

/-- An interface is found in a file tree exactly if the file exists that counts its received bytes.
The interfaces come in strictly ascending order, so that each is found once. -/
theorem discover_ofEdits (written : ∀ e ∈ edits, e.path.IsWritten) (given : root.text ≠ "") :
    (discover (ofEdits edits).files root).Pairwise (· < ·) ∧
      ∀ name, name ∈ discover (ofEdits edits).files root ↔ Path.IsName name ∧
        (ofEdits edits).contains ((root.child name).child "statistics/rx_bytes") = true := by
  refine ⟨discover_ascending (listsOnce (nodup_keys_ofEdits edits)) root, fun name => ?_⟩
  rw [mem_discover_iff]
  constructor
  · rintro ⟨entries, listed, entry, hentry, counted, named⟩
    obtain ⟨-, rfl⟩ := list_ofEdits_eq_ok_iff.mp listed
    obtain ⟨parent, there⟩ := mem_children_ofEdits.mp ⟨entry, hentry, rfl⟩
    obtain ⟨x, -, split⟩ := Path.exists_parent?_iff.mp parent
    have own : entry.components = root.components ++ [.name name] := by
      rw [split, Path.eq_name_of_fileName? named split]
    obtain ⟨q, content, added, front⟩ := Holds.exists_added there
    have isName : Path.IsName name := (written _ added).isName (front.subset (by simp [own]))
    refine ⟨isName, contains_ofEdits.mpr ?_⟩
    exact (Holds.congr (components_counter_of_entry own isName)).mp (contains_ofEdits.mp counted)
  · rintro ⟨isName, counted⟩
    have there : Holds edits ((root.child name).child Attribute.rxBytes.file) :=
      contains_ofEdits.mp counted
    obtain ⟨aboveRoot, above⟩ := isAbove_counter given isName
    have own := Path.components_child root isName
    -- All that lies above the counter is a directory: the root is listed, and shows the interface.
    have listed := list_ofEdits_eq_ok_iff.mpr ⟨there.holdsDirectory aboveRoot, rfl⟩
    obtain ⟨entry, hentry, same⟩ := mem_children_ofEdits.mpr
      ⟨Path.exists_parent?_iff.mpr ⟨.name name, nofun, own⟩, .inr (there.holdsDirectory above)⟩
    refine ⟨_, listed, entry, hentry, contains_ofEdits.mpr ?_, ?_⟩
    · exact (Holds.congr (components_counter_of_entry (same.trans own) isName)).mpr there
    · rw [Path.fileName?, same, own, List.getLast?_concat]

/-- Two interfaces in paths that are written in odd ways, a counter that is gone, a file between the
interfaces, and a counter above the root. -/
def strayEdits : List Edit :=
  [.add (Path.ofString "/sys/class/net/wlan0/./statistics//rx_bytes/0") "",
    .add (Path.ofString "/sys/class/net/lo/statistics/rx_bytes") "1",
    .add (Path.ofString "/sys/class/net/bonding_masters") "",
    .add (Path.ofString "/sys/class//net/eth0/statistics/rx_bytes/") "1",
    .add (Path.ofString "/sys/class/net/../statistics/rx_bytes") "1",
    .remove (Path.ofString "/sys/./class/net/lo//statistics/rx_bytes")]

theorem discover_strayEdits :
    (∀ e ∈ strayEdits, e.path.IsWritten) ∧ (Path.ofString "/sys/class/net/").text ≠ "" ∧
      (∀ name ∈ ["eth0", "wlan0"],
        name ∈ discover (ofEdits strayEdits).files (Path.ofString "/sys/class/net/")) ∧
      ∀ name ∈ ["lo", "bonding_masters", ".."],
        name ∉ discover (ofEdits strayEdits).files (Path.ofString "/sys/class/net/") := by
  have written : ∀ e ∈ strayEdits, e.path.IsWritten := by
    simp only [strayEdits, List.forall_mem_cons]
    exact ⟨⟨_, rfl⟩, ⟨_, rfl⟩, ⟨_, rfl⟩, ⟨_, rfl⟩, ⟨_, rfl⟩, ⟨_, rfl⟩, nofun⟩
  have given : (Path.ofString "/sys/class/net/").text ≠ "" := by decide
  have found := (discover_ofEdits written given).2
  refine ⟨written, given, fun name h => (found name).mpr ?_, fun name h => mt (found name).mp ?_⟩
  · revert name
    unfold Path.IsName
    decide +kernel
  · revert name
    unfold Path.IsName
    decide +kernel

end Nic

end HostMonitor
