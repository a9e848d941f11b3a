import HostMonitor.Proofs.File.Listings
import HostMonitor.Proofs.File.Order
import HostMonitor.Proofs.Latest

/-!
# What a file tree remembers

A tree in memory answers from its history alone. What it reads is settled by the last edit of a
path. A directory comes from any file that was ever added below it, also one that is gone. `Recalls`
says so for every question that can be put to files, and `recalls_ofEdits` says that a tree does.
-/

namespace HostMonitor

namespace FileTree

/-- One change of the files in a tree. -/
inductive Edit where
  | add (path : Path) (content : String)
  | remove (path : Path)
  deriving DecidableEq, Repr

/-- The path of the file that is changed. -/
def Edit.path : Edit → Path
  | .add path _ => path
  | .remove path => path

/-- What an edit settles about the file at `p`: its content, or that there is none. -/
def Edit.Settles (p : Path) : Edit → Option String → Prop
  | .add q content, outcome => q.components = p.components ∧ outcome = some content
  | .remove q, outcome => q.components = p.components ∧ outcome = none

/-- Whether the last edit of the file at `p` gave it that content. -/
def HoldsFile (edits : List Edit) (p : Path) (content : String) : Prop :=
  Latest (Edit.Settles p) edits (some content)

/-- Whether `p` lies above a file that was added at some time. -/
def HoldsDirectory (edits : List Edit) (p : Path) : Prop :=
  ∃ q content, .add q content ∈ edits ∧ p.IsAbove q

def edit (t : FileTree) : Edit → FileTree
  | .add path content => t.add path content
  | .remove path => t.remove path

/-- The tree that edits lead to from an empty one. -/
def ofEdits (edits : List Edit) : FileTree :=
  edits.foldl edit empty

end FileTree

open FileTree in
/-- The answers of files that come from edits alone. Entries of a directory are told apart by their
components. -/
structure Files.Recalls (f : Files) (edits : List Edit) : Prop where
  read_file : ∀ p content, HoldsFile edits p content → f.read p = .ok content
  read_missing : ∀ p, (∀ content, ¬HoldsFile edits p content) →
    f.read p = .error (.missingFile p)
  contains_iff : ∀ p, f.contains p = true ↔
    (∃ content, HoldsFile edits p content) ∨ HoldsDirectory edits p
  list_directory : ∀ p, HoldsDirectory edits p → ∃ entries, f.list p = .ok entries ∧
    (entries.map Path.components).Nodup ∧ entries.Pairwise (fun q r => q.lt r = true) ∧
    ∀ q, (∃ entry ∈ entries, entry.components = q.components) ↔
      (∃ parent, q.parent? = some parent ∧ parent.components = p.components) ∧
        ((∃ content, HoldsFile edits q content) ∨ HoldsDirectory edits q)
  list_missing : ∀ p, ¬HoldsDirectory edits p → f.list p = .error (.missingDirectory p)

namespace FileTree

variable {t : FileTree} {edits : List Edit} {p q : Path} {content : String} {cs : List Component}

/-! ## Files -/

theorem Edit.Settles.unique {e : Edit} {b c : Option String} (h : e.Settles p b)
    (h' : e.Settles p c) : b = c := by
  cases e <;> exact h.2.trans h'.2.symm

theorem same_congr (h : p.same q = true) (r : Path) : p.same r = q.same r := by
  simp [Path.same, Path.same_iff.mp h]

theorem not_same_of_same {r : Path} (h : p.same q = true) (other : ¬p.same r = true) :
    ¬r.same q = true := fun same =>
  other (Path.same_iff.mpr ((Path.same_iff.mp h).trans (Path.same_iff.mp same).symm))

theorem content?_add (t : FileTree) (path q : Path) (content : String) :
    (t.add path content).content? q = if path.same q then some content else t.content? q := by
  obtain ⟨entries, directories⟩ := t
  unfold add content?
  dsimp only
  induction entries with
  | nil => by_cases hq : path.same q = true <;> simp [put, hq]
  | cons e rest ih =>
    obtain ⟨p, c⟩ := e
    rw [put]
    by_cases hp : p.same path = true
    · rw [if_pos hp]
      by_cases hq : path.same q = true <;> simp [same_congr hp, hq]
    · rw [if_neg hp, List.find?_cons, List.find?_cons]
      by_cases hq : p.same q = true
      · simp [hq, not_same_of_same hq hp]
      · simpa [hq] using ih

theorem content?_remove (t : FileTree) (path q : Path) :
    (t.remove path).content? q = if path.same q then none else t.content? q := by
  obtain ⟨entries, directories⟩ := t
  unfold remove content?
  dsimp only
  induction entries with
  | nil => simp
  | cons e rest ih =>
    obtain ⟨p, c⟩ := e
    by_cases hp : p.same path = true
    · rw [List.filter_cons_of_neg (by simp [hp]), ih, List.find?_cons, same_congr hp]
      by_cases hq : path.same q = true <;> simp [hq]
    · rw [List.filter_cons_of_pos (by simp [hp]), List.find?_cons, List.find?_cons]
      by_cases hq : p.same q = true
      · simp [hq, not_same_of_same hq hp]
      · simpa [hq] using ih

theorem heeds_content? (p : Path) (edits : List Edit) :
    Heeds (Edit.Settles p) edits edit (·.content? p) where
  heard := by
    rintro t (⟨path, content⟩ | path) - outcome ⟨same, rfl⟩
    · exact (content?_add t path p content).trans (if_pos (Path.same_iff.mpr same))
    · exact (content?_remove t path p).trans (if_pos (Path.same_iff.mpr same))
  unheard := by
    rintro t (⟨path, content⟩ | path) - quiet
    · exact (content?_add t path p content).trans
        (if_neg fun same => quiet _ ⟨Path.same_iff.mp same, rfl⟩)
    · exact (content?_remove t path p).trans
        (if_neg fun same => quiet _ ⟨Path.same_iff.mp same, rfl⟩)

theorem content?_ofEdits :
    (ofEdits edits).content? p = some content ↔ HoldsFile edits p content := by
  rcases (heeds_content? p edits).latest_or_silent empty with latest | ⟨silent, kept⟩
  · constructor
    · intro held
      rwa [← ofEdits, held] at latest
    · exact latest.unique fun _ _ _ => Edit.Settles.unique
  · rw [← ofEdits] at kept
    rw [kept]
    exact ⟨nofun, fun held => absurd silent held.not_silent⟩

theorem HoldsFile.unique {content' : String} (h : HoldsFile edits p content)
    (h' : HoldsFile edits p content') : content = content' :=
  Option.some.inj ((content?_ofEdits.mpr h).symm.trans (content?_ofEdits.mpr h'))

theorem read_ofEdits_eq_ok_iff :
    (ofEdits edits).files.read p = .ok content ↔ HoldsFile edits p content := by
  change (ofEdits edits).read p = .ok content ↔ _
  rw [read, ← content?_ofEdits]
  split <;> simp_all

theorem read_ofEdits_of_missing (missing : ∀ content, ¬HoldsFile edits p content) :
    (ofEdits edits).files.read p = .error (.missingFile p) := by
  change (ofEdits edits).read p = _
  have none : (ofEdits edits).content? p = none :=
    Option.eq_none_iff_forall_ne_some.mpr fun content => mt content?_ofEdits.mp (missing content)
  rw [read, none]

theorem exists_holdsFile_iff :
    (∃ content, HoldsFile edits p content) ↔ p.components ∈ (ofEdits edits).keys := by
  simp only [← content?_ofEdits, ← Option.ne_none_iff_exists', ne_eq, content?_eq_none_iff,
    not_not]

theorem nodup_keys_ofEdits (edits : List Edit) : (ofEdits edits).keys.Nodup := by
  suffices ∀ t : FileTree, t.keys.Nodup → (edits.foldl edit t).keys.Nodup from
    this empty List.nodup_nil
  induction edits with
  | nil => exact fun t h => h
  | cons e edits ih =>
    intro t h
    refine ih _ ?_
    cases e with
    | add path content => exact nodup_keys_add h path content
    | remove path => exact nodup_keys_remove h path

/-! ## Directories -/

theorem mem_directories_foldl_edit :
    (∃ d ∈ (edits.foldl edit t).directories, d.components = p.components) ↔
      (∃ d ∈ t.directories, d.components = p.components) ∨ HoldsDirectory edits p := by
  induction edits generalizing t with
  | nil => simp [HoldsDirectory]
  | cons e edits ih =>
    rw [List.foldl_cons, ih]
    cases e with
    | add path content =>
      rw [edit, mem_directories_add, or_assoc, ← Path.isAbove_iff]
      simp [HoldsDirectory, or_and_right, exists_or]
    | remove path => simp [edit, remove, HoldsDirectory]

theorem mem_directories_ofEdits :
    (∃ d ∈ (ofEdits edits).directories, d.components = p.components) ↔ HoldsDirectory edits p := by
  rw [ofEdits, mem_directories_foldl_edit]
  simp [empty]

theorem memberOf_directories_ofEdits :
    p.memberOf (ofEdits edits).directories = true ↔ HoldsDirectory edits p :=
  Path.memberOf_iff.trans mem_directories_ofEdits

theorem mem_children_ofEdits :
    (∃ entry ∈ (ofEdits edits).children p, entry.components = q.components) ↔
      (∃ parent, q.parent? = some parent ∧ parent.components = p.components) ∧
        ((∃ content, HoldsFile edits q content) ∨ HoldsDirectory edits q) := by
  rw [mem_children_iff, mem_directories_ofEdits, exists_holdsFile_iff, Path.exists_parent?_iff,
    and_comm]

/-! ## Files and directories -/

/-- Whether something is at `p` after the edits. -/
def Holds (edits : List Edit) (p : Path) : Prop :=
  (∃ content, HoldsFile edits p content) ∨ HoldsDirectory edits p

theorem contains_ofEdits : (ofEdits edits).contains p = true ↔ Holds edits p := by
  simp only [contains, Bool.or_eq_true, Option.isSome_iff_exists, content?_ofEdits,
    memberOf_directories_ofEdits, Holds]

theorem list_ofEdits_eq_ok_iff {entries : List Path} :
    (ofEdits edits).files.list p = .ok entries ↔
      HoldsDirectory edits p ∧ (ofEdits edits).children p = entries := by
  show (ofEdits edits).list p = .ok entries ↔ _
  rw [list, ← memberOf_directories_ofEdits]
  split <;> simp_all

/-- A path is known by its components. -/
theorem Holds.congr (same : p.components = q.components) : Holds edits p ↔ Holds edits q := by
  have settles : Edit.Settles p = Edit.Settles q := by
    funext e outcome
    cases e <;> simp [Edit.Settles, same]
  simp only [Holds, HoldsFile, HoldsDirectory, Path.IsAbove, settles, same]

/-- Whatever is there was added, or lies above what was added. -/
theorem Holds.exists_added (h : Holds edits p) :
    ∃ q content, .add q content ∈ edits ∧ p.components <+: q.components := by
  rcases h with ⟨content, held⟩ | ⟨q, content, added, above⟩
  · obtain ⟨e, he, settled⟩ := held.exists_mem
    cases e with
    | add q content' => exact ⟨q, content', he, settled.1 ▸ List.prefix_rfl⟩
    | remove q => cases settled.2
  · exact ⟨q, content, added, above.2.1⟩

/-- What lies above something is a directory. -/
theorem Holds.holdsDirectory (h : Holds edits q) (above : p.IsAbove q) :
    HoldsDirectory edits p := by
  obtain ⟨r, content, added, front⟩ := h.exists_added
  exact ⟨r, content, added, above.of_isPrefix front⟩

/-! ## Answers -/

/-- A tree in memory answers from its history: a file has the content of the last edit of its path,
and it is there until that path is removed. A directory is there from the first file below it on. It
lists, in ascending order and each once, exactly the files and directories directly below it. -/
theorem recalls_ofEdits (edits : List Edit) : (ofEdits edits).files.Recalls edits where
  read_file p content held := by
    change (ofEdits edits).read p = .ok content
    rw [read, content?_ofEdits.mpr held]
  read_missing p none := by
    have missing : (ofEdits edits).content? p = Option.none :=
      Option.eq_none_iff_forall_ne_some.mpr fun content held =>
        none content (content?_ofEdits.mp held)
    change (ofEdits edits).read p = .error (.missingFile p)
    rw [read, missing]
  contains_iff p := by
    change (ofEdits edits).contains p = true ↔ _
    simp only [contains, Bool.or_eq_true, Option.isSome_iff_exists, content?_ofEdits,
      memberOf_directories_ofEdits]
  list_directory p held := by
    have listed : (ofEdits edits).list p = .ok ((ofEdits edits).children p) :=
      if_pos (memberOf_directories_ofEdits.mpr held)
    have distinct : (((ofEdits edits).children p).map Path.components).Nodup :=
      nodup_children (nodup_keys_ofEdits edits)
    exact ⟨_, listed, distinct, Path.pairwise_sort distinct, fun q => mem_children_ofEdits⟩
  list_missing p none :=
    if_neg (mt memberOf_directories_ofEdits.mp none)

/-- A file that is removed leaves the directory above it, which no longer shows it. -/
example :
    let t := ofEdits [.add (Path.ofString "/a/b") "x", .remove (Path.ofString "/a//b/")]
    t.read (Path.ofString "/a/b") = .error (.missingFile (Path.ofString "/a/b")) ∧
      t.list (Path.ofString "/a") = .ok [] := by
  cbv

end FileTree

end HostMonitor
