import HostMonitor.Proofs.File.Components

/-!
# What a file tree holds

A tree that is made of files at different paths holds these files, and the directories above them.
A directory that is listed shows what lies directly below it, each name once.
-/

namespace HostMonitor.FileTree

variable {t : FileTree} {files : List (Path × String)} {path p q : Path} {content : String}
  {cs : List Component}

/-- The components of the paths under which files are held. -/
def keys (t : FileTree) : List (List Component) :=
  t.entries.map (·.1.components)

/-! ## Adding files -/

theorem put_of_new {entries : List (Path × String)}
    (h : path.components ∉ entries.map (·.1.components)) (content : String) :
    put path content entries = entries ++ [(path, content)] := by
  induction entries with
  | nil => rfl
  | cons e rest ih =>
    obtain ⟨p, c⟩ := e
    rw [List.map_cons] at h
    have other : p.same path = false :=
      Bool.eq_false_iff.mpr fun same => List.ne_of_not_mem_cons h (Path.same_iff.mp same).symm
    rw [put, other, ih (List.not_mem_of_not_mem_cons h)]
    rfl

theorem entries_foldl_add (h : (t.keys ++ files.map (·.1.components)).Nodup) :
    (files.foldl (fun t (p, c) => t.add p c) t).entries = t.entries ++ files := by
  induction files generalizing t with
  | nil => simp
  | cons f files ih =>
    obtain ⟨path, content⟩ := f
    have new : path.components ∉ t.keys := fun member =>
      (List.nodup_append.mp h).2.2 _ member _ (by simp) rfl
    have added : (t.add path content).entries = t.entries ++ [(path, content)] :=
      put_of_new new content
    have rest : ((t.add path content).keys ++ files.map (·.1.components)).Nodup := by
      simpa [keys, added] using h
    rw [List.foldl_cons, ih rest, added, List.append_assoc]
    rfl

/-- A tree made of files at different paths holds just these files. -/
theorem entries_ofList (h : (files.map (·.1.components)).Nodup) : (ofList files).entries = files :=
  entries_foldl_add (by simpa [keys, empty] using h)

theorem mem_foldl_register {dirs ps : List Path} :
    (∃ d ∈ ps.foldl register dirs, d.components = cs) ↔
      (∃ d ∈ dirs, d.components = cs) ∨ cs ≠ [] ∧ ∃ p ∈ ps, p.components = cs := by
  induction ps generalizing dirs with
  | nil => simp
  | cons p ps ih =>
    have step : (∃ d ∈ register dirs p, d.components = cs) ↔
        (∃ d ∈ dirs, d.components = cs) ∨ cs ≠ [] ∧ p.components = cs := by
      unfold register
      split
      · next none =>
        have top := Path.components_eq_nil_iff.mpr none
        rw [top]
        grind
      · next some =>
        have below := mt Path.components_eq_nil_iff.mp some
        rw [Path.mem_insertNew]
        grind
    rw [List.foldl_cons, ih, step]
    grind

/-- A file that is added makes directories of what lies above it. -/
theorem mem_directories_add (t : FileTree) (path : Path) (content : String) :
    (∃ d ∈ (t.add path content).directories, d.components = cs) ↔
      (∃ d ∈ t.directories, d.components = cs) ∨
        cs ≠ [] ∧ ∃ below, below ≠ [] ∧ .root ∉ below ∧ path.components = cs ++ below := by
  rw [← Path.exists_mem_ancestors_iff]
  exact mem_foldl_register

theorem mem_directories_foldl_add :
    (∃ d ∈ (files.foldl (fun t (p, c) => t.add p c) t).directories, d.components = cs) ↔
      (∃ d ∈ t.directories, d.components = cs) ∨
        cs ≠ [] ∧ ∃ f ∈ files, ∃ below, below ≠ [] ∧ .root ∉ below ∧
          f.1.components = cs ++ below := by
  induction files generalizing t with
  | nil => simp
  | cons f files ih =>
    rw [List.foldl_cons, ih, mem_directories_add]
    simp only [List.mem_cons, exists_eq_or_imp, and_or_left, or_assoc]

/-- The directories of a tree are what lies above its files. -/
theorem mem_directories_ofList :
    (∃ d ∈ (ofList files).directories, d.components = cs) ↔
      cs ≠ [] ∧ ∃ f ∈ files, ∃ below, below ≠ [] ∧ .root ∉ below ∧
        f.1.components = cs ++ below := by
  rw [ofList, mem_directories_foldl_add]
  simp [empty]

/-! ## Reading files -/

theorem content?_eq_some_of_mem (distinct : t.keys.Nodup) (h : (p, content) ∈ t.entries)
    (same : p.components = q.components) : t.content? q = some content := by
  obtain ⟨entries, dirs⟩ := t
  unfold keys at distinct
  unfold content?
  dsimp only at h distinct ⊢
  induction entries with
  | nil => cases h
  | cons e rest ih =>
    obtain ⟨p', content'⟩ := e
    rw [List.map_cons, List.nodup_cons] at distinct
    rcases List.mem_cons.mp h with he | hr
    · cases he
      have found : p.same q = true := Path.same_iff.mpr same
      simp [found]
    · have other : p'.same q = false := Bool.eq_false_iff.mpr fun same' => distinct.1 (by
        rw [Path.same_iff.mp same', ← same]
        exact List.mem_map.mpr ⟨_, hr, rfl⟩)
      rw [List.find?_cons, other]
      exact ih distinct.2 hr

theorem content?_eq_none_iff : t.content? q = none ↔ q.components ∉ t.keys := by
  simp [content?, keys, Path.same]

/-! ## Listing directories -/

theorem isChild_iff :
    isChild path q = true ↔ ∃ x, x ≠ .root ∧ q.components = path.components ++ [x] := by
  rw [← Path.exists_parent?_iff, isChild]
  cases q.parent? with
  | none => simp
  | some p => simp [Path.same_iff]

theorem mem_foldl_insertNew {ps qs : List Path} :
    (∃ r ∈ qs.foldl (fun ps d => d.insertNew ps) ps, r.components = cs) ↔
      (∃ r ∈ ps, r.components = cs) ∨ ∃ r ∈ qs, r.components = cs := by
  induction qs generalizing ps with
  | nil => simp
  | cons q qs ih =>
    rw [List.foldl_cons, ih, Path.mem_insertNew]
    grind

theorem nodup_foldl_insertNew {ps qs : List Path} (h : (ps.map Path.components).Nodup) :
    ((qs.foldl (fun ps d => d.insertNew ps) ps).map Path.components).Nodup := by
  induction qs generalizing ps with
  | nil => exact h
  | cons q qs ih => exact ih (Path.nodup_insertNew h)

theorem mem_children_iff :
    (∃ r ∈ t.children path, r.components = cs) ↔
      (cs ∈ t.keys ∨ ∃ d ∈ t.directories, d.components = cs) ∧
        ∃ x, x ≠ .root ∧ cs = path.components ++ [x] := by
  simp only [children, Path.sort, List.mem_mergeSort, mem_foldl_insertNew, List.mem_filter,
    Bool.and_eq_true, isChild_iff]
  constructor
  · rintro (⟨r, ⟨hr, child⟩, rfl⟩ | ⟨r, ⟨hr, child, -⟩, rfl⟩)
    · obtain ⟨e, he, rfl⟩ := List.mem_map.mp hr
      exact ⟨.inl (List.mem_map.mpr ⟨e, he, rfl⟩), child⟩
    · exact ⟨.inr ⟨r, hr, rfl⟩, child⟩
  · rintro ⟨file | ⟨d, hd, rfl⟩, child⟩
    · obtain ⟨e, he, rfl⟩ := List.mem_map.mp file
      exact .inl ⟨e.1, ⟨List.mem_map.mpr ⟨e, he, rfl⟩, child⟩, rfl⟩
    · have below : (!d.same path) = true := by
        obtain ⟨x, -, hx⟩ := child
        have longer : d.components ≠ path.components := fun equal => by simp [hx] at equal
        simpa [← Path.same_iff] using longer
      exact .inr ⟨d, ⟨hd, child, below⟩, rfl⟩

theorem nodup_children (distinct : t.keys.Nodup) :
    ((t.children path).map Path.components).Nodup := by
  unfold children Path.sort
  refine (List.Perm.nodup_iff ((List.mergeSort_perm _ _).map _)).mpr (nodup_foldl_insertNew ?_)
  have held : (t.entries.map (·.1.components)) = (t.entries.map (·.1)).map Path.components := by
    simp
  rw [keys, held] at distinct
  exact distinct.sublist (List.filter_sublist.map _)

end HostMonitor.FileTree
