import HostMonitor.Cpu.List

/-!
# Members of lists of ids

A set of ids has one ascending list, and `ascending` is the way to it from any list of its members.
-/

namespace HostMonitor.CpuList

variable {ids configured : List Nat} {id : Nat}

theorem mem_dropRepeats : id ∈ dropRepeats ids ↔ id ∈ ids := by
  fun_induction dropRepeats ids with
  | case1 => rfl
  | case2 a => rfl
  | case3 a rest ih => simp [ih]
  | case4 a b rest _ ih => simp [ih]

theorem mem_ascending : id ∈ ascending ids ↔ id ∈ ids := by
  rw [ascending, mem_dropRepeats, List.mem_mergeSort]

theorem mem_without {blacklist : List Nat} :
    id ∈ without ids blacklist ↔ id ∈ ids ∧ id ∉ blacklist := by
  simp [without]

theorem without_nil (ids : List Nat) : without ids [] = ids := by
  simp [without]

/-- What a smaller blacklist leaves does not matter to a larger one. -/
theorem without_without {small large : List Nat} (larger : ∀ id ∈ small, id ∈ large)
    (ids : List Nat) : without (without ids small) large = without ids large := by
  unfold without
  rw [List.filter_filter]
  refine List.filter_congr fun id _ => ?_
  have kept := mt (larger id)
  simpa using kept

/-- Only the members of a blacklist matter. -/
theorem without_congr {blacklist blacklist' : List Nat}
    (same : ∀ id, id ∈ blacklist ↔ id ∈ blacklist') (ids : List Nat) :
    without ids blacklist = without ids blacklist' := by
  refine List.filter_congr fun id _ => ?_
  simp [same]

theorem mem_complement : id ∈ complement configured ids ↔ id ∈ configured ∧ id ∉ ids := by
  rw [complement, mem_ascending, mem_without]

theorem ascending_nil : ascending [] = [] := by
  simp [ascending, dropRepeats]

theorem complement_nil (ids : List Nat) : complement [] ids = [] := by
  simp [complement, without, ascending_nil]

/-! ## Ascending lists -/

theorem pairwise_dropRepeats (h : ids.Pairwise (· ≤ ·)) : (dropRepeats ids).Pairwise (· < ·) := by
  fun_induction dropRepeats ids with
  | case1 => exact .nil
  | case2 a => exact List.pairwise_singleton _ a
  | case3 a rest ih => exact ih (List.pairwise_cons.mp h).2
  | case4 a b rest hne ih =>
    obtain ⟨ha, hb⟩ := List.pairwise_cons.mp h
    refine List.pairwise_cons.mpr ⟨fun id hid => ?_, ih hb⟩
    have least : b ≤ id := by
      rcases List.mem_cons.mp (mem_dropRepeats.mp hid) with rfl | hr
      · exact Nat.le_refl id
      · exact (List.pairwise_cons.mp hb).1 id hr
    have first : a ≤ b := ha b List.mem_cons_self
    omega

theorem pairwise_mergeSort (ids : List Nat) : (ids.mergeSort (· ≤ ·)).Pairwise (· ≤ ·) := by
  have sorted : (ids.mergeSort (· ≤ ·)).Pairwise fun a b => decide (a ≤ b) = true :=
    List.pairwise_mergeSort (fun a b c hab hbc => by simp at *; omega)
      (fun a b => by simp; omega) ids
  simpa using sorted

theorem mergeSort_eq_of_perm {as : List Nat} (perm : ids.Perm as) (sorted : as.Pairwise (· < ·)) :
    ids.mergeSort (· ≤ ·) = as := by
  have same : (ids.mergeSort (· ≤ ·)).Perm as := (List.mergeSort_perm ids _).trans perm
  refine same.eq_of_pairwise (fun a b _ _ => Nat.le_antisymm) (pairwise_mergeSort ids) ?_
  exact sorted.imp Nat.le_of_lt

theorem pairwise_ascending (ids : List Nat) : (ascending ids).Pairwise (· < ·) :=
  pairwise_dropRepeats (pairwise_mergeSort ids)

theorem eq_of_pairwise_lt {as bs : List Nat} (ha : as.Pairwise (· < ·)) (hb : bs.Pairwise (· < ·))
    (same : ∀ id, id ∈ as ↔ id ∈ bs) : as = bs := by
  have perm : as.Perm bs :=
    (List.perm_ext_iff_of_nodup (ha.imp Nat.ne_of_lt) (hb.imp Nat.ne_of_lt)).mpr same
  refine perm.eq_of_pairwise (fun a b _ _ hab hba => ?_) ha hb
  exact absurd hab (Nat.lt_asymm hba)

/-- The least member of an ascending list stands in front. -/
theorem exists_eq_cons_of_least (sorted : ids.Pairwise (· < ·)) (member : id ∈ ids)
    (least : ∀ other ∈ ids, id ≤ other) : ∃ rest, ids = id :: rest := by
  obtain ⟨first, rest, rfl⟩ := List.exists_cons_of_ne_nil (List.ne_nil_of_mem member)
  refine ⟨rest, congrArg (· :: rest) ?_⟩
  rcases List.mem_cons.mp member with same | later
  · exact same.symm
  · have below := (List.pairwise_cons.mp sorted).1 id later
    have above := least first List.mem_cons_self
    omega

theorem ascending_eq_iff {as : List Nat} :
    ascending ids = as ↔ as.Pairwise (· < ·) ∧ ∀ id, id ∈ as ↔ id ∈ ids := by
  constructor
  · rintro rfl
    exact ⟨pairwise_ascending ids, fun id => mem_ascending⟩
  · rintro ⟨sorted, same⟩
    exact eq_of_pairwise_lt (pairwise_ascending ids) sorted fun id =>
      mem_ascending.trans (same id).symm

theorem ascending_eq_ascending_iff {ids' : List Nat} :
    ascending ids = ascending ids' ↔ ∀ id, id ∈ ids ↔ id ∈ ids' := by
  rw [ascending_eq_iff]
  constructor
  · rintro ⟨-, same⟩ id
    rw [← same, mem_ascending]
  · intro same
    exact ⟨pairwise_ascending ids', fun id => mem_ascending.trans (same id).symm⟩

theorem ascending_eq_nil_iff : ascending ids = [] ↔ ids = [] := by
  simp [List.eq_nil_iff_forall_not_mem, mem_ascending]

theorem ascending_of_members {as : List Nat} (sorted : as.Pairwise (· < ·))
    (found : ∀ id ∈ as, id ∈ ids) (complete : ∀ id ∈ ids, id ∈ as) : ascending ids = as :=
  ascending_eq_iff.mpr ⟨sorted, fun id => ⟨found id, complete id⟩⟩

theorem ascending_of_pairwise (h : ids.Pairwise (· < ·)) : ascending ids = ids :=
  ascending_of_members h (fun _ => id) fun _ => id

/-! ## Spans -/

theorem Span.mem_ids {s : Span} : id ∈ s.ids ↔ s.first ≤ id ∧ id ≤ s.last := by
  rw [ids, List.mem_range'_1, size]
  omega

end HostMonitor.CpuList
