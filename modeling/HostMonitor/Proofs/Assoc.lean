import HostMonitor.Assoc

/-!
# Entries of association lists

What putting a value under a key and taking a key out do to the entries. Both keep the keys in
ascending order, so that no key is there twice, and then a list is known by what is under each key.
-/

namespace HostMonitor.Assoc

variable {κ ν : Type} [DecidableEq κ]

theorem values_erase_sublist (m : Assoc κ ν) (k : κ) : (m.erase k).values.Sublist m.values :=
  List.filter_sublist.map _

theorem ne_of_contains_eq_false {m : Assoc κ ν} {k : κ} (h : m.contains k = false) :
    ∀ e ∈ m.entries, e.1 ≠ k := by
  have absent : ∀ k' v, (k', v) ∈ m.entries → k' ≠ k := by simpa [contains, get?] using h
  exact fun e he => absent e.1 e.2 he

theorem contains_iff {m : Assoc κ ν} {k : κ} : m.contains k = true ↔ k ∈ m.keys := by
  simp [contains, get?, keys]

variable [LT κ]

/-- The entries in the order of their keys, each key once. -/
def Ascending (m : Assoc κ ν) : Prop :=
  m.entries.Pairwise fun e e' => e.1 < e'.1

theorem Ascending.erase {m : Assoc κ ν} (h : m.Ascending) (k : κ) : (m.erase k).Ascending :=
  List.Pairwise.sublist List.filter_sublist h

variable [DecidableLT κ]

instance (m : Assoc κ ν) : Decidable m.Ascending :=
  inferInstanceAs (Decidable (List.Pairwise _ m.entries))

theorem insertInto_perm {k : κ} {entries : List (κ × ν)} (v : ν)
    (fresh : ∀ e ∈ entries, e.1 ≠ k) : (insertInto k v entries).Perm ((k, v) :: entries) := by
  induction entries with
  | nil => exact .refl _
  | cons e rest ih =>
    have hne : e.1 ≠ k := fresh e List.mem_cons_self
    have ih := ih fun e' he => fresh e' (List.mem_cons_of_mem e he)
    rw [insertInto, if_neg hne]
    split
    · exact .refl _
    · exact (ih.cons e).trans (.swap (k, v) e rest)

/-- A value under a new key joins the values that are there. -/
theorem values_insert_perm {m : Assoc κ ν} {k : κ} (v : ν) (h : m.contains k = false) :
    (m.insert k v).values.Perm (v :: m.values) :=
  (insertInto_perm v (ne_of_contains_eq_false h)).map Prod.snd

theorem eq_or_mem_of_mem_insertInto {k : κ} {v : ν} {entries : List (κ × ν)} {e : κ × ν}
    (h : e ∈ insertInto k v entries) : e = (k, v) ∨ e ∈ entries := by
  induction entries with
  | nil => exact .inl (List.mem_singleton.mp h)
  | cons e' rest ih =>
    rw [insertInto] at h
    split at h
    · exact (List.mem_cons.mp h).imp_right (List.mem_cons_of_mem e')
    split at h
    · exact List.mem_cons.mp h
    · rcases List.mem_cons.mp h with rfl | h
      · exact .inr List.mem_cons_self
      · exact (ih h).imp_right (List.mem_cons_of_mem e')

theorem Ascending.insert [Trans (α := κ) (· < ·) (· < ·) (· < ·)]
    [Std.Trichotomous (α := κ) (· < ·)] {m : Assoc κ ν} (h : m.Ascending) (k : κ) (v : ν) :
    (m.insert k v).Ascending := by
  obtain ⟨entries⟩ := m
  unfold Ascending Assoc.insert at *
  dsimp only at h ⊢
  induction entries with
  | nil => exact List.pairwise_singleton _ _
  | cons e rest ih =>
    obtain ⟨first, others⟩ := List.pairwise_cons.mp h
    rw [insertInto]
    split
    · next same => exact List.pairwise_cons.mpr ⟨same ▸ first, others⟩
    · next differs =>
      split
      · next before =>
        refine List.pairwise_cons.mpr ⟨fun e' he => ?_, h⟩
        rcases List.mem_cons.mp he with rfl | he
        · exact before
        · exact Trans.trans before (first e' he)
      · next after =>
        have below : e.1 < k := Decidable.byContradiction fun other =>
          differs (Std.Trichotomous.trichotomous e.1 k other after)
        refine List.pairwise_cons.mpr ⟨fun e' he => ?_, ih others⟩
        rcases eq_or_mem_of_mem_insertInto he with rfl | he
        · exact below
        · exact first e' he

/-! ## Lookup -/

theorem get?_insert (m : Assoc κ ν) (k k' : κ) (v : ν) :
    (m.insert k v).get? k' = if k = k' then some v else m.get? k' := by
  obtain ⟨entries⟩ := m
  unfold Assoc.insert get?
  dsimp only
  induction entries with
  | nil => by_cases same : k = k' <;> simp [insertInto, same]
  | cons e rest ih =>
    rw [insertInto]
    split
    · next old => by_cases same : k = k' <;> simp [old, same]
    split
    · by_cases same : k = k' <;> simp [List.find?_cons, same]
    · next other _ =>
      by_cases here : e.1 = k'
      · have differs : k ≠ k' := fun same => other (here.trans same.symm)
        simp [here, differs]
      · simpa [List.find?_cons, here] using ih

/-- Under a new key a value comes and goes without a trace. -/
theorem erase_insert {m : Assoc κ ν} {k : κ} (v : ν) (h : m.contains k = false) :
    (m.insert k v).erase k = m := by
  have fresh := ne_of_contains_eq_false h
  obtain ⟨entries⟩ := m
  unfold Assoc.insert Assoc.erase
  dsimp only at fresh ⊢
  clear h
  congr 1
  induction entries with
  | nil => simp [insertInto]
  | cons e rest ih =>
    obtain ⟨first, others⟩ := List.forall_mem_cons.mp fresh
    rw [insertInto, if_neg first]
    split
    · rw [List.filter_cons_of_neg (by simp), List.filter_eq_self]
      exact fun e' he' => by simpa using fresh e' he'
    · rw [List.filter_cons_of_pos (by simpa using first), ih others]

variable [Std.Irrefl (α := κ) (· < ·)] {m m' : Assoc κ ν}

omit [DecidableLT κ] in
theorem Ascending.get?_eq_some_iff (h : m.Ascending) {k : κ} {v : ν} :
    m.get? k = some v ↔ (k, v) ∈ m.entries := by
  obtain ⟨entries⟩ := m
  unfold Ascending get? at *
  dsimp only at h ⊢
  induction entries with
  | nil => simp
  | cons e rest ih =>
    obtain ⟨first, others⟩ := List.pairwise_cons.mp h
    by_cases same : e.1 = k
    · have later : (k, v) ∉ rest := fun hv =>
        Std.Irrefl.irrefl k (by simpa [same] using first (k, v) hv)
      obtain ⟨k', v'⟩ := e
      cases same
      simp [later, eq_comm]
    · have other : (k, v) ≠ e := fun he => same (congrArg Prod.fst he).symm
      rw [List.find?_cons_of_neg (by simpa using same), ih others, List.mem_cons,
        or_iff_right other]

omit [DecidableLT κ] in
/-- Two lists that hold the same under every key are the same. -/
theorem Ascending.eq_of_get? [Trans (α := κ) (· < ·) (· < ·) (· < ·)] (h : m.Ascending)
    (h' : m'.Ascending) (same : ∀ k, m.get? k = m'.get? k) : m = m' := by
  have members : ∀ e, e ∈ m.entries ↔ e ∈ m'.entries := fun (k, v) => by
    rw [← h.get?_eq_some_iff, ← h'.get?_eq_some_iff, same]
  have irrefl : ∀ k : κ, ¬k < k := Std.Irrefl.irrefl
  have once : ∀ {m : Assoc κ ν}, m.Ascending → m.entries.Nodup := by
    intro m ascending
    refine List.Pairwise.imp (fun {e e'} before => ?_) ascending
    rintro rfl
    exact irrefl e.1 before
  have perm := (List.perm_ext_iff_of_nodup (once h) (once h')).mpr members
  refine congrArg Assoc.mk (perm.eq_of_pairwise (fun e e' _ _ before after => ?_) h h')
  have cycle : e.1 < e.1 := Trans.trans (r := (· < ·)) (s := (· < ·)) before after
  exact absurd cycle (irrefl e.1)

end HostMonitor.Assoc
