import HostMonitor.File.Tree
import HostMonitor.Proofs.Text.Splitting

/-!
# Components of paths

What the operations on paths do to the components that a path stands for: a child has one more, a
parent one less, and the ancestors are the shorter paths, down to the root.
-/

namespace HostMonitor.Path

variable {p q : Path} {first piece name : String} {ps rest idle : List String}
  {cs : List Component} {x : Component}

/-! ## Pieces -/

/-- Whether a piece counts for nothing after the first one. -/
def IsIdle (piece : String) : Prop :=
  piece = "" ∨ piece = "."

theorem component?_eq_none_iff : component? piece = none ↔ IsIdle piece := by
  unfold component? IsIdle
  grind

theorem component?_ne_root : component? piece ≠ some .root := by
  unfold component?
  grind

theorem filterMap_component?_of_idle (h : ∀ piece ∈ idle, IsIdle piece) :
    idle.filterMap component? = [] := by
  rw [List.filterMap_eq_nil_iff]
  exact fun piece hp => component?_eq_none_iff.mpr (h piece hp)

/-- The components that come from the first piece when it is not all there is. -/
def front (first : String) : List Component :=
  if first = "" then [.root] else leading first

theorem components_cons (h : first ≠ "" ∨ rest ≠ []) :
    components ⟨first :: rest⟩ = front first ++ rest.filterMap component? := by
  cases rest with
  | nil =>
    have hf : first ≠ "" := h.resolve_right (absurd rfl)
    simp [components, front, hf]
  | cons piece rest => rfl

theorem exists_leading (h : first ≠ "") : ∃ x, x ≠ .root ∧ leading first = [x] := by
  unfold leading component?
  by_cases here : first = "."
  · exact ⟨.here, by decide, by simp [here]⟩
  by_cases up : first = ".."
  · exact ⟨.up, by decide, by simp [up]⟩
  · exact ⟨.name first, by simp, by simp [h, here, up]⟩

theorem front_ne_nil (first : String) : front first ≠ [] := by
  unfold front
  split
  · simp
  · next h =>
    obtain ⟨x, -, hx⟩ := exists_leading h
    simp [hx]

/-- An empty path is the only one without components. -/
theorem components_eq_nil_iff : p.components = [] ↔ p.text = "" := by
  obtain ⟨pieces⟩ := p
  match pieces with
  | [] => exact ⟨fun _ => rfl, fun _ => rfl⟩
  | [first] =>
    show leading first = [] ↔ first = ""
    refine ⟨fun h => Decidable.byContradiction fun hf => ?_, ?_⟩
    · obtain ⟨x, -, hx⟩ := exists_leading hf
      simp [hx] at h
    · rintro rfl
      rfl
  | first :: second :: rest =>
    rw [components_cons (.inr (by simp))]
    simp [front_ne_nil, text, String.intercalate_cons_cons]

/-! ## Children -/

/-- Whether a text is the name of one file or directory. -/
def IsName (name : String) : Prop :=
  component? name = some (.name name) ∧ '/' ∉ name.toList

theorem pieces_ofString (h : '/' ∉ name.toList) : ofString name = ⟨[name]⟩ := by
  rw [ofString, ofChars, Text.splitAt_of_notMem h]
  simp

theorem leading_name (h : IsName name) : leading name = [.name name] := by
  have named := h.1
  unfold leading
  rw [named]
  split
  · next hd =>
    subst hd
    exact absurd named (by decide)
  · rfl

theorem components_concat (first : String) (before : List String) (piece : String) :
    components ⟨first :: (before ++ [piece])⟩ =
      front first ++ before.filterMap component? ++ (component? piece).toList := by
  have tail : [piece].filterMap component? = (component? piece).toList := by
    cases h : component? piece <;> simp [h]
  rw [components_cons (.inr (by simp)), List.filterMap_append, tail, List.append_assoc]

theorem components_child (p : Path) (h : IsName name) :
    (p.child name).components = p.components ++ [.name name] := by
  obtain ⟨pieces⟩ := p
  have relative : isAbsolute ⟨[name]⟩ = false := by
    unfold isAbsolute
    grind
  rw [child, pieces_ofString h.2, join, relative]
  simp only [Bool.false_eq_true, if_false]
  split
  · next trailing =>
    -- The slash at the end is taken over, not doubled.
    obtain ⟨before, rfl⟩ := List.getLast?_eq_some_iff.mp trailing
    rw [List.dropLast_concat]
    cases before with
    | nil => exact leading_name h
    | cons first before =>
      rw [List.cons_append, List.cons_append, components_concat, components_concat, h.1]
      simp [component?_eq_none_iff.mpr (.inl rfl)]
  · next proper =>
    cases pieces with
    | nil => exact leading_name h
    | cons first before =>
      have counts : first ≠ "" ∨ before ≠ [] := by
        by_cases hb : before = []
        · subst hb
          exact .inl (by simpa using proper)
        · exact .inr hb
      rw [List.cons_append, components_concat, components_cons counts, h.1]
      rfl

/-! ## Parents -/

theorem exists_idle_dropIdle (ps : List String) (nonempty : ps ≠ []) :
    ∃ idle, ps = idle ++ dropIdle ps ∧ (∀ piece ∈ idle, IsIdle piece) ∧ dropIdle ps ≠ [] := by
  fun_induction dropIdle ps with
  | case1 => exact absurd rfl nonempty
  | case2 first => exact ⟨[], rfl, by simp, by simp⟩
  | case3 piece rest more h ih =>
    obtain ⟨idle, split, idles, kept⟩ := ih (by simpa using more)
    refine ⟨piece :: idle, by rw [List.cons_append, ← split], ?_, kept⟩
    exact List.forall_mem_cons.mpr ⟨by simpa [IsIdle] using h, idles⟩
  | case4 piece rest more h => exact ⟨[], rfl, by simp, by simp⟩

theorem not_isIdle_of_dropIdle {last : String} (h : dropIdle ps = last :: rest)
    (more : rest ≠ []) : ¬IsIdle last := by
  fun_induction dropIdle ps with
  | case1 => cases h
  | case2 first =>
    cases h
    exact absurd rfl more
  | case3 piece rest' _ _ ih => exact ih h
  | case4 piece rest' _ counts =>
    cases h
    simpa [IsIdle] using counts

/-- The first piece is always kept, and what is not kept counts for nothing. -/
theorem exists_kept (first : String) (more : List String) :
    ∃ kept idle, dropIdle (first :: more).reverse = (first :: kept).reverse ∧
      more = kept ++ idle ∧ ∀ piece ∈ idle, IsIdle piece := by
  obtain ⟨idle, split, idles, nonempty⟩ := exists_idle_dropIdle (first :: more).reverse (by simp)
  obtain ⟨first', kept, hk⟩ := List.exists_cons_of_ne_nil
    (mt List.reverse_eq_nil_iff.mp nonempty)
  have pieces : first :: more = first' :: kept ++ idle.reverse := by
    rw [← hk, ← List.reverse_append, ← split, List.reverse_reverse]
  obtain ⟨rfl, hm⟩ := List.cons.inj pieces
  refine ⟨kept, idle.reverse, by rw [← hk, List.reverse_reverse], hm, fun piece hp => ?_⟩
  exact idles piece (List.mem_reverse.mp hp)

/-- Without the pieces that count for nothing at its end a path has the same components, if the
first piece is taken as one that others follow. -/
theorem components_dropIdle (first : String) (more : List String) :
    (match dropIdle (first :: more).reverse with
      | [""] => (⟨["", ""]⟩ : Path)
      | kept => ⟨kept.reverse⟩).components = front first ++ more.filterMap component? := by
  obtain ⟨kept, idle, hk, rfl, idles⟩ := exists_kept first more
  rw [hk, List.filterMap_append, filterMap_component?_of_idle idles, List.append_nil]
  by_cases root : first = "" ∧ kept = []
  · obtain ⟨rfl, rfl⟩ := root
    rfl
  · have counts : first ≠ "" ∨ kept ≠ [] := by
      rwa [Decidable.not_and_iff_not_or_not] at root
    rw [← components_cons counts]
    split
    · next h =>
      have single := congrArg List.reverse h
      rw [List.reverse_reverse] at single
      cases single
      exact absurd ⟨rfl, rfl⟩ root
    · rw [List.reverse_reverse]

theorem parent?_of_dropIdle {pieces : List String} {last : String}
    (kept : dropIdle pieces.reverse = last :: rest) (more : rest ≠ []) :
    parent? ⟨pieces⟩ = some (match dropIdle rest with
      | [""] => (⟨["", ""]⟩ : Path)
      | kept => ⟨kept.reverse⟩) := by
  unfold parent?
  rw [kept]
  cases rest with
  | nil => exact absurd rfl more
  | cons piece rest =>
    dsimp only
    split <;> simp_all

/-- A path that names something below the root has a parent, and its components are those of the
parent and one more. -/
theorem parent?_cases (p : Path) :
    (p.parent? = none ∧ (p.components = [] ∨ p.components = [.root])) ∨
      ∃ q x, p.parent? = some q ∧ x ≠ .root ∧ p.components = q.components ++ [x] := by
  obtain ⟨pieces⟩ := p
  cases pieces with
  | nil => exact .inl ⟨rfl, .inl rfl⟩
  | cons first more =>
    obtain ⟨kept, idle, hk, rfl, idles⟩ := exists_kept first more
    rcases List.eq_nil_or_concat kept with rfl | ⟨before, last, rfl⟩
    · rw [List.reverse_singleton] at hk
      by_cases hf : first = ""
      · subst hf
        refine .inl ⟨by rw [parent?, hk]; rfl, ?_⟩
        cases idle with
        | nil => exact .inl rfl
        | cons piece idle =>
          right
          rw [components_cons (.inr (by simp)), List.nil_append,
            filterMap_component?_of_idle idles]
          rfl
      · obtain ⟨x, hx, single⟩ := exists_leading hf
        refine .inr ⟨⟨[""]⟩, x, by rw [parent?, hk]; exact if_neg hf, hx, ?_⟩
        rw [components_cons (.inl hf), List.nil_append, filterMap_component?_of_idle idles, front,
          if_neg hf, single]
        rfl
    · rw [List.concat_eq_append] at hk ⊢
      have reversed :
          (first :: (before ++ [last])).reverse = last :: (first :: before).reverse := by
        simp
      rw [reversed] at hk
      have more : (first :: before).reverse ≠ [] := by simp
      obtain ⟨x, hx⟩ := Option.ne_none_iff_exists'.mp
        (mt component?_eq_none_iff.mp (not_isIdle_of_dropIdle hk more))
      refine .inr ⟨_, x, parent?_of_dropIdle hk more, ?_, ?_⟩
      · rintro rfl
        exact component?_ne_root hx
      · rw [components_dropIdle, components_cons (.inr (by simp)), List.filterMap_append,
          filterMap_component?_of_idle idles, List.filterMap_append]
        simp [hx]

theorem exists_parent?_iff :
    (∃ q, p.parent? = some q ∧ q.components = cs) ↔
      ∃ x, x ≠ .root ∧ p.components = cs ++ [x] := by
  rcases parent?_cases p with ⟨none, top⟩ | ⟨q, x, some, hx, split⟩
  · constructor
    · rintro ⟨q, some, -⟩
      rw [none] at some
      cases some
    · rintro ⟨x, hx, split⟩
      rw [split] at top
      rcases top with top | top
      · simp at top
      · simp [List.append_eq_singleton_iff, hx] at top
  · rw [split]
    constructor
    · rintro ⟨q', some', rfl⟩
      rw [some] at some'
      cases some'
      exact ⟨x, hx, rfl⟩
    · rintro ⟨x', -, split'⟩
      exact ⟨q, some, (List.append_inj' split' rfl).1⟩

/-! ## Ancestors -/

theorem exists_mem_ancestorsWithin_iff {fuel : Nat} (enough : p.components.length ≤ fuel) :
    (∃ q ∈ ancestorsWithin fuel p, q.components = cs) ↔
      ∃ t, t ≠ [] ∧ .root ∉ t ∧ p.components = cs ++ t := by
  induction fuel generalizing p with
  | zero =>
    have none : p.components = [] := by simpa using enough
    simp +contextual [ancestorsWithin, none, eq_comm]
  | succ fuel ih =>
    rw [ancestorsWithin]
    rcases parent?_cases p with ⟨none, top⟩ | ⟨q, x, some, hx, split⟩
    · rw [none]
      constructor
      · rintro ⟨q, hq, -⟩
        cases hq
      · rintro ⟨t, nonempty, below, split⟩
        rw [split] at top
        rcases top with top | top
        · simp [nonempty] at top
        · rcases List.append_eq_singleton_iff.mp top with ⟨-, rfl⟩ | ⟨-, ht⟩
          · simp at below
          · exact absurd ht nonempty
    · have shorter : q.components.length ≤ fuel := by
        rw [split, List.length_append, List.length_singleton] at enough
        omega
      simp only [some, List.mem_cons, exists_eq_or_imp, ih shorter, split]
      constructor
      · rintro (rfl | ⟨t, nonempty, below, hq⟩)
        · exact ⟨[x], by simp, by simpa using hx.symm, rfl⟩
        · refine ⟨t ++ [x], by simp, ?_, by rw [hq, List.append_assoc]⟩
          simp [below, hx.symm]
      · rintro ⟨t, nonempty, below, hq⟩
        rcases List.eq_nil_or_concat t with rfl | ⟨t', y, rfl⟩
        · exact absurd rfl nonempty
        · rw [List.concat_eq_append, ← List.append_assoc] at hq
          have hq' := (List.append_inj' hq rfl).1
          by_cases ht : t' = []
          · subst ht
            exact .inl (by simpa using hq')
          · exact .inr ⟨t', ht, fun h => below (by simp [h]), hq'⟩

theorem length_components_le (p : Path) : p.components.length ≤ p.pieces.length + 1 := by
  obtain ⟨pieces⟩ := p
  cases pieces with
  | nil => simp [components]
  | cons first rest =>
    have lead : (leading first).length ≤ 1 := by
      by_cases hf : first = ""
      · subst hf
        simp [leading, component?]
      · obtain ⟨x, -, hx⟩ := exists_leading hf
        simp [hx]
    have front : (front first).length ≤ 1 := by
      unfold Path.front
      split
      · simp
      · exact lead
    have more := List.length_filterMap_le component? rest
    by_cases counts : first ≠ "" ∨ rest ≠ []
    · rw [components_cons counts, List.length_append, List.length_cons]
      omega
    · have hr : rest = [] := by simpa using (not_or.mp counts).2
      subst hr
      exact Nat.le_succ_of_le lead

/-- The ancestors of a path are the paths whose components it begins with, except that nothing lies
above the root. -/
theorem exists_mem_ancestors_iff :
    (∃ q ∈ p.ancestors, q.components = cs) ↔
      ∃ t, t ≠ [] ∧ .root ∉ t ∧ p.components = cs ++ t :=
  exists_mem_ancestorsWithin_iff (length_components_le p)

/-- The root can only be the first component. -/
theorem root_notMem_tail (p : Path) : .root ∉ p.components.tail := by
  obtain ⟨pieces⟩ := p
  have later (rest : List String) : .root ∉ rest.filterMap component? := fun h => by
    obtain ⟨piece, -, hp⟩ := List.mem_filterMap.mp h
    exact component?_ne_root hp
  match pieces with
  | [] => simp [components]
  | [first] =>
    by_cases hf : first = ""
    · subst hf
      simp [components, leading, component?]
    · obtain ⟨x, -, hx⟩ := exists_leading hf
      simp [components, hx]
  | first :: second :: rest =>
    rw [components_cons (.inr (by simp)), front]
    split
    · exact later _
    · next hf =>
      obtain ⟨x, -, hx⟩ := exists_leading hf
      rw [hx]
      exact later _

/-- Whether `p` is a proper ancestor of `q` that names something. -/
def IsAbove (p q : Path) : Prop :=
  p.components ≠ [] ∧ p.components <+: q.components ∧ p.components ≠ q.components

theorem isAbove_iff :
    p.IsAbove q ↔ p.components ≠ [] ∧ ∃ below, below ≠ [] ∧ .root ∉ below ∧
      q.components = p.components ++ below := by
  unfold IsAbove
  refine and_congr_right fun some => ?_
  constructor
  · rintro ⟨⟨below, split⟩, proper⟩
    refine ⟨below, ?_, ?_, split.symm⟩
    · rintro rfl
      exact proper (by simpa using split)
    · intro h
      have tail := root_notMem_tail q
      rw [← split, List.tail_append_of_ne_nil some] at tail
      exact tail (List.mem_append_right _ h)
  · rintro ⟨below, nonempty, -, split⟩
    rw [split]
    exact ⟨List.prefix_append _ _, by simpa using nonempty⟩

theorem IsAbove.of_isPrefix {r : Path} (h : p.IsAbove q) (more : q.components <+: r.components) :
    p.IsAbove r := by
  obtain ⟨some, front, proper⟩ := h
  refine ⟨some, front.trans more, fun same => proper ?_⟩
  exact front.eq_of_length_le (same ▸ more.length_le)

/-! ## Written paths -/

/-- Whether a path comes from a text. -/
def IsWritten (p : Path) : Prop :=
  ∃ text, p = ofString text

theorem mem_pieces_of_mem_components (h : .name name ∈ p.components) :
    name ∈ p.pieces ∧ component? name = some (.name name) := by
  have own : ∀ {piece}, component? piece = some (.name name) →
      piece = name ∧ component? name = some (.name name) := by
    intro piece hp
    have same : piece = name := by
      unfold component? at hp
      grind
    exact ⟨same, same ▸ hp⟩
  have first : ∀ {piece}, .name name ∈ leading piece →
      piece = name ∧ component? name = some (.name name) := by
    intro piece hp
    unfold leading at hp
    split at hp
    · simp at hp
    · exact own (Option.mem_toList.mp hp)
  obtain ⟨pieces⟩ := p
  match pieces with
  | [] => simp [components] at h
  | [piece] =>
    obtain ⟨rfl, named⟩ := first h
    exact ⟨by simp, named⟩
  | piece :: second :: rest =>
    rw [components_cons (.inr (by simp)), List.mem_append, List.mem_filterMap] at h
    rcases h with h | ⟨later, hl, hc⟩
    · unfold front at h
      split at h
      · simp at h
      · obtain ⟨rfl, named⟩ := first h
        exact ⟨by simp, named⟩
    · obtain ⟨rfl, named⟩ := own hc
      exact ⟨List.mem_cons_of_mem _ hl, named⟩

/-- The names in a path that was written are names of single files or directories. -/
theorem IsWritten.isName (h : p.IsWritten) (hn : .name name ∈ p.components) : IsName name := by
  obtain ⟨text, rfl⟩ := h
  obtain ⟨piece, named⟩ := mem_pieces_of_mem_components hn
  refine ⟨named, ?_⟩
  obtain ⟨w, hw, rfl⟩ := List.mem_map.mp piece
  simpa using Text.notMem_of_mem_splitAt hw

/-! ## Sets of paths -/

theorem same_iff : p.same q = true ↔ p.components = q.components :=
  decide_eq_true_iff

theorem memberOf_iff {qs : List Path} :
    p.memberOf qs = true ↔ ∃ q ∈ qs, q.components = p.components := by
  simp only [memberOf, List.any_eq_true, same_iff, eq_comm (a := p.components)]

theorem mem_insertNew {qs : List Path} :
    (∃ r ∈ q.insertNew qs, r.components = cs) ↔
      (∃ r ∈ qs, r.components = cs) ∨ q.components = cs := by
  unfold insertNew
  split
  · next there =>
    obtain ⟨r, hr, same⟩ := memberOf_iff.mp there
    constructor
    · exact .inl
    · rintro (h | rfl)
      · exact h
      · exact ⟨r, hr, same⟩
  · simp [or_and_right, exists_or]

theorem nodup_insertNew {qs : List Path} (h : (qs.map components).Nodup) :
    ((q.insertNew qs).map components).Nodup := by
  unfold insertNew
  split
  · exact h
  · next new =>
    rw [List.map_append, List.map_singleton]
    refine List.nodup_append.mpr ⟨h, by simp, ?_⟩
    rintro cs hcs cs' hcs' rfl
    obtain ⟨r, hr, same⟩ := List.mem_map.mp hcs
    refine new (memberOf_iff.mpr ⟨r, hr, ?_⟩)
    rw [same, List.mem_singleton.mp hcs']

end HostMonitor.Path
