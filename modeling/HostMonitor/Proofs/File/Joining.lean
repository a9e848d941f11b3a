import HostMonitor.Proofs.File.Components

/-!
# Joining paths

A relative path that is joined to another adds its steps, an absolute one takes its place. The steps
of a path may lead up again; they stay below the place where they start if they never lead up more
often than down.
-/

namespace HostMonitor

/-- Whether steps taken from `depth` directories below a place never lead out of it. -/
def StaysBelow : Nat → List Component → Prop
  | _, [] => True
  | _, .root :: _ => False
  | depth, .here :: rest => StaysBelow depth rest
  | 0, .up :: _ => False
  | depth + 1, .up :: rest => StaysBelow depth rest
  | depth, .name _ :: rest => StaysBelow (depth + 1) rest

instance decidableStaysBelow : (depth : Nat) → (steps : List Component) →
    Decidable (StaysBelow depth steps)
  | _, [] => .isTrue trivial
  | _, .root :: _ => .isFalse id
  | depth, .here :: rest => decidableStaysBelow depth rest
  | 0, .up :: _ => .isFalse id
  | depth + 1, .up :: rest => decidableStaysBelow depth rest
  | depth, .name _ :: rest => decidableStaysBelow (depth + 1) rest

namespace StaysBelow

variable {depth : Nat} {steps : List Component}

theorem filter_iff : StaysBelow depth (steps.filter (· ≠ .here)) ↔ StaysBelow depth steps := by
  fun_induction StaysBelow depth steps with
  | case1 => exact Iff.rfl
  | case2 => exact Iff.rfl
  | case3 depth rest ih => exact ih
  | case4 => exact Iff.rfl
  | case5 depth rest ih => exact ih
  | case6 depth name rest ih => exact ih

/-- A name at the end leads further down. -/
theorem concat_name_iff (name : String) :
    StaysBelow depth (steps ++ [.name name]) ↔ StaysBelow depth steps := by
  fun_induction StaysBelow depth steps with
  | case1 => exact ⟨fun _ => trivial, fun _ => trivial⟩
  | case2 => exact Iff.rfl
  | case3 depth rest ih => exact ih
  | case4 => exact Iff.rfl
  | case5 depth rest ih => exact ih
  | case6 depth name rest ih => exact ih

end StaysBelow

namespace Path

variable {p rel : Path} {piece : String}

/-- What a path adds to one that it is joined to. -/
def steps (p : Path) : List Component :=
  p.pieces.filterMap component?

theorem steps_cons (piece : String) (rest : List String) :
    steps ⟨piece :: rest⟩ = (component? piece).toList ++ steps ⟨rest⟩ := by
  unfold steps
  rw [List.filterMap_cons]
  cases component? piece <;> rfl

theorem component?_ne_here : component? piece ≠ some .here := by
  unfold component?
  grind

theorem filter_component? (piece : String) :
    (component? piece).toList.filter (· ≠ .here) = (component? piece).toList := by
  rw [List.filter_eq_self]
  rintro x hx
  simpa using fun h => component?_ne_here (h ▸ Option.mem_toList.mp hx)

theorem filter_leading (piece : String) :
    (leading piece).filter (· ≠ .here) = (component? piece).toList := by
  unfold leading
  split
  · next h => simp [h, component?]
  · exact filter_component? piece

theorem filter_steps (p : Path) : p.steps.filter (· ≠ .here) = p.steps := by
  rw [List.filter_eq_self]
  rintro x hx
  obtain ⟨piece, -, h⟩ := List.mem_filterMap.mp hx
  simpa using fun here => component?_ne_here (here ▸ h)

theorem components_of_isAbsolute (h : p.isAbsolute = true) : p.components = .root :: p.steps := by
  obtain ⟨pieces⟩ := p
  unfold isAbsolute at h
  split at h
  · next h' =>
    cases h'
    rfl
  · cases h

/-- A dot in front is all that a relative path has besides its steps. -/
theorem filter_components_of_relative (h : p.isAbsolute = false) :
    p.components.filter (· ≠ .here) = p.steps := by
  obtain ⟨pieces⟩ := p
  match pieces with
  | [] => rfl
  | [piece] =>
    rw [steps_cons, steps, List.filterMap_nil, List.append_nil]
    exact filter_leading piece
  | first :: piece :: rest =>
    have named : first ≠ "" := by
      rintro rfl
      cases h
    rw [components_cons (.inr (by simp)), front, if_neg named, List.filter_append, filter_leading,
      steps_cons]
    exact congrArg _ (filter_steps ⟨piece :: rest⟩)

theorem pieces_ofString_ne_nil (s : String) : (ofString s).pieces ≠ [] := by
  simpa [ofString, ofChars, Text.splitAt] using Text.pieces_ne_nil _ _

theorem join_of_isAbsolute (h : rel.isAbsolute = true) : p.join rel = rel := by
  simp [join, h]

theorem join_of_components_eq_nil (h : p.components = []) : p.join rel = rel := by
  obtain ⟨pieces⟩ := p
  match pieces with
  | [] => simp [join]
  | [first] =>
    have empty : first = "" := by simpa [text] using components_eq_nil_iff.mp h
    simp [join, empty]
  | first :: second :: rest =>
    rw [components_cons (.inr (by simp))] at h
    exact absurd (List.append_eq_nil_iff.mp h).1 (front_ne_nil first)

/-- A slash at the end of a path is taken over, not doubled. -/
theorem exists_base_join (p : Path) (relative : rel.isAbsolute = false) :
    ∃ base, p.join rel = ⟨base ++ rel.pieces⟩ ∧ (p = ⟨base⟩ ∨ p = ⟨base ++ [""]⟩) := by
  obtain ⟨pieces⟩ := p
  unfold join
  rw [relative, if_neg (by simp)]
  split
  · next trailing =>
    obtain ⟨base, rfl⟩ := List.getLast?_eq_some_iff.mp trailing
    exact ⟨base, by rw [List.dropLast_concat], .inr rfl⟩
  · exact ⟨pieces, rfl, .inl rfl⟩

theorem components_join (started : p.components ≠ []) (relative : rel.isAbsolute = false)
    (given : rel.pieces ≠ []) : (p.join rel).components = p.components ++ rel.steps := by
  obtain ⟨base, joined, own⟩ := exists_base_join p relative
  cases base with
  | nil => rcases own with rfl | rfl <;> exact absurd rfl started
  | cons first before =>
    have own' : p.components = front first ++ before.filterMap component? := by
      rcases own with rfl | rfl
      · refine components_cons ?_
        rw [← Decidable.not_and_iff_not_or_not]
        rintro ⟨rfl, rfl⟩
        exact started rfl
      · rw [List.cons_append, components_concat, component?_eq_none_iff.mpr (.inl rfl)]
        exact List.append_nil _
    rw [joined, own', List.cons_append, components_cons (.inr (by simp [given])),
      List.filterMap_append, List.append_assoc]
    rfl

end Path

end HostMonitor
