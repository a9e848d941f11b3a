/-!
# What was told last

Several items may tell something about one thing, and what is told replaces what was told before. In
the end the thing is as the last of the items has it that tells anything.
-/

namespace HostMonitor

variable {ι σ β : Type} {tells : ι → β → Prop} {x : ι} {xs : List ι} {b b₀ c : β}

/-- `b` is what is told by the last item that tells anything. -/
def Latest (tells : ι → β → Prop) (xs : List ι) (b : β) : Prop :=
  ∃ before x after, xs = before ++ x :: after ∧ tells x b ∧ ∀ y ∈ after, ∀ c, ¬tells y c

/-- No item tells anything. -/
def Silent (tells : ι → β → Prop) (xs : List ι) : Prop :=
  ∀ x ∈ xs, ∀ b, ¬tells x b

theorem latest_cons :
    Latest tells (x :: xs) b ↔ Latest tells xs b ∨ tells x b ∧ Silent tells xs := by
  constructor
  · rintro ⟨before, y, after, split, told, silent⟩
    cases before with
    | nil =>
      cases split
      exact .inr ⟨told, silent⟩
    | cons z before =>
      cases split
      exact .inl ⟨before, y, after, rfl, told, silent⟩
  · rintro (⟨before, y, after, rfl, told, silent⟩ | ⟨told, silent⟩)
    · exact ⟨x :: before, y, after, rfl, told, silent⟩
    · exact ⟨[], x, xs, rfl, told, silent⟩

theorem exists_latest_or_silent (tells : ι → β → Prop) (xs : List ι) :
    (∃ b, Latest tells xs b) ∨ Silent tells xs := by
  induction xs with
  | nil => exact .inr nofun
  | cons x xs ih =>
    rcases ih with ⟨b, later⟩ | silent
    · exact .inl ⟨b, latest_cons.mpr (.inl later)⟩
    by_cases told : ∃ b, tells x b
    · obtain ⟨b, told⟩ := told
      exact .inl ⟨b, latest_cons.mpr (.inr ⟨told, silent⟩)⟩
    · exact .inr (List.forall_mem_cons.mpr ⟨fun b hb => told ⟨b, hb⟩, silent⟩)

namespace Latest

theorem exists_mem (h : Latest tells xs b) : ∃ x ∈ xs, tells x b := by
  obtain ⟨before, x, after, rfl, told, -⟩ := h
  exact ⟨x, by simp, told⟩

theorem not_silent (h : Latest tells xs b) : ¬Silent tells xs := by
  obtain ⟨x, hx, told⟩ := h.exists_mem
  exact fun silent => silent x hx b told

theorem unique (one : ∀ x b c, tells x b → tells x c → b = c) (h : Latest tells xs b)
    (h' : Latest tells xs c) : b = c := by
  induction xs with
  | nil =>
    obtain ⟨x, hx, -⟩ := h.exists_mem
    cases hx
  | cons x xs ih =>
    rcases latest_cons.mp h with later | ⟨told, silent⟩ <;>
      rcases latest_cons.mp h' with later' | ⟨told', silent'⟩
    · exact ih later later'
    · exact absurd silent' later.not_silent
    · exact absurd silent later'.not_silent
    · exact one x b c told told'

/-- Where nothing else is told, what is told is told last. -/
theorem of_forall (said : ∃ x ∈ xs, tells x b) (only : ∀ x ∈ xs, ∀ c, tells x c → c = b) :
    Latest tells xs b := by
  obtain ⟨x, hx, told⟩ := said
  rcases exists_latest_or_silent tells xs with ⟨c, latest⟩ | silent
  · obtain ⟨y, hy, told'⟩ := latest.exists_mem
    exact only y hy c told' ▸ latest
  · exact absurd told (silent x hx b)

end Latest

/-! ## One more item -/

theorem latest_concat_of_tells (told : tells x b) : Latest tells (xs ++ [x]) b :=
  ⟨xs, x, [], rfl, told, nofun⟩

theorem Latest.concat (h : Latest tells xs b) (quiet : ∀ c, ¬tells x c) :
    Latest tells (xs ++ [x]) b := by
  obtain ⟨before, y, after, rfl, told, silent⟩ := h
  refine ⟨before, y, after ++ [x], by simp, told, fun z hz => ?_⟩
  rcases List.mem_append.mp hz with hz | hz
  · exact silent z hz
  · exact List.mem_singleton.mp hz ▸ quiet

/-- `b` is what is told last, or `b₀` if nothing is told. -/
def LatestOr (tells : ι → β → Prop) (b₀ : β) (xs : List ι) (b : β) : Prop :=
  Latest tells xs b ∨ Silent tells xs ∧ b = b₀

namespace LatestOr

theorem nil : LatestOr tells b₀ [] b₀ :=
  .inr ⟨nofun, rfl⟩

theorem heard (told : tells x b) : LatestOr tells b₀ (xs ++ [x]) b :=
  .inl (latest_concat_of_tells told)

theorem unheard (h : LatestOr tells b₀ xs b) (quiet : ∀ c, ¬tells x c) :
    LatestOr tells b₀ (xs ++ [x]) b := by
  rcases h with latest | ⟨silent, rfl⟩
  · exact .inl (latest.concat quiet)
  · refine .inr ⟨fun y hy => ?_, rfl⟩
    rcases List.mem_append.mp hy with hy | hy
    · exact silent y hy
    · exact List.mem_singleton.mp hy ▸ quiet

end LatestOr

/-! ## Steps over the items -/

/-- What a field holds after a step is what the item tells, if it tells anything, and what the field
held before otherwise. -/
structure Heeds (tells : ι → β → Prop) (xs : List ι) (step : σ → ι → σ) (field : σ → β) :
    Prop where
  heard : ∀ s, ∀ x ∈ xs, ∀ b, tells x b → field (step s x) = b
  unheard : ∀ s, ∀ x ∈ xs, (∀ b, ¬tells x b) → field (step s x) = field s

namespace Heeds

variable {step : σ → ι → σ} {field : σ → β} {s : σ}

theorem latest_or_silent (h : Heeds tells xs step field) (s : σ) :
    Latest tells xs (field (xs.foldl step s)) ∨
      Silent tells xs ∧ field (xs.foldl step s) = field s := by
  -- By induction on the items, for any state in front of them.
  induction xs generalizing s with
  | nil => exact .inr ⟨nofun, rfl⟩
  | cons x xs ih =>
    have rest : Heeds tells xs step field :=
      ⟨fun s y hy => h.heard s y (.tail x hy), fun s y hy => h.unheard s y (.tail x hy)⟩
    rw [List.foldl_cons]
    rcases ih rest (step s x) with later | ⟨silent, kept⟩
    · exact .inl (latest_cons.mpr (.inl later))
    rw [kept]
    by_cases told : ∃ b, tells x b
    · obtain ⟨b, told⟩ := told
      rw [h.heard s x (.head xs) b told]
      exact .inl (latest_cons.mpr (.inr ⟨told, silent⟩))
    · have quiet : ∀ b, ¬tells x b := fun b hb => told ⟨b, hb⟩
      refine .inr ⟨fun y hy => ?_, h.unheard s x (.head xs) quiet⟩
      rcases List.mem_cons.mp hy with rfl | hy
      · exact quiet
      · exact silent y hy

/-- A field that holds nothing at first holds in the end what was told last. -/
theorem eq_some_iff {field : σ → Option β}
    (h : Heeds (fun x o => ∃ b, tells x b ∧ o = some b) xs step field)
    (one : ∀ x b c, tells x b → tells x c → b = c) (nothing : field s = none) :
    field (xs.foldl step s) = some b ↔ Latest tells xs b := by
  have known : ∀ {o}, Latest (fun x o => ∃ b, tells x b ∧ o = some b) xs o →
      ∃ b, Latest tells xs b ∧ o = some b := by
    rintro o ⟨before, x, after, split, ⟨b, told, ho⟩, silent⟩
    exact ⟨b, ⟨before, x, after, split, told, fun y hy c hc => silent y hy _ ⟨c, hc, rfl⟩⟩, ho⟩
  rcases h.latest_or_silent s with told | ⟨silent, kept⟩
  · obtain ⟨c, latest, held⟩ := known told
    rw [held, Option.some.injEq]
    exact ⟨fun same => same ▸ latest, fun latest' => latest.unique one latest'⟩
  · rw [kept, nothing]
    refine ⟨nofun, fun latest => ?_⟩
    obtain ⟨x, hx, told⟩ := latest.exists_mem
    exact absurd ⟨b, told, rfl⟩ (silent x hx (some b))

end Heeds

end HostMonitor
