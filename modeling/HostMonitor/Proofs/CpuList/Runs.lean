import HostMonitor.Proofs.CpuList.Parsing
import HostMonitor.Proofs.Except
import Mathlib.Algebra.Group.Nat.Defs

/-!
# Runs of a list of ids

The loop that merges neighbours forms the word after each id, also after the last one, where it
decides nothing. So it comes to an end exactly if the largest word is not in the list. Then the runs
hold the ids of the list, in order, and no others.
-/

namespace HostMonitor.CpuList

variable {ids rest : List Nat} {spans : List Span} {s : Span} {first last id : Nat} {text : String}

/-! ## Steps of the loop -/

theorem runsFrom_of_le (top : Word.largest ≤ last) (rest : List Nat) :
    runsFrom first last rest = .error .addition := by
  cases rest <;> rw [runsFrom, Word.next_of_le top] <;> rfl

theorem runsFrom_nil (fits : last < Word.largest) :
    runsFrom first last [] = .ok [⟨first, last⟩] := by
  rw [runsFrom, Word.next_of_lt fits]
  rfl

theorem runsFrom_cons (fits : last < Word.largest) (id : Nat) (rest : List Nat) :
    runsFrom first last (id :: rest) =
      if id = last + 1 then runsFrom first (last + 1) rest
      else (runsFrom id id rest).map (⟨first, last⟩ :: ·) := by
  rw [runsFrom, Word.next_of_lt fits]
  show (if id = last + 1 then _ else _) = _
  split
  · rfl
  · cases runsFrom id id rest <;> rfl

/-! ## Overflow -/

theorem runsFrom_of_top (top : ∃ id ∈ last :: rest, Word.largest ≤ id) :
    runsFrom first last rest = .error .addition := by
  induction rest generalizing first last with
  | nil =>
    obtain ⟨id, member, top⟩ := top
    rw [List.mem_singleton.mp member] at top
    exact runsFrom_of_le top []
  | cons next rest ih =>
    by_cases fits : last < Word.largest
    · have later : ∃ id ∈ next :: rest, Word.largest ≤ id := by
        obtain ⟨id, member, top⟩ := top
        refine ⟨id, (List.mem_cons.mp member).resolve_left ?_, top⟩
        omega
      rw [runsFrom_cons fits]
      split
      · next adjacent => exact adjacent ▸ ih later
      · rw [ih later]
        rfl
    · exact runsFrom_of_le (Nat.not_lt.mp fits) _

theorem exists_runsFrom (fit : ∀ id ∈ last :: rest, id < Word.largest) :
    ∃ spans, runsFrom first last rest = .ok spans := by
  induction rest generalizing first last with
  | nil => exact ⟨_, runsFrom_nil (fit last List.mem_cons_self)⟩
  | cons next rest ih =>
    obtain ⟨fits, later⟩ := List.forall_mem_cons.mp fit
    rw [runsFrom_cons fits]
    split
    · next adjacent => exact adjacent ▸ ih later
    · have found : ∃ spans, runsFrom next next rest = .ok spans := ih later
      obtain ⟨spans, found⟩ := found
      exact ⟨⟨first, last⟩ :: spans, by rw [found]; rfl⟩

theorem runs_of_top (top : ∃ id ∈ ids, Word.largest ≤ id) : runs ids = .error .addition := by
  cases ids with
  | nil => simp at top
  | cons id rest => exact runsFrom_of_top top

theorem exists_runs (fit : ∀ id ∈ ids, id < Word.largest) : ∃ spans, runs ids = .ok spans := by
  cases ids with
  | nil => exact ⟨[], rfl⟩
  | cons id rest => exact exists_runsFrom fit

/-! ## Ids of runs -/

theorem Span.ids_singleton (id : Nat) : (⟨id, id⟩ : Span).ids = [id] := by
  simp [ids, size]

theorem Span.ids_concat (order : first ≤ last) :
    (⟨first, last + 1⟩ : Span).ids = (⟨first, last⟩ : Span).ids ++ [last + 1] := by
  have one_more : last + 1 + 1 - first = (last + 1 - first) + 1 := by omega
  have next : first + (last + 1 - first) = last + 1 := by omega
  simp only [ids, size, one_more, List.range'_1_concat, next]

theorem last_lt_of_runsFrom (found : runsFrom first last rest = .ok spans) :
    last < Word.largest := by
  refine Nat.lt_of_not_le fun top => ?_
  rw [runsFrom_of_le top] at found
  cases found

/-- The run that is being built comes first, whatever follows, and every run holds an id. -/
theorem ids_of_runsFrom (order : first ≤ last) (found : runsFrom first last rest = .ok spans) :
    spans.flatMap Span.ids = (⟨first, last⟩ : Span).ids ++ rest ∧
      ∀ s ∈ spans, s.first ≤ s.last := by
  have fits := last_lt_of_runsFrom found
  induction rest generalizing first last spans with
  | nil =>
    rw [runsFrom_nil fits] at found
    cases found
    simpa using order
  | cons id rest ih =>
    rw [runsFrom_cons fits] at found
    split at found
    · next adjacent =>
      subst adjacent
      obtain ⟨members, ordered⟩ := ih (by omega) found (last_lt_of_runsFrom found)
      refine ⟨?_, ordered⟩
      rw [members, Span.ids_concat order, List.append_assoc]
      rfl
    · obtain ⟨more, later, rfl⟩ := Except.map_eq_ok_iff.mp found
      obtain ⟨members, ordered⟩ := ih (Nat.le_refl id) later (last_lt_of_runsFrom later)
      refine ⟨?_, List.forall_mem_cons.mpr ⟨order, ordered⟩⟩
      rw [List.flatMap_cons, members, Span.ids_singleton]
      rfl

theorem ids_of_runs (found : runs ids = .ok spans) :
    spans.flatMap Span.ids = ids ∧ ∀ s ∈ spans, s.first ≤ s.last := by
  cases ids with
  | nil =>
    cases found
    exact ⟨rfl, by simp⟩
  | cons id rest => simpa [Span.ids_singleton] using ids_of_runsFrom (Nat.le_refl id) found

theorem last_mem_of_runs (found : runs ids = .ok spans) (member : s ∈ spans) : s.last ∈ ids := by
  obtain ⟨members, ordered⟩ := ids_of_runs found
  rw [← members]
  exact List.mem_flatMap.mpr
    ⟨s, member, Span.mem_ids.mpr ⟨ordered s member, Nat.le_refl s.last⟩⟩

/-! ## Written lists -/

theorem format_eq_ok_iff : format ids = .ok text ↔
    ∃ spans, runs (ascending ids) = .ok spans ∧ String.ofList (spansChars spans) = text := by
  refine Except.bind_eq_ok_iff.trans (exists_congr fun spans => and_congr_right fun _ => ?_)
  exact ⟨Except.ok.inj, congrArg Except.ok⟩

theorem format_of_top (top : ∃ id ∈ ids, Word.largest ≤ id) : format ids = .error .addition := by
  have top : ∃ id ∈ ascending ids, Word.largest ≤ id := by simpa only [mem_ascending] using top
  rw [format, runs_of_top top]
  rfl

theorem exists_format (fit : ∀ id ∈ ids, id < Word.largest) : ∃ text, format ids = .ok text := by
  obtain ⟨spans, found⟩ := exists_runs fun id member => fit id (mem_ascending.mp member)
  exact ⟨_, format_eq_ok_iff.mpr ⟨spans, found, rfl⟩⟩

theorem lt_largest_of_format (written : format ids = .ok text) : ∀ id ∈ ids, id < Word.largest := by
  refine fun id member => Nat.lt_of_not_le fun top => ?_
  rw [format_of_top ⟨id, member, top⟩] at written
  cases written

theorem largest_eq : Word.largest = 2 ^ 64 - 1 := by decide

/-- A list of words is written exactly if the largest word is not in it. Otherwise the word after
this one is formed, which there is not, and the program breaks off. -/
theorem format_overflows_iff (words : ∀ id ∈ ids, id ≤ 2 ^ 64 - 1) :
    (format ids = .error .addition ↔ 2 ^ 64 - 1 ∈ ids) ∧
      ((∃ text, format ids = .ok text) ↔ 2 ^ 64 - 1 ∉ ids) := by
  by_cases top : 2 ^ 64 - 1 ∈ ids
  · have overflows := format_of_top ⟨_, top, Nat.le_of_eq largest_eq⟩
    refine ⟨iff_of_true overflows top, iff_of_false ?_ fun missing => missing top⟩
    rintro ⟨text, written⟩
    rw [overflows] at written
    cases written
  · have fit : ∀ id ∈ ids, id < Word.largest := fun id member =>
      largest_eq ▸ Nat.lt_of_le_of_ne (words id member) (ne_of_mem_of_not_mem member top)
    obtain ⟨text, written⟩ := exists_format fit
    refine ⟨iff_of_false ?_ top, iff_of_true ⟨text, written⟩ top⟩
    intro overflows
    rw [written] at overflows
    cases overflows

/-- A list up to the last word but one. -/
theorem format_overflows_below_largest :
    (∀ id ∈ [2 ^ 64 - 2, 3, 2 ^ 64 - 3], id ≤ 2 ^ 64 - 1) ∧
      2 ^ 64 - 1 ∉ [2 ^ 64 - 2, 3, 2 ^ 64 - 3] ∧
      ∃ text, format [2 ^ 64 - 2, 3, 2 ^ 64 - 3] = .ok text := by
  have words : ∀ id ∈ [2 ^ 64 - 2, 3, 2 ^ 64 - 3], id ≤ 2 ^ 64 - 1 := by decide
  have below : 2 ^ 64 - 1 ∉ [2 ^ 64 - 2, 3, 2 ^ 64 - 3] := by decide
  exact ⟨words, below, (format_overflows_iff words).2.mpr below⟩

/-- The largest word, as a text names it. -/
theorem format_overflows_at_largest :
    parse "18446744073709551615" [] = .ok [2 ^ 64 - 1] ∧
      (∀ id ∈ [2 ^ 64 - 1], id ≤ 2 ^ 64 - 1) ∧ format [2 ^ 64 - 1] = .error .addition := by
  have alone : ascending [2 ^ 64 - 1] = [2 ^ 64 - 1] :=
    ascending_of_pairwise (List.pairwise_singleton ..)
  exact ⟨alone ▸ parse_of_parseElements (by decide) (by decide) rfl, by decide,
    format_of_top ⟨_, List.mem_singleton.mpr rfl, Nat.le_of_eq largest_eq⟩⟩

end HostMonitor.CpuList
