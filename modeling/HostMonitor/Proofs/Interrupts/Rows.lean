import HostMonitor.Proofs.Interrupts

/-!
# The rows of the interrupt table

Every row is read by itself, and the answer for a table is the union of the answers for its rows. So
neither the order of the rows nor their repetition matters, and what a row adds is known from its
words: the counts go on as long as there are columns and numbers, and everything after them may name
the interface.
-/

namespace HostMonitor.Interrupts

open Text

variable {header iface : String} {rows : List String} {line line' : List Char} {row : Row}
  {columns : Option Nat} {cpu : Nat}

/-- The text of a table with a first line and rows. A text that ends with a line feed has an empty
row at its end. -/
def tableText (header : String) (rows : List String) : String :=
  String.ofList (joinWith '\n' ((header :: rows).map String.toList))

/-! ## The words of a row -/

/-- Whatever words follow the label of a row, they begin with some counts and go on with a
description. -/
theorem exists_counts (columns : Option Nat) (ws : List (List Char)) :
    ∃ tokens counts description, ws = tokens ++ description ∧ List.Forall₂ IsCount tokens counts ∧
      (∀ n ∈ columns, counts.length ≤ n) ∧
      (columns = some counts.length ∨
        ∀ token ∈ description.head?, ∀ count, ¬IsCount token count) := by
  induction ws generalizing columns with
  | nil => exact ⟨[], [], [], rfl, .nil, by simp, .inr (by simp)⟩
  | cons token ws ih =>
    by_cases full : columns = some 0
    · exact ⟨[], [], token :: ws, rfl, .nil, by simp, .inl full⟩
    by_cases counted : ∃ count, IsCount token count
    · -- One column less is left for the words that follow.
      obtain ⟨count, read⟩ := counted
      obtain ⟨tokens, counts, description, rfl, others, fits, stops⟩ := ih (columns.map (· - 1))
      refine ⟨token :: tokens, count :: counts, description, rfl, .cons read others, ?_⟩
      cases columns with
      | none => exact ⟨by simp, by simpa using stops⟩
      | some n =>
        have room : n ≠ 0 := by simpa using full
        simp only [Option.map_some, Option.mem_some_iff, forall_eq', Option.some.injEq,
          List.length_cons] at fits stops ⊢
        exact ⟨by omega, stops.imp_left (by omega)⟩
    · refine ⟨[], [], token :: ws, rfl, .nil, by simp, .inr ?_⟩
      simpa using counted

theorem exists_row (filled : words line ≠ []) (columns : Option Nat) :
    ∃ row : Row, row.IsWrittenIn line ∧ row.IsSplitFor columns := by
  obtain ⟨label, ws, said⟩ := List.exists_cons_of_ne_nil filled
  obtain ⟨tokens, counts, description, rfl, read, fits, stops⟩ := exists_counts columns ws
  exact ⟨⟨label, counts, description⟩, ⟨tokens, said, read⟩, fits, stops⟩

theorem rowCpus_congr (same : words line = words line') (columns : Option Nat) (iface : List Char) :
    rowCpus columns iface line = rowCpus columns iface line' := by
  simp only [rowCpus, same]

theorem rowCpus_of_blank (blank : words line = []) (columns : Option Nat) (iface : List Char) :
    rowCpus columns iface line = [] := by
  simp only [rowCpus, blank]

/-- A row has no more counts than the table has columns. -/
theorem lt_of_mem_rowCpus {n : Nat} (h : cpu ∈ rowCpus (some n) iface.toList line) : cpu < n := by
  have filled : words line ≠ [] := by
    intro blank
    simp [rowCpus_of_blank blank] at h
  obtain ⟨row, written, split⟩ := exists_row filled (some n)
  obtain ⟨-, count, counted, -⟩ := (mem_rowCpus_iff written split).mp h
  have inside := (List.getElem?_eq_some_iff.mp counted).1
  have fits := split.fits n rfl
  omega

/-! ## The lines of a table -/

theorem isHeader_iff_isPrefix : isHeader line = true ↔ "CPU".toList <+: trimLeft line := by
  rw [isHeader, startsWith, Option.isSome_iff_exists]
  exact exists_congr fun rest => dropHead?_eq_some_iff.trans eq_comm

/-- A carriage return at the end of the first line does not make it another one. -/
theorem isHeader_dropReturn (heads : isHeader line = true) : isHeader (dropReturn line) = true := by
  unfold dropReturn
  split
  · next last =>
    obtain ⟨front, rfl⟩ := List.getLast?_eq_some_iff.mp last
    rw [List.dropLast_concat]
    rw [isHeader_iff_isPrefix] at heads ⊢
    rw [trimLeft, List.dropWhile_append] at heads
    split at heads
    · simp [isBlank] at heads
    · rcases List.prefix_concat_iff.mp heads with whole | inside
      · simpa using congrArg List.getLast? whole
      · exact inside
  · exact heads

theorem exists_first_line (heads : isHeader line = true) (ls : List (List Char)) :
    ∃ first, linesOf (line :: ls) = first :: linesOf ls ∧ words first = words line ∧
      isHeader first = true := by
  cases ls with
  | nil =>
    have filled : line ≠ [] := by
      rintro rfl
      exact absurd heads (by decide)
    exact ⟨line, by simp [linesOf, filled], rfl, heads⟩
  | cons next ls =>
    exact ⟨dropReturn line, by rw [linesOf]; simp, words_dropReturn line, isHeader_dropReturn heads⟩

section Rows

variable (heads : isHeader header.toList = true) (headed : '\n' ∉ header.toList)
  (divided : ∀ row ∈ rows, '\n' ∉ row.toList)

include heads headed divided

/-- Each row is read by itself, with the columns of the first line. -/
theorem mem_servingCpus_tableText :
    cpu ∈ servingCpus (tableText header rows) iface ↔
      ∃ row ∈ rows, cpu ∈ rowCpus (some (words header.toList).length) iface.toList row.toList := by
  have separate : ∀ line ∈ (header :: rows).map String.toList, '\n' ∉ line := by
    simpa [headed] using divided
  obtain ⟨first, split, said, still⟩ := exists_first_line heads (rows.map String.toList)
  rw [servingCpus, servingCpusOf, tableText, String.toList_ofList,
    lines_joinWith (by simp) separate,
    List.map_cons, split, table, if_pos still]
  dsimp only
  rw [CpuList.mem_ascending, List.mem_flatMap, said]
  constructor
  · rintro ⟨line, hline, served⟩
    obtain ⟨row, hrow, same⟩ := exists_words_eq_of_mem_linesOf hline
    obtain ⟨text, htext, rfl⟩ := List.mem_map.mp hrow
    exact ⟨text, htext, rowCpus_congr same _ _ ▸ served⟩
  · rintro ⟨text, htext, served⟩
    have filled : words text.toList ≠ [] := by
      intro blank
      simp [rowCpus_of_blank blank] at served
    obtain ⟨line, hline, same⟩ := exists_mem_linesOf_words_eq (List.mem_map_of_mem htext) filled
    exact ⟨line, hline, rowCpus_congr same _ _ ▸ served⟩

theorem mem_servingCpus_row {line : String} (h : line ∈ rows) :
    cpu ∈ servingCpus (tableText header [line]) iface ↔
      cpu ∈ rowCpus (some (words header.toList).length) iface.toList line.toList := by
  have alone : ∀ row ∈ [line], '\n' ∉ row.toList := by simpa using divided line h
  rw [mem_servingCpus_tableText heads headed alone]
  simp

theorem servingCpus_congr {rows' : List String} (same : ∀ row, row ∈ rows' ↔ row ∈ rows) :
    servingCpus (tableText header rows') iface = servingCpus (tableText header rows) iface := by
  have divided' : ∀ row ∈ rows', '\n' ∉ row.toList := fun row h => divided row ((same row).mp h)
  refine CpuList.eq_of_pairwise_lt (CpuList.pairwise_ascending _) (CpuList.pairwise_ascending _)
    fun cpu => ?_
  simp only [mem_servingCpus_tableText heads headed divided',
    mem_servingCpus_tableText heads headed divided, same]

/-- The cpus of a table are those of its rows, each read below the first line by itself, in
ascending order; so only the set of rows counts, and no cpu lies beyond the columns. A row that is
not blank gives the positions of the counts that are not zero, if a word after the counts names the
interface. -/
theorem servingCpus_of_rows (iface : String) :
    (servingCpus (tableText header rows) iface).Pairwise (· < ·) ∧
    (∀ cpu, cpu ∈ servingCpus (tableText header rows) iface ↔
      ∃ line ∈ rows, cpu ∈ servingCpus (tableText header [line]) iface) ∧
    (∀ rows', (∀ row, row ∈ rows' ↔ row ∈ rows) →
      servingCpus (tableText header rows') iface = servingCpus (tableText header rows) iface) ∧
    (∀ cpu ∈ servingCpus (tableText header rows) iface, cpu < (words header.toList).length) ∧
    ∀ line ∈ rows,
      (words line.toList = [] → servingCpus (tableText header [line]) iface = []) ∧
      (words line.toList ≠ [] → ∃ row : Row,
        row.IsWrittenIn line.toList ∧ row.IsSplitFor (some (words header.toList).length)) ∧
      ∀ row : Row, row.IsWrittenIn line.toList →
        row.IsSplitFor (some (words header.toList).length) →
          ∀ cpu, cpu ∈ servingCpus (tableText header [line]) iface ↔
            row.Names iface ∧ ∃ count, row.counts[cpu]? = some count ∧ 0 < count := by
  refine ⟨CpuList.pairwise_ascending _, fun cpu => ?_,
    fun rows' => servingCpus_congr heads headed divided, fun cpu h => ?_, fun line hline => ?_⟩
  · rw [mem_servingCpus_tableText heads headed divided]
    refine exists_congr fun line => and_congr_right fun hline => ?_
    exact (mem_servingCpus_row heads headed divided hline).symm
  · obtain ⟨line, -, served⟩ := (mem_servingCpus_tableText heads headed divided).mp h
    exact lt_of_mem_rowCpus served
  · refine ⟨fun blank => ?_, fun filled => exists_row filled _, fun row written split cpu => ?_⟩
    · refine List.eq_nil_iff_forall_not_mem.mpr fun cpu => ?_
      rw [mem_servingCpus_row heads headed divided hline, rowCpus_of_blank blank]
      exact List.not_mem_nil
    · exact (mem_servingCpus_row heads headed divided hline).trans (mem_rowCpus_iff written split)

end Rows

/-! ## Rows of different lengths -/

def queueHeader : String :=
  "  CPU0 CPU1 CPU2"

/-- A row with a number too many, a short row with a number among its words, rows for an interface
with a longer name and for none, and the end of the text. -/
def queueRows : List String :=
  [" 40: 3 0 5 7 edge eth0-rx-0", " 41: 4 edge 9 usb1, eth0,,", " 42: 0 6 0 edge eth01-rx-0",
    "NMI: 0 8", ""]

/-- The cpus are those of the first two rows, whatever the order of the rows. -/
theorem servingCpus_of_rows_queues :
    isHeader queueHeader.toList = true ∧ '\n' ∉ queueHeader.toList ∧
      (∀ row ∈ queueRows, '\n' ∉ row.toList) ∧
      servingCpus (tableText queueHeader queueRows) "eth0" = [0, 2] ∧
      servingCpus (tableText queueHeader (queueRows.reverse ++ queueRows)) "eth0" = [0, 2] := by
  have heads : isHeader queueHeader.toList = true := by decide
  have headed : '\n' ∉ queueHeader.toList := by decide
  have divided : ∀ row ∈ queueRows, '\n' ∉ row.toList := by decide
  have found : servingCpus (tableText queueHeader queueRows) "eth0" = [0, 2] :=
    CpuList.ascending_of_members (by decide) (by decide +kernel) (by decide +kernel)
  obtain ⟨-, -, unordered, -⟩ := servingCpus_of_rows heads headed divided "eth0"
  refine ⟨heads, headed, divided, found, ?_⟩
  rw [unordered _ (by simp), found]

end HostMonitor.Interrupts
