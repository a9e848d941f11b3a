import HostMonitor.Proofs.Stat.Reading
import HostMonitor.Proofs.Text.Words

/-!
# Reports that were written

A report has one line for all cpus, one for each cpu and one for the time of boot, among lines of
other kinds. Reading undoes writing: it gives back what the lines were written for, in whatever
order they come. The two halves meet at `Covers`, which holds of the lines that are read off such a
text.
-/

namespace HostMonitor.Stat

open Text

variable {d s : Stat} {x : Subject} {line first : List Char}
  {tokens ls report noise : List (List Char)}
  {counts : List Counter} {j : Jiffies} {n id : Nat} {content : String}

section Forall₂

variable {α β : Type} {R : α → β → Prop} {as : List α} {bs : List β}

theorem exists_of_mem_left (h : List.Forall₂ R as bs) {a : α} (ha : a ∈ as) : ∃ b ∈ bs, R a b := by
  induction h with
  | nil => cases ha
  | @cons a b as bs hab _ ih =>
    rcases List.mem_cons.mp ha with rfl | ha
    · exact ⟨b, List.mem_cons_self, hab⟩
    · obtain ⟨b', hb, related⟩ := ih ha
      exact ⟨b', List.mem_cons_of_mem b hb, related⟩

theorem exists_of_mem_right (h : List.Forall₂ R as bs) {b : β} (hb : b ∈ bs) : ∃ a ∈ as, R a b :=
  exists_of_mem_left h.flip hb

end Forall₂

/-! ## Writing -/

/-- What can be read off a report: the cpus in ascending order, under ids that are words. -/
structure WellFormed (d : Stat) : Prop where
  ascending : d.perCpu.Ascending
  fits : ∀ id ∈ d.perCpu.keys, id < Numeral.wordLimit

/-- What the lines of a report are about, and the counts on them. -/
def records (d : Stat) : List (Subject × List Counter) :=
  (.allCpus, d.jiffies.counts) ::
    d.perCpu.entries.map (fun (id, j) => (.oneCpu id, j.counts)) ++ [(.bootTime, [d.bootTime])]

def Subject.key : Subject → List Char
  | .allCpus => "cpu".toList
  | .oneCpu id => "cpu".toList ++ Numeral.digits id
  | .bootTime => "btime".toList
  | .other => []

/-- The line of a record as the kernel writes it, with one blank in front of each number. -/
def recordLine (r : Subject × List Counter) : List Char :=
  joinWith ' ' (r.1.key :: r.2.map Counter.chars)

def reportLines (d : Stat) : List (List Char) :=
  d.records.map recordLine

/-- Whether a line has the words of a record, with whatever blanks between and around them. -/
def IsWrittenIn (r : Subject × List Counter) (line : List Char) : Prop :=
  '\n' ∉ line ∧ ∃ tokens, Tells line r.1 tokens ∧ List.Forall₂ IsCount tokens r.2

theorem mem_records_allCpus : (.allCpus, counts) ∈ d.records ↔ counts = d.jiffies.counts := by
  simp [records]

theorem mem_records_oneCpu : (.oneCpu id, counts) ∈ d.records ↔
    ∃ j, (id, j) ∈ d.perCpu.entries ∧ j.counts = counts := by
  simp [records]

theorem mem_records_bootTime : (.bootTime, counts) ∈ d.records ↔ counts = [d.bootTime] := by
  simp [records]

theorem not_mem_records_other : (.other, counts) ∉ d.records := by
  simp [records]

theorem isKey_key (h : (x, counts) ∈ d.records)
    (fits : ∀ id ∈ d.perCpu.keys, id < Numeral.wordLimit) :
    IsKey x.key x := by
  cases x with
  | allCpus => exact .allCpus
  | oneCpu id =>
    obtain ⟨j, member, -⟩ := mem_records_oneCpu.mp h
    have small : id < Numeral.wordLimit := fits id (List.mem_map_of_mem member)
    exact .oneCpu (Numeral.word?_eq_some_iff.mp (Numeral.word?_digits small)).1 small
  | bootTime => exact .bootTime
  | other => exact absurd h not_mem_records_other

theorem IsKey.solid (h : IsKey first x) : first ≠ [] ∧ ∀ c ∈ first, isBlank c = false := by
  cases h with
  | allCpus => simp [isBlank]
  | bootTime => simp [isBlank]
  | oneCpu denotes =>
    refine ⟨by simp, fun c hc => ?_⟩
    rcases List.mem_append.mp hc with hc | hc
    · have plain : ∀ c ∈ "cpu".toList, isBlank c = false := by simp [isBlank]
      exact plain c hc
    · exact denotes.solid c hc

theorem forall₂_isCount_chars (counts : List Counter) :
    List.Forall₂ IsCount (counts.map Counter.chars) counts := by
  induction counts with
  | nil => exact .nil
  | cons c counts ih => exact .cons (read?_eq_some_iff.mp c.read?_chars) ih

/-- Words that are joined by blanks make a line of them. -/
theorem isWrittenIn_joinWith (about : IsKey first x)
    (numbers : List.Forall₂ IsCount tokens counts) :
    IsWrittenIn (x, counts) (joinWith ' ' (first :: tokens)) := by
  have solid : ∀ w ∈ first :: tokens, w ≠ [] ∧ ∀ c ∈ w, isBlank c = false := by
    refine List.forall_mem_cons.mpr ⟨about.solid, fun w hw => ?_⟩
    obtain ⟨c, -, count⟩ := exists_of_mem_left numbers hw
    exact ⟨count.ne_nil, count.solid⟩
  refine ⟨fun newline => ?_, tokens, ⟨first, words_joinWith solid, about⟩, numbers⟩
  rcases mem_joinWith newline with blank | ⟨w, hw, inside⟩
  · cases blank
  · exact absurd ((solid w hw).2 _ inside) (by decide)

theorem isWrittenIn_reportLines (fits : ∀ id ∈ d.perCpu.keys, id < Numeral.wordLimit) :
    List.Forall₂ IsWrittenIn d.records d.reportLines := by
  rw [reportLines, List.forall₂_map_right_iff, List.forall₂_same]
  exact fun (x, counts) h => isWrittenIn_joinWith (isKey_key h fits) (forall₂_isCount_chars counts)

/-! ## Reading -/

/-- The lines about something are those of the records, and each record has one. -/
structure Covers (d : Stat) (ls : List (List Char)) : Prop where
  told : ∀ line ∈ ls, ∀ x tokens, Tells line x tokens →
    ∃ counts, (x, counts) ∈ d.records ∧ List.Forall₂ IsCount tokens counts
  found : ∀ x counts, (x, counts) ∈ d.records →
    ∃ line ∈ ls, ∃ tokens, Tells line x tokens ∧ List.Forall₂ IsCount tokens counts

theorem Tells.congr {line' : List Char} (h : Tells line x tokens)
    (same : words line' = words line) :
    Tells line' x tokens := by
  obtain ⟨first, split, about⟩ := h
  exact ⟨first, same.trans split, about⟩

theorem Tells.words_ne_nil (h : Tells line x tokens) : words line ≠ [] := by
  obtain ⟨first, split, -⟩ := h
  rw [split]
  exact List.cons_ne_nil first tokens

theorem covers_of_isWrittenIn (written : List.Forall₂ IsWrittenIn d.records report)
    (other : ∀ line ∈ noise, '\n' ∉ line ∧ ∀ x tokens, ¬Tells line x tokens)
    (order : ls.Perm (report ++ noise)) : Covers d (lines (joinWith '\n' ls)) := by
  have whole : ∀ line ∈ ls, '\n' ∉ line := by
    intro line hl
    rcases List.mem_append.mp (order.mem_iff.mp hl) with hl | hl
    · obtain ⟨r, -, inside⟩ := exists_of_mem_right written hl
      exact inside.1
    · exact (other line hl).1
  have nonempty : ls ≠ [] := by
    rintro rfl
    have empty : report = [] := (List.append_eq_nil_iff.mp order.nil_eq.symm).1
    rw [empty] at written
    cases written
  rw [lines_joinWith nonempty whole]
  constructor
  · intro line hl x tokens said
    obtain ⟨l, hl, same⟩ := exists_words_eq_of_mem_linesOf hl
    have said := said.congr same.symm
    rcases List.mem_append.mp (order.mem_iff.mp hl) with hl | hl
    · obtain ⟨⟨x', counts⟩, hr, -, tokens', said', numbers⟩ := exists_of_mem_right written hl
      obtain ⟨rfl, rfl⟩ := said.unique said'
      exact ⟨counts, hr, numbers⟩
    · exact absurd said ((other l hl).2 x tokens)
  · intro x counts hr
    obtain ⟨l, hl, -, tokens, said, numbers⟩ := exists_of_mem_left written hr
    have hl : l ∈ ls := order.mem_iff.mpr (List.mem_append_left noise hl)
    obtain ⟨line, hline, same⟩ := exists_mem_linesOf_words_eq hl said.words_ne_nil
    exact ⟨line, hline, tokens, said.congr same, numbers⟩

theorem ofList_counts (j : Jiffies) : Jiffies.ofList j.counts = j := by
  obtain ⟨counts, length⟩ := j
  have all : (counts ++ List.replicate 10 Counter.zero).take 10 = counts := List.take_left' length
  simp only [Jiffies.ofList, all]

/-- A line with all ten counts of a record is a line of that record. -/
theorem recordOf_of_forall₂ (said : Tells line (.oneCpu id) tokens)
    (numbers : List.Forall₂ IsCount tokens j.counts) : RecordOf id line j := by
  have ten : tokens.length = 10 := numbers.length_eq.trans j.length_counts
  refine ⟨tokens, j.counts, said, ?_, (ofList_counts j).symm⟩
  rwa [List.take_of_length_le (Nat.le_of_eq ten)]

namespace Covers

theorem sound (h : Covers d ls) : ∀ line ∈ ls, Sound line := by
  intro line hl
  constructor
  · intro tokens counts token ht
    obtain ⟨x, said⟩ := counts.exists_tells
    obtain ⟨counts, -, numbers⟩ := h.told line hl x tokens said
    obtain ⟨c, -, count⟩ := exists_of_mem_left numbers (List.mem_of_mem_take ht)
    exact ⟨c, count⟩
  · intro tokens said
    obtain ⟨counts, hr, numbers⟩ := h.told line hl _ tokens said
    obtain rfl := mem_records_bootTime.mp hr
    obtain _ | ⟨count, _ | _⟩ := numbers
    exact ⟨_, [], d.bootTime, rfl, count⟩

theorem bootTime (h : Covers d ls) : Latest BootsAt ls d.bootTime := by
  apply Latest.of_forall
  · obtain ⟨line, hl, tokens, said, numbers⟩ := h.found _ _ (mem_records_bootTime.mpr rfl)
    obtain _ | ⟨count, _ | _⟩ := numbers
    exact ⟨line, hl, _, [], said, count⟩
  · rintro line hl c ⟨token, rest, said, count⟩
    obtain ⟨counts, hr, numbers⟩ := h.told line hl _ _ said
    obtain rfl := mem_records_bootTime.mp hr
    obtain _ | ⟨count', -⟩ := numbers
    exact count.unique count'

theorem slots (h : Covers d ls) (i : Fin 10) : Latest (CountAt i) ls (d.jiffies.slot i) := by
  apply Latest.of_forall
  · obtain ⟨line, hl, tokens, said, numbers⟩ := h.found _ _ (mem_records_allCpus.mpr rfl)
    have inside : i.val < d.jiffies.counts.length := by
      rw [d.jiffies.length_counts]
      exact i.isLt
    have inside' : i.val < tokens.length := by rwa [numbers.length_eq]
    exact ⟨line, hl, tokens, _, said, List.getElem?_eq_getElem inside', numbers.get inside' inside⟩
  · rintro line hl c ⟨tokens, token, said, found, count⟩
    obtain ⟨counts, hr, numbers⟩ := h.told line hl _ _ said
    obtain rfl := mem_records_allCpus.mp hr
    obtain ⟨inside, rfl⟩ := List.getElem?_eq_some_iff.mp found
    exact count.unique (numbers.get inside (numbers.length_eq ▸ inside))

theorem mem_entries (h : Covers d ls) (hl : line ∈ ls) (record : RecordOf id line j) :
    (id, j) ∈ d.perCpu.entries := by
  have ⟨tokens, _, said, _, _⟩ := record
  obtain ⟨counts, hr, numbers⟩ := h.told line hl _ tokens said
  obtain ⟨j', member, rfl⟩ := mem_records_oneCpu.mp hr
  rwa [record.unique (recordOf_of_forall₂ said numbers)]

theorem records (h : Covers d ls) (ascending : d.perCpu.Ascending) (id : Nat) (j : Jiffies) :
    d.perCpu.get? id = some j ↔ Latest (RecordOf id) ls j := by
  constructor
  · intro held
    have member := ascending.get?_eq_some_iff.mp held
    apply Latest.of_forall
    · obtain ⟨line, hl, tokens, said, numbers⟩ :=
        h.found _ _ (mem_records_oneCpu.mpr ⟨j, member, rfl⟩)
      exact ⟨line, hl, recordOf_of_forall₂ said numbers⟩
    · intro line hl j' record
      have held' := ascending.get?_eq_some_iff.mpr (h.mem_entries hl record)
      exact Option.some.inj (held'.symm.trans held)
  · intro latest
    obtain ⟨line, hl, record⟩ := latest.exists_mem
    exact ascending.get?_eq_some_iff.mpr (h.mem_entries hl record)

end Covers

theorem Covers.describes (h : Covers d ls) (ascending : d.perCpu.Ascending) : Describes d ls where
  bootTime := h.bootTime
  counts i := .inl (h.slots i)
  records := h.records ascending
  ascending := ascending

/-! ## Round trip -/

theorem parse_of_isWrittenIn (booted : d.bootTime ≠ Counter.zero) (ascending : d.perCpu.Ascending)
    (written : List.Forall₂ IsWrittenIn d.records report)
    (other : ∀ line ∈ noise, '\n' ∉ line ∧ ∀ x tokens, ¬Tells line x tokens)
    (order : ls.Perm (report ++ noise)) (known : Stat) :
    parse known (String.ofList (joinWith '\n' ls)) = .ok d := by
  have covers := covers_of_isWrittenIn written other order
  rw [parse_eq_ok_iff, String.toList_ofList]
  exact ⟨covers.sound, covers.describes ascending, booted⟩

/-- The lines of a report, in any order and with any other lines among them, are read as what they
were written for, whatever was known before. The lines that `reportLines` writes are such lines. -/
theorem parse_written (booted : d.bootTime ≠ Counter.zero) (formed : WellFormed d) :
    List.Forall₂ IsWrittenIn d.records d.reportLines ∧
    ∀ report noise ls, List.Forall₂ IsWrittenIn d.records report →
      (∀ line ∈ noise, '\n' ∉ line ∧ ∀ x tokens, ¬Tells line x tokens) →
      ls.Perm (report ++ noise) → ∀ known, parse known (String.ofList (joinWith '\n' ls)) = .ok d :=
  ⟨isWrittenIn_reportLines formed.fits, fun _ _ _ written other order =>
    parse_of_isWrittenIn booted formed.ascending written other order⟩

def twoCores : Stat where
  jiffies := Jiffies.ofList [Counter.clamp (2 ^ 64 - 1), Counter.clamp 2]
  bootTime := Counter.clamp 1700000000
  perCpu := ⟨[(0, Jiffies.ofList [Counter.clamp 1]), (17, Jiffies.zero)]⟩

/-- The lines of two cpus in no order, between lines of other kinds and an empty one. -/
def twoCoresLines : List String :=
  ["cpufreq 8", "btime 1700000000", "cpu17 0 0 0 0 0 0 0 0 0 0", "intr 5 x",
    "cpu0 1 0 0 0 0 0 0 0 0 0", "", "cpu 18446744073709551615 2 0 0 0 0 0 0 0 0", ""]

theorem parse_written_twoCores :
    twoCores.bootTime ≠ Counter.zero ∧ WellFormed twoCores ∧
      parse .empty (String.ofList (joinWith '\n' (twoCoresLines.map String.toList))) =
        .ok twoCores := by
  have booted : twoCores.bootTime ≠ Counter.zero := by decide
  have formed : WellFormed twoCores := ⟨by decide, by decide⟩
  obtain ⟨written, read⟩ := parse_written booted formed
  have report : twoCores.reportLines = ["cpu 18446744073709551615 2 0 0 0 0 0 0 0 0".toList,
      "cpu0 1 0 0 0 0 0 0 0 0 0".toList, "cpu17 0 0 0 0 0 0 0 0 0 0".toList,
      "btime 1700000000".toList] := by
    decide +kernel
  rw [report] at written
  have other : ∀ line ∈ ["cpufreq 8".toList, "intr 5 x".toList, [], []],
      '\n' ∉ line ∧ ∀ x tokens, ¬Tells line x tokens := by
    simp only [forall_not_tells_iff]
    decide
  exact ⟨booted, formed, read _ _ _ written other (by decide) _⟩

end HostMonitor.Stat
