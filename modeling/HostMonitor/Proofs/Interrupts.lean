import HostMonitor.Cpu.Interrupts
import HostMonitor.Proofs.CpuList.Members
import HostMonitor.Proofs.Text.Numerals
import HostMonitor.Proofs.Text.Words
import Mathlib.Data.List.DropRight

/-!
# Which cpus serve an interface

A table with a header has one column for each cpu that is online, and the header gives the numbers
of these cpus. The cpus that serve an interface are found by the positions of the columns, so they
are the right ones as long as no number is left out before the last column that counts.
-/

namespace HostMonitor.Interrupts

open Text

/-! ## Tables -/

/-- What a row says: the name of an interrupt, how often each column has served it, and the words
that describe the devices behind it. -/
structure Row where
  label : List Char
  counts : List Nat
  description : List (List Char)

/-- Whether a token is written for a count, which is a word of 64 bits. -/
def IsCount (token : List Char) (count : Nat) : Prop :=
  Numeral.Denotes token count ∧ count < Numeral.wordLimit

/-- Whether `line` is a way to write the row. -/
def Row.IsWrittenIn (row : Row) (line : List Char) : Prop :=
  ∃ tokens, words line = row.label :: (tokens ++ row.description) ∧
    List.Forall₂ IsCount tokens row.counts

/-- Whether the description of a row begins where it does in a table with so many columns: after one
count for each column, or before that with a word that is no count. -/
structure Row.IsSplitFor (row : Row) (columns : Option Nat) : Prop where
  fits : ∀ n ∈ columns, row.counts.length ≤ n
  stops : columns = some row.counts.length ∨
    ∀ token ∈ row.description.head?, ∀ count, ¬IsCount token count

/-- Whether a word of a description names an interface: alone or with a queue after a dash, and with
any number of commas at its end. -/
def Names (token iface : List Char) : Prop :=
  ∃ name commas, token = name ++ List.replicate commas ',' ∧ name.getLast? ≠ some ',' ∧
    (name = iface ∨ ∃ queue, name = iface ++ '-' :: queue)

def Row.Names (row : Row) (iface : String) : Prop :=
  ∃ token ∈ row.description, Interrupts.Names token iface.toList

/-- A table with the numbers of the cpus that have a column. Every row has a count in each of them,
and its description holds no numbers. -/
structure Table where
  cpus : List Nat
  rows : List Row
  ascending : cpus.Pairwise (· < ·)
  counted : ∀ row ∈ rows, row.counts.length = cpus.length
  described : ∀ row ∈ rows, ∀ token ∈ row.description, ∀ n, ¬Numeral.Denotes token n

namespace Table

def heading (cpu : Nat) : List Char :=
  "CPU".toList ++ Numeral.digits cpu

/-- Whether `content` is a way to write the table. -/
def IsWrittenIn (t : Table) (content : String) : Prop :=
  ∃ header rest, lines content.toList = header :: rest ∧ words header = t.cpus.map heading ∧
    List.Forall₂ Row.IsWrittenIn t.rows rest

/-- Whether the column at a position has served an interrupt of the interface. -/
def Counts (t : Table) (iface : String) (position : Nat) : Prop :=
  ∃ row ∈ t.rows, row.Names iface ∧ ∃ count, row.counts[position]? = some count ∧ 0 < count

/-- Whether a cpu has served an interrupt of the interface, by the number over its column. -/
def Serves (t : Table) (iface : String) (cpu : Nat) : Prop :=
  ∃ position, t.cpus[position]? = some cpu ∧ t.Counts iface position

end Table

variable {content iface : String} {line token name : List Char} {row : Row}
  {tokens description : List (List Char)} {counts : List Nat} {columns : Option Nat}
  {position : Nat}

/-! ## Reading a row -/

theorem word?_eq_some_iff {count : Nat} : Numeral.word? token = some count ↔ IsCount token count :=
  Numeral.word?_eq_some_iff

theorem splitCounts_of_stops
    (stops : columns = some 0 ∨ ∀ token ∈ description.head?, ∀ count, ¬IsCount token count) :
    splitCounts columns description = ([], description) := by
  cases description with
  | nil => rfl
  | cons token rest =>
    have uncounted : columns = some 0 ∨ Numeral.word? token = none := by
      simpa [Option.eq_none_iff_forall_ne_some, word?_eq_some_iff] using stops
    unfold splitCounts
    split <;> simp_all

theorem splitCounts_cons {count : Nat} {rest : List (List Char)} (h : IsCount token count)
    (room : columns ≠ some 0) :
    splitCounts columns (token :: rest) =
      (count :: (splitCounts (columns.map (· - 1)) rest).1,
        (splitCounts (columns.map (· - 1)) rest).2) := by
  have word : Numeral.word? token = some count := word?_eq_some_iff.mpr h
  conv_lhs => unfold splitCounts
  split
  · exact absurd rfl room
  · next unread => simp [word] at unread
  · next read =>
    rw [word] at read
    cases read
    rfl

theorem splitCounts_append (read : List.Forall₂ IsCount tokens counts)
    (fits : ∀ n ∈ columns, counts.length ≤ n)
    (stops : columns = some counts.length ∨
      ∀ token ∈ description.head?, ∀ count, ¬IsCount token count) :
    splitCounts columns (tokens ++ description) = (counts, description) := by
  induction read generalizing columns with
  | nil => exact splitCounts_of_stops stops
  | @cons token count tokens counts first rest ih =>
    have here : columns ≠ some 0 := by
      rintro rfl
      simpa using fits 0 rfl
    have more : ∀ n ∈ columns.map (· - 1), counts.length ≤ n := by
      intro n hn
      obtain ⟨m, hm, rfl⟩ := Option.mem_map.mp hn
      have bound := fits m hm
      rw [List.length_cons] at bound
      omega
    rw [List.cons_append, splitCounts_cons first here,
      ih more (stops.imp_left (by simp +contextual))]

theorem mem_positionsFrom {counts : List Nat} {first : Nat} :
    position ∈ positionsFrom first counts ↔
      ∃ i count, counts[i]? = some count ∧ 0 < count ∧ position = first + i := by
  induction counts generalizing first with
  | nil => simp [positionsFrom]
  | cons count rest ih =>
    -- The first count has a position of its own, the others are one further on.
    have later : (∃ i n, (count :: rest)[i]? = some n ∧ 0 < n ∧ position = first + i) ↔
        0 < count ∧ position = first ∨
          ∃ i n, rest[i]? = some n ∧ 0 < n ∧ position = first + 1 + i := by
      rw [← Nat.or_exists_add_one]
      simp [Nat.add_assoc, Nat.add_comm 1]
    rw [later, ← ih, positionsFrom]
    split
    · next some => simp [some]
    · next none => simp [none]

/-! ## Names -/

theorem rdropWhile_commas (h : name.getLast? ≠ some ',') (commas : Nat) :
    (name ++ List.replicate commas ',').rdropWhile (· == ',') = name := by
  induction commas with
  | zero =>
    rw [List.replicate_zero, List.append_nil, List.rdropWhile_eq_self_iff]
    intro nonempty comma
    rw [List.getLast?_eq_some_getLast nonempty, eq_of_beq comma] at h
    exact h rfl
  | succ commas ih =>
    rw [List.replicate_succ', ← List.append_assoc, List.rdropWhile_concat_pos _ _ _ rfl, ih]

theorem exists_commas (token : List Char) :
    ∃ name commas, token = name ++ List.replicate commas ',' ∧ name.getLast? ≠ some ',' := by
  have commas : ∀ c ∈ token.rtakeWhile (· == ','), c = ',' := fun c hc =>
    eq_of_beq (List.mem_rtakeWhile_imp (p := (· == ',')) hc)
  refine ⟨token.rdropWhile (· == ','), (token.rtakeWhile (· == ',')).length, ?_, fun comma => ?_⟩
  · rw [← List.eq_replicate_of_mem commas, List.rdropWhile_append_rtakeWhile]
  · obtain ⟨before, split⟩ := List.getLast?_eq_some_iff.mp comma
    have again := List.rdropWhile_idempotent (· == ',') token
    rw [split, List.rdropWhile_concat_pos _ _ _ rfl] at again
    have shorter := (List.rdropWhile_prefix (· == ',') (l := before)).length_le
    rw [again] at shorter
    simp at shorter

theorem names_append_commas (h : name.getLast? ≠ some ',') (commas : Nat) {iface : List Char} :
    Names (name ++ List.replicate commas ',') iface ↔
      name = iface ∨ ∃ queue, name = iface ++ '-' :: queue := by
  constructor
  · rintro ⟨name', commas', split, last, named⟩
    have same : name = name' := by rw [← rdropWhile_commas h commas, split, rdropWhile_commas last]
    rwa [same]
  · exact fun named => ⟨name, commas, rfl, h, named⟩

theorem namesInterface_iff {iface : List Char} :
    namesInterface iface token = true ↔ Names token iface := by
  obtain ⟨name, commas, rfl, last⟩ := exists_commas token
  have bare : ((name ++ List.replicate commas ',').reverse.dropWhile (· == ',')).reverse = name :=
    rdropWhile_commas last commas
  unfold namesInterface
  dsimp only
  rw [bare, names_append_commas last, Bool.or_eq_true, decide_eq_true_eq]
  refine or_congr_right ?_
  split
  · next queue found => simp [dropHead?_eq_some_iff.mp found]
  · next other =>
    simp only [Bool.false_eq_true, false_iff, not_exists]
    exact fun queue split => other queue (dropHead?_eq_some_iff.mpr split)

/-! ## Reading a table -/

theorem mem_rowCpus_iff (written : row.IsWrittenIn line) (split : row.IsSplitFor columns) :
    position ∈ rowCpus columns iface.toList line ↔
      row.Names iface ∧ ∃ count, row.counts[position]? = some count ∧ 0 < count := by
  obtain ⟨tokens, said, read⟩ := written
  have named : (row.description.any (namesInterface iface.toList)) = true ↔ row.Names iface := by
    simp only [List.any_eq_true, namesInterface_iff, Row.Names]
  rw [rowCpus, said]
  dsimp only
  rw [splitCounts_append read split.fits split.stops]
  dsimp only
  split
  · next yes =>
    rw [mem_positionsFrom, ← named]
    simp [yes]
  · next no =>
    rw [named] at no
    simp [no]

theorem isHeader_iff {numbers : List Nat} (h : words line = numbers.map Table.heading) :
    isHeader line = true ↔ numbers ≠ [] := by
  cases numbers with
  | nil =>
    rw [isHeader, trimLeft_of_words_eq_nil h]
    decide
  | cons cpu rest =>
    obtain ⟨after, split⟩ := isPrefix_trimLeft_of_words h
    have head : dropHead? "CPU".toList (trimLeft line) = some (Numeral.digits cpu ++ after) := by
      rw [dropHead?_eq_some_iff, ← split, Table.heading, List.append_assoc]
    rw [isHeader, startsWith, head]
    simp

theorem mem_rows_iff {rows : List Row} {rest : List (List Char)}
    (written : List.Forall₂ Row.IsWrittenIn rows rest)
    (split : ∀ row ∈ rows, row.IsSplitFor columns) :
    position ∈ rest.flatMap (rowCpus columns iface.toList) ↔
      ∃ row ∈ rows, row.Names iface ∧ ∃ count, row.counts[position]? = some count ∧ 0 < count := by
  induction written with
  | nil => simp
  | cons first _ ih =>
    rw [List.forall_mem_cons] at split
    rw [List.flatMap_cons, List.mem_append, mem_rowCpus_iff first split.1, ih split.2]
    simp only [List.mem_cons, exists_eq_or_imp]

theorem Table.isSplitFor {t : Table} (h : row ∈ t.rows) (fits : ∀ n ∈ columns, t.cpus.length ≤ n) :
    row.IsSplitFor columns where
  fits := by rwa [t.counted row h]
  stops := .inr fun token first count read =>
    t.described row h token (List.mem_of_head? first) count read.1

/-- The answer is made of the positions of the columns that count. -/
theorem mem_servingCpus_iff {t : Table} (written : t.IsWrittenIn content) :
    position ∈ servingCpus content iface ↔ t.Counts iface position := by
  obtain ⟨header, rest, split, headed, rows⟩ := written
  rw [servingCpus, servingCpusOf, split, table]
  cases headless : isHeader header with
  | true =>
    have fits : ∀ n ∈ some (words header).length, t.cpus.length ≤ n := by simp [headed]
    rw [if_pos rfl]
    exact CpuList.mem_ascending.trans (mem_rows_iff rows fun _ h => t.isSplitFor h fits)
  | false =>
    -- Without columns the first line is blank, and taken for a row.
    have none : t.cpus = [] := by simpa [headless] using isHeader_iff headed
    have blank : rowCpus Option.none iface.toList header = [] := by
      rw [rowCpus, headed, none, List.map_nil]
    rw [if_neg Bool.false_ne_true]
    dsimp only
    rw [CpuList.mem_ascending, List.flatMap_cons, blank, List.nil_append]
    exact mem_rows_iff rows fun _ h => t.isSplitFor h nofun

/-! ## The numbers of the cpus -/

theorem Table.le_of_getElem? {t : Table} {cpu : Nat} (h : t.cpus[position]? = some cpu) :
    position ≤ cpu := by
  induction position generalizing cpu with
  | zero => exact Nat.zero_le cpu
  | succ position ih =>
    obtain ⟨before, hb⟩ : ∃ before, t.cpus[position]? = some before := by
      have inside := (List.getElem?_eq_some_iff.mp h).1
      exact ⟨t.cpus[position], List.getElem?_eq_getElem (by omega)⟩
    have step : before < cpu := by
      obtain ⟨hp, rfl⟩ := List.getElem?_eq_some_iff.mp h
      obtain ⟨hp', rfl⟩ := List.getElem?_eq_some_iff.mp hb
      exact List.pairwise_iff_getElem.mp t.ascending _ _ hp' hp (Nat.lt_succ_self position)
    have := ih hb
    omega

/-- Where the columns that count are numbered by themselves as a set, each of them bears its own
number. -/
theorem Table.number_eq_of_counts {t : Table}
    (same : ∀ cpu, t.Counts iface cpu → t.Serves iface cpu) (h : t.Counts iface position) :
    t.cpus[position]? = some position := by
  induction position using Nat.strongRecOn with
  | ind position ih =>
    obtain ⟨column, number, counts⟩ := same position h
    rcases (le_of_getElem? number).lt_or_eq with before | rfl
    · -- The column stands further left, so it bears its own number, which is another one.
      have own := ih column before counts
      rw [number, Option.some.injEq] at own
      omega
    · exact number

/-- The cpus that are found are the positions of the columns with a count for the interface, in
ascending order. They are the cpus that the header names exactly if every such column bears the
number of its position, so that no cpu is left out before it. -/
theorem servingCpus_numbered_iff {t : Table} (written : t.IsWrittenIn content) (iface : String) :
    (servingCpus content iface).Pairwise (· < ·) ∧
      (∀ position, position ∈ servingCpus content iface ↔ t.Counts iface position) ∧
      ((∀ cpu, cpu ∈ servingCpus content iface ↔ t.Serves iface cpu) ↔
        ∀ position, t.Counts iface position → t.cpus[position]? = some position) := by
  refine ⟨CpuList.pairwise_ascending _, fun position => mem_servingCpus_iff written, ?_, ?_⟩
  · intro named position counts
    refine t.number_eq_of_counts (fun cpu h => ?_) counts
    exact (named cpu).mp ((mem_servingCpus_iff written).mpr h)
  · intro numbered cpu
    rw [mem_servingCpus_iff written]
    constructor
    · exact fun counts => ⟨cpu, numbered cpu counts, counts⟩
    · rintro ⟨position, number, counts⟩
      have own := numbered position counts
      rw [number, Option.some.injEq] at own
      exact own ▸ counts

/-! ## A host whose third cpu is offline -/

def offlineRow : Row where
  label := "41:".toList
  counts := [0, 0, 7]
  description := ["edge".toList, "eth1-rx-0".toList]

def onlineRow : Row where
  label := "40:".toList
  counts := [3, 5, 0]
  description := ["edge".toList, "usb1,".toList, "eth0,".toList]

def offlineTable : Table where
  cpus := [0, 1, 3]
  rows := [onlineRow, offlineRow]
  ascending := by decide
  counted := by decide
  described := by
    have none : ∀ row ∈ [onlineRow, offlineRow], ∀ token ∈ row.description,
        Numeral.value? (Numeral.dropPlus token) = Option.none := by decide
    intro row hrow token htoken n denotes
    have some := Numeral.value?_dropPlus_eq_some_iff.mpr denotes
    rw [none row hrow token htoken] at some
    cases some

def offlineText : String :=
  "  CPU0 CPU1 CPU3\n 40:  3 5 0  edge usb1, eth0,\n 41:  0 0 7  edge eth1-rx-0\n"

theorem offlineTable_isWrittenIn : offlineTable.IsWrittenIn offlineText := by
  have online : onlineRow.IsWrittenIn " 40:  3 5 0  edge usb1, eth0,".toList := by
    refine ⟨["3".toList, "5".toList, "0".toList], by decide, ?_⟩
    exact .cons (word?_eq_some_iff.mp (by decide)) (.cons (word?_eq_some_iff.mp (by decide))
      (.cons (word?_eq_some_iff.mp (by decide)) .nil))
  have offline : offlineRow.IsWrittenIn " 41:  0 0 7  edge eth1-rx-0".toList := by
    refine ⟨["0".toList, "0".toList, "7".toList], by decide, ?_⟩
    exact .cons (word?_eq_some_iff.mp (by decide)) (.cons (word?_eq_some_iff.mp (by decide))
      (.cons (word?_eq_some_iff.mp (by decide)) .nil))
  exact ⟨"  CPU0 CPU1 CPU3".toList, _, by decide, by decide +kernel,
    .cons online (.cons offline .nil)⟩

/-- The interface that is served left of the gap is found at the right cpus. -/
theorem servingCpus_numbered_before_gap :
    offlineTable.IsWrittenIn offlineText ∧ servingCpus offlineText "eth0" = [0, 1] ∧
      ∀ cpu, cpu ∈ servingCpus offlineText "eth0" ↔ offlineTable.Serves "eth0" cpu := by
  have found : servingCpus offlineText "eth0" = [0, 1] :=
    CpuList.ascending_of_members (by decide) (by decide) (by decide)
  obtain ⟨-, positions, named⟩ := servingCpus_numbered_iff offlineTable_isWrittenIn "eth0"
  refine ⟨offlineTable_isWrittenIn, found, named.mpr fun position counts => ?_⟩
  have member := (positions position).mpr counts
  rw [found, List.mem_pair] at member
  rcases member with rfl | rfl <;> rfl

/-- The interface that cpu 3 serves is said to be served by cpu 2, which is offline. -/
theorem servingCpus_after_gap :
    offlineTable.IsWrittenIn offlineText ∧ servingCpus offlineText "eth1" = [2] ∧
      offlineTable.Serves "eth1" 3 ∧ ¬offlineTable.Serves "eth1" 2 := by
  have found : servingCpus offlineText "eth1" = [2] :=
    CpuList.ascending_of_members (by decide) (by decide) (by decide)
  refine ⟨offlineTable_isWrittenIn, found, ?_, ?_⟩
  · refine ⟨2, rfl, offlineRow, by simp [offlineTable], ?_, 7, rfl, by decide⟩
    exact ⟨"eth1-rx-0".toList, by simp [offlineRow], namesInterface_iff.mp (by decide)⟩
  · rintro ⟨position, number, -⟩
    have column : 2 ∈ offlineTable.cpus := List.mem_of_getElem? number
    exact absurd column (by decide)

end HostMonitor.Interrupts
