import HostMonitor.File.Tree
import HostMonitor.Proofs.Latest
import HostMonitor.Proofs.Memory.Reading
import Mathlib.Data.List.Forall2

/-!
# Counters of a report of memory

Each line with a colon tells the counter that is named in front of it: the number behind the colon
times the unit behind that, as far as it fits. Every counter that a line names is known, each once,
as the last line with its name tells it, and nothing of what was known before a report is left.
-/

namespace HostMonitor

namespace Text

/-- Only a letter and its small form have that capital. -/
theorem toUpper_eq_iff {c u : Char} (capital : 'A'.toNat ≤ u.toNat ∧ u.toNat ≤ 'Z'.toNat) :
    c.toUpper = u ↔ c = u ∨ c = u.toLower := by
  have codes : 'A'.val = 65 ∧ 'Z'.val = 90 ∧ 'a'.val = 97 ∧ 'z'.val = 122 := by decide
  have size := c.val.toNat_lt
  change 65 ≤ u.val.toNat ∧ u.val.toNat ≤ 90 at capital
  delta Char.toUpper Char.toLower
  simp only [Char.ext_iff, codes, UInt32.le_iff_toNat_le, ← UInt32.toNat_inj,
    apply_dite Char.val, ge_iff_le]
  -- One case for each way in which the two characters can have another case.
  split <;> split <;> simp_all <;> omega

theorem asciiUpper_eq_iff {s t : List Char}
    (capitals : ∀ u ∈ t, 'A'.toNat ≤ u.toNat ∧ u.toNat ≤ 'Z'.toNat) :
    asciiUpper s = t ↔ List.Forall₂ (fun c u => c = u ∨ c = u.toLower) s t := by
  induction t generalizing s with
  | nil => simp [asciiUpper]
  | cons u t ih =>
    obtain ⟨first, rest⟩ := List.forall_mem_cons.mp capitals
    cases s with
    | nil => simp [asciiUpper]
    | cons c s =>
      rw [List.forall₂_cons, ← toUpper_eq_iff first, ← ih rest]
      simp [asciiUpper]

end Text

namespace Memory

open Text

/-! ## What a line tells -/

/-- A word stands for the number that it denotes if that fits into 64 bits. Any other word stands
for zero, and so does a word that is missing. -/
inductive IsNumber : Option (List Char) → Nat → Prop where
  | numeral {word n} (denotes : Numeral.Denotes word n) (fits : n < 2 ^ 64) : IsNumber (some word) n
  | other {word} (none : ∀ n < 2 ^ 64, ¬Numeral.Denotes word n) : IsNumber (some word) 0
  | missing : IsNumber none 0

/-- The units of memory and the bytes in each. -/
def units : List (String × Nat) :=
  [("KB", 10 ^ 3), ("MB", 10 ^ 6), ("GB", 10 ^ 9), ("TB", 10 ^ 12)]

/-- Whether a word is that unit, with each letter in either case. -/
def Spells (word : List Char) (unit : String) : Prop :=
  List.Forall₂ (fun c u => c = u ∨ c = u.toLower) word unit.toList

/-- A word stands for the bytes in its unit. Any other word stands for one byte, and so does a word
that is missing. -/
inductive IsUnit : Option (List Char) → Nat → Prop where
  | unit {word unit n} (known : (unit, n) ∈ units) (spelled : Spells word unit) :
    IsUnit (some word) n
  | other {word} (unknown : ∀ e ∈ units, ¬Spells word e.1) : IsUnit (some word) 1
  | missing : IsUnit none 1

/-- The first word times the second, or the largest counter if that does not fit. -/
def Amounts (rest : List Char) (c : Counter) : Prop :=
  ∃ v m, IsNumber (words rest)[0]? v ∧ IsUnit (words rest)[1]? m ∧
    c.value = min (2 ^ 64 - 1) (v * m)

/-- The line is about the counter of that name, and this is the value behind the colon. -/
def Reports (name : String) (line : List Char) (c : Counter) : Prop :=
  ∃ rest, Names line name rest ∧ Amounts rest c

variable {line rest word : List Char} {name unit : String} {c : Counter} {n : Nat}

theorem isNumber_iff (word : Option (List Char)) :
    IsNumber word n ↔ n = ((word.bind Counter.read?).getD Counter.zero).value := by
  cases word with
  | none =>
    refine ⟨fun h => ?_, fun h => h ▸ .missing⟩
    cases h
    rfl
  | some word =>
    cases read : Counter.read? word with
    | some c =>
      have denotes := Counter.read?_eq_some_iff.mp read
      simp only [Option.bind_some, read, Option.getD_some]
      refine ⟨fun h => ?_, fun h => h ▸ .numeral denotes c.value_lt⟩
      cases h with
      | numeral denotes' fits => exact denotes'.unique denotes
      | other none => exact absurd denotes (none _ c.value_lt)
    | none =>
      have unread := Counter.read?_eq_none_iff.mp read
      simp only [Option.bind_some, read, Option.getD_none, Counter.value_zero]
      refine ⟨fun h => ?_, fun h => h ▸ .other fun n fits => unread ⟨n, fits⟩⟩
      cases h with
      | numeral denotes fits => exact absurd denotes (unread ⟨n, fits⟩)
      | other none => rfl

theorem capitals_of_mem_units :
    ∀ e ∈ units, ∀ u ∈ e.1.toList, 'A'.toNat ≤ u.toNat ∧ u.toNat ≤ 'Z'.toNat := by
  simp [units]

theorem spells_iff {e : String × Nat} (known : e ∈ units) :
    Spells word e.1 ↔ asciiUpper word = e.1.toList :=
  (asciiUpper_eq_iff (capitals_of_mem_units e known)).symm

theorem bytesPerUnit_of_spells (known : (unit, n) ∈ units) (spelled : Spells word unit) :
    bytesPerUnit word = n := by
  have upper : asciiUpper word = unit.toList := (spells_iff known).mp spelled
  simp only [bytesPerUnit, upper]
  simp only [units, List.mem_cons, Prod.mk.injEq, List.not_mem_nil, or_false] at known
  rcases known with ⟨rfl, rfl⟩ | ⟨rfl, rfl⟩ | ⟨rfl, rfl⟩ | ⟨rfl, rfl⟩ <;> rfl

theorem bytesPerUnit_of_unknown (unknown : ∀ e ∈ units, ¬Spells word e.1) :
    bytesPerUnit word = 1 := by
  have other : ∀ e ∈ units, asciiUpper word ≠ e.1.toList := fun e known =>
    mt (spells_iff known).mpr (unknown e known)
  simp only [units, List.forall_mem_cons] at other
  obtain ⟨kb, mb, gb, tb, -⟩ := other
  simp only [bytesPerUnit, if_neg kb, if_neg mb, if_neg gb, if_neg tb]

theorem isUnit_iff (word : Option (List Char)) :
    IsUnit word n ↔ n = bytesPerUnit (word.getD []) := by
  constructor
  · rintro (⟨known, spelled⟩ | unknown | _)
    · exact (bytesPerUnit_of_spells known spelled).symm
    · exact (bytesPerUnit_of_unknown unknown).symm
    · rfl
  · rintro rfl
    cases word with
    | none => exact .missing
    | some word =>
      by_cases spelled : ∃ e ∈ units, Spells word e.1
      · obtain ⟨⟨unit, n⟩, known, spelled⟩ := spelled
        exact .unit (bytesPerUnit_of_spells known spelled ▸ known) spelled
      · have unknown : ∀ e ∈ units, ¬Spells word e.1 := by simpa using spelled
        rw [Option.getD_some, bytesPerUnit_of_unknown unknown]
        exact .other unknown

theorem amounts_iff : Amounts rest c ↔ c = valueOf (words rest) := by
  simp only [Amounts, isNumber_iff, isUnit_iff]
  cases words rest with
  | nil => simp [valueOf, Counter.ext_iff]
  | cons word more => cases more <;> simp [valueOf, Counter.ext_iff, min_comm]

theorem reports_iff : Reports name line c ↔ parseLine? line = some (name, c) := by
  simp only [Reports, amounts_iff]
  constructor
  · rintro ⟨rest, names, rfl⟩
    exact parseLine?_of_names names
  · intro parsed
    obtain ⟨rest, names⟩ := exists_names_of_parseLine? parsed
    rw [parseLine?_of_names names] at parsed
    exact ⟨rest, names, (Prod.mk.inj (Option.some.inj parsed)).2.symm⟩

/-! ## What a report tells -/

theorem ascending_learn {known : Assoc String Counter} (h : known.Ascending) (line : List Char) :
    (learn known line).Ascending := by
  unfold learn
  split
  · exact h.insert _ _
  · exact h

theorem ascending_refill (known : Assoc String Counter) (content : String) :
    (refill known content).Ascending := by
  suffices ∀ (ls : List (List Char)) (m : Assoc String Counter), m.Ascending →
      (ls.foldl learn m).Ascending from this _ _ List.Pairwise.nil
  intro ls
  induction ls with
  | nil => exact fun m h => h
  | cons line ls ih => exact fun m h => ih _ (ascending_learn h line)

theorem heeds_learn (name : String) (ls : List (List Char)) :
    Heeds (fun line o => ∃ c, Reports name line c ∧ o = some c) ls learn (·.get? name) where
  heard := by
    rintro m line - _ ⟨c, told, rfl⟩
    simp [learn, reports_iff.mp told, Assoc.get?_insert]
  unheard := by
    intro m line _ quiet
    unfold learn
    split
    · next name' c parsed =>
      have other : name' ≠ name := by
        rintro rfl
        exact quiet _ ⟨c, reports_iff.mpr parsed, rfl⟩
      simp [Assoc.get?_insert, other]
    · rfl

theorem get?_refill_eq_some_iff {known : Assoc String Counter} {content : String} :
    (refill known content).get? name = some c ↔ Latest (Reports name) (lines content.toList) c := by
  rw [refill, (heeds_learn name _).eq_some_iff _ rfl]
  intro line c c' told told'
  have same := (reports_iff.mp told).symm.trans (reports_iff.mp told')
  exact (Prod.mk.inj (Option.some.inj same)).2

theorem exists_reports (names : Names line name rest) : ∃ c, Reports name line c :=
  ⟨valueOf (words rest), rest, names, amounts_iff.mpr rfl⟩

/-- A name is known exactly if some line is about it. -/
theorem mem_keys_refill_iff {known : Assoc String Counter} {content : String} :
    name ∈ (refill known content).keys ↔
      ∃ line ∈ lines content.toList, ∃ rest, Names line name rest := by
  rw [← Assoc.contains_iff, Assoc.contains, Option.isSome_iff_exists]
  simp only [get?_refill_eq_some_iff]
  constructor
  · rintro ⟨c, latest⟩
    obtain ⟨line, hline, rest, names, -⟩ := latest.exists_mem
    exact ⟨line, hline, rest, names⟩
  · rintro ⟨line, hline, rest, names⟩
    rcases exists_latest_or_silent (Reports name) (lines content.toList) with latest | silent
    · exact latest
    · obtain ⟨c, told⟩ := exists_reports names
      exact absurd told (silent line hline c)

/-- A report is understood whatever it says and whatever was known before. Each name that is in
front of the first colon of some line is known then, once, and its counter is the one on the last of
those lines. -/
theorem refill_tells (known : Assoc String Counter) (content : String) :
    (refill known content).Ascending ∧
      (∀ name, name ∈ (refill known content).keys ↔
        ∃ line ∈ lines content.toList, ∃ rest, Names line name rest) ∧
      (∀ name c, (name, c) ∈ (refill known content).entries ↔
        Latest (Reports name) (lines content.toList) c) ∧
      ∀ (s : MemoryState) (files : Files), files.read s.path = .ok content →
        s.update files = ⟨.ok (), { s with counters := refill known content }⟩ := by
  refine ⟨ascending_refill known content, fun name => mem_keys_refill_iff, fun name c => ?_, ?_⟩
  · rw [← (ascending_refill known content).get?_eq_some_iff, get?_refill_eq_some_iff]
  · exact fun s files found => MemoryState.update_of_read found

/-- Blanks and colons in odd places, a value that just fits, two that do not, and a unit that is
stuck to its value. The first name comes again in the last line. -/
def oddReport : String :=
  "Mem Free : 7 kB\r\n---\n: 5\nGlued:3kB\nInner:colon: 2 mB\nFull: 18446744073709551 kb\n" ++
    "Over: 18446744073709552 KB\nHuge: 18446744073709551616\nNone:\n Mem Free\t:+2 Gb more"

def oddCounters : List (String × Counter) :=
  [("", .clamp 5), ("Full", .clamp 18446744073709551000), ("Glued", .zero), ("Huge", .zero),
    ("Inner", .zero), ("Mem Free", .clamp (2 * 10 ^ 9)), ("None", .zero), ("Over", .clamp (2 ^ 64))]

theorem refill_oddReport :
    let s : MemoryState := ⟨MemoryState.defaultPath, Assoc.ofList [("Old", .clamp 1)]⟩
    let files := (FileTree.empty.add s.path oddReport).files
    files.read s.path = .ok oddReport ∧ s.update files = ⟨.ok (), ⟨s.path, ⟨oddCounters⟩⟩⟩ ∧
      ∀ e ∈ oddCounters, Latest (Reports e.1) (lines oddReport.toList) e.2 := by
  intro s files
  have found : files.read s.path = .ok oddReport := by decide +kernel
  have counters : refill s.counters oddReport = ⟨oddCounters⟩ := by decide +kernel
  obtain ⟨-, -, latest, updates⟩ := refill_tells s.counters oddReport
  refine ⟨found, ?_, fun e he => (latest e.1 e.2).mp ?_⟩
  · simpa only [counters] using updates s files found
  · rwa [counters]

end Memory

end HostMonitor
