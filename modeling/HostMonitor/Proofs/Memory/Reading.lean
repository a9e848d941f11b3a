import HostMonitor.Memory.State
import HostMonitor.Proofs.Assoc
import HostMonitor.Proofs.Text.Numerals
import HostMonitor.Proofs.Text.Words
import Mathlib.Data.List.Induction

/-!
# Reading memory counters

A line is about the name between the blanks in front of its first colon. Of one name the last line
counts, so the numeral on the only line for a name settles the counter of that name, and no other
counter depends on it.
-/

namespace HostMonitor

open Text

/-! ## The last value under a key -/

namespace Assoc

variable {κ ν : Type} [DecidableEq κ] [LT κ] [DecidableLT κ]

theorem get?_foldl_insert (entries : List (κ × ν)) (m : Assoc κ ν) (k : κ) :
    (entries.foldl (fun m (k, v) => m.insert k v) m).get? k =
      ((entries.filter (·.1 = k)).getLast?.map (·.2)).or (m.get? k) := by
  -- By induction from the back: the last entry is put in last.
  induction entries using List.reverseRecOn with
  | nil => rfl
  | append_singleton entries e ih =>
    rw [List.foldl_append, List.foldl_cons, List.foldl_nil, get?_insert, ih, List.filter_append]
    by_cases same : e.1 = k
    · simp [same]
    · simp [same]

theorem get?_ofList (entries : List (κ × ν)) (k : κ) :
    (ofList entries).get? k = (entries.filter (·.1 = k)).getLast?.map (·.2) := by
  rw [ofList, get?_foldl_insert]
  exact Option.or_none

/-- The value of the only entry for a key. -/
theorem get?_ofList_of_single {before after : List (κ × ν)} {k : κ} (v : ν)
    (single : ∀ e ∈ before ++ after, e.1 ≠ k) :
    (ofList (before ++ (k, v) :: after)).get? k = some v := by
  have others : ∀ es : List (κ × ν), (∀ e ∈ es, e.1 ≠ k) → es.filter (·.1 = k) = [] := fun es h =>
    List.filter_eq_nil_iff.mpr fun e he => by simpa using h e he
  obtain ⟨front, back⟩ := List.forall_mem_append.mp single
  rw [get?_ofList, List.filter_append, List.filter_cons_of_pos (by simp), others before front,
    others after back]
  rfl

/-- Under any other key the value of an entry does not show. -/
theorem get?_ofList_congr (before after : List (κ × ν)) {k k' : κ} (v w : ν) (other : k ≠ k') :
    (ofList (before ++ (k, v) :: after)).get? k' =
      (ofList (before ++ (k, w) :: after)).get? k' := by
  rw [get?_ofList, get?_ofList, List.filter_append, List.filter_append,
    List.filter_cons_of_neg (by simpa using other), List.filter_cons_of_neg (by simpa using other)]

end Assoc

/-- Whatever the file says, it is understood, and all that was known before is gone. -/
theorem MemoryState.update_of_read {s : MemoryState} {files : Files} {content : String}
    (found : files.read s.path = .ok content) :
    s.update files = ⟨.ok (), ⟨s.path, Memory.parse content⟩⟩ := by
  rw [update, Files.sample, found]
  rfl

theorem MemoryState.update_of_unreadable {s : MemoryState} {files : Files} {e : FileError}
    (missing : files.read s.path = .error e) :
    s.update files = ⟨.error (.unreadable s.path e), s⟩ := by
  rw [update, Files.sample, missing]
  rfl

namespace Memory

variable {line token rest : List Char} {ls : List (List Char)} {name : String} {n : Nat}

/-! ## Lines -/

/-- A line is about the counter of that name, and this follows the colon. -/
def Names (line : List Char) (name : String) (rest : List Char) : Prop :=
  ∃ key, line = key ++ ':' :: rest ∧ ':' ∉ key ∧ trim key = name.toList

theorem parseLine?_of_cut {key : List Char} (h : cut ':' line = some (key, rest)) :
    parseLine? line = some (String.ofList (trim key), valueOf (words rest)) := by
  rw [parseLine?, h]
  rfl

theorem parseLine?_of_names (h : Names line name rest) :
    parseLine? line = some (name, valueOf (words rest)) := by
  obtain ⟨key, rfl, first, trimmed⟩ := h
  rw [parseLine?_of_cut (cut_eq_some_iff.mpr ⟨rfl, first⟩), trimmed, String.ofList_toList]

theorem exists_names_of_parseLine? {c : Counter} (h : parseLine? line = some (name, c)) :
    ∃ rest, Names line name rest := by
  obtain ⟨⟨key, rest⟩, split, entry⟩ := Option.map_eq_some_iff.mp h
  obtain ⟨whole, first⟩ := cut_eq_some_iff.mp split
  refine ⟨rest, key, whole, first, ?_⟩
  rw [← (Prod.mk.inj entry).1, String.toList_ofList]

/-- A carriage return at the end of a line is a blank behind the value. -/
theorem parseLine?_dropReturn (line : List Char) :
    parseLine? (dropReturn line) = parseLine? line := by
  unfold dropReturn
  split
  · next last =>
    obtain ⟨front, rfl⟩ := List.getLast?_eq_some_iff.mp last
    rw [List.dropLast_concat]
    cases split : cut ':' front with
    | none =>
      have whole : cut ':' (front ++ ['\r']) = none := by
        rw [cut_eq_none_iff] at split ⊢
        simpa using split
      rw [parseLine?, parseLine?, split, whole]
    | some parts =>
      obtain ⟨key, rest⟩ := parts
      obtain ⟨rfl, first⟩ := cut_eq_some_iff.mp split
      have whole : cut ':' (key ++ ':' :: rest ++ ['\r']) = some (key, rest ++ ['\r']) :=
        cut_eq_some_iff.mpr ⟨by simp, first⟩
      rw [parseLine?_of_cut split, parseLine?_of_cut whole, words_concat_of_isBlank rfl]
  · rfl

theorem filterMap_parseLine?_linesOf (ls : List (List Char)) :
    (linesOf ls).filterMap parseLine? = ls.filterMap parseLine? := by
  fun_induction linesOf ls with
  | case1 => rfl
  | case2 w empty =>
    rw [List.isEmpty_iff.mp empty]
    rfl
  | case3 w => rfl
  | case4 w ws _ ih =>
    rw [List.filterMap_cons, List.filterMap_cons, parseLine?_dropReturn, ih]

theorem parse_eq_ofList (content : String) :
    parse content = Assoc.ofList ((lines content.toList).filterMap parseLine?) := by
  rw [parse, refill, Assoc.clear, Assoc.ofList, List.foldl_filterMap]
  congr 1
  funext known line
  rw [learn]
  cases parseLine? line <;> rfl

/-- The carriage returns at the ends of the lines do not matter. -/
theorem parse_joinWith (nonempty : ls ≠ []) (h : ∀ line ∈ ls, '\n' ∉ line) :
    parse (String.ofList (joinWith '\n' ls)) = Assoc.ofList (ls.filterMap parseLine?) := by
  rw [parse_eq_ofList, String.toList_ofList, lines_joinWith nonempty h,
    filterMap_parseLine?_linesOf]

/-! ## Values -/

theorem bytesPerUnit_pos (unit : List Char) : 0 < bytesPerUnit unit := by
  unfold bytesPerUnit
  dsimp only
  split_ifs <;> decide

theorem words_append_of_forall_isBlank {gap : List Char} (blank : ∀ c ∈ gap, isBlank c = true)
    (s : List Char) : words (gap ++ s) = words s := by
  induction gap with
  | nil => rfl
  | cons c gap ih =>
    obtain ⟨first, others⟩ := List.forall_mem_cons.mp blank
    rw [List.cons_append, words_cons_of_isBlank first, ih others]

theorem words_numeral_append (denotes : Numeral.Denotes token n)
    (ends : ∀ c ∈ rest.head?, isBlank c = true) : words (token ++ rest) = token :: words rest := by
  cases rest with
  | nil =>
    rw [List.append_nil, words_of_forall_not_isBlank denotes.ne_nil denotes.solid]
    rfl
  | cons c rest =>
    have blank : isBlank c = true := ends c rfl
    rw [words_append_cons denotes.ne_nil denotes.solid blank, words_cons_of_isBlank blank]

/-- What a number in a unit stands for: too large a number for nothing, too large a product for the
largest counter. -/
def amount (unit : Nat) (n : Nat) : Counter :=
  if n < 2 ^ 64 then Counter.clamp (n * unit) else Counter.zero

theorem getD_read?_of_denotes (denotes : Numeral.Denotes token n) (unit : Nat) :
    ((Counter.read? token).getD Counter.zero).scale unit = amount unit n := by
  unfold amount
  split
  · next fits =>
    have read : Counter.read? token = some ⟨n, fits⟩ := Counter.read?_eq_some_iff.mpr denotes
    rw [read]
    rfl
  · next large =>
    have unread : Counter.read? token = none := Counter.read?_eq_none_iff.mpr fun c read =>
      large (read.unique denotes ▸ c.value_lt)
    rw [unread]
    exact Counter.ext (by simp)

theorem amount_le_amount {m : Nat} (unit : Nat) (h : m ≤ n) (fits : n < 2 ^ 64) :
    (amount unit m).value ≤ (amount unit n).value := by
  rw [amount, amount, if_pos fits, if_pos (h.trans_lt fits)]
  exact min_le_min_right _ (Nat.mul_le_mul_right unit h)

theorem amount_pos_iff {unit : Nat} (pos : 0 < unit) :
    0 < (amount unit n).value ↔ 0 < n ∧ n < 2 ^ 64 := by
  unfold amount
  split
  · next fits =>
    rw [Counter.value_clamp, lt_min_iff, Nat.mul_pos_iff_of_pos_right pos]
    exact ⟨fun h => ⟨h.1, fits⟩, fun h => ⟨h.1, by decide⟩⟩
  · next large => exact iff_of_false (Nat.lt_irrefl 0) fun h => large h.2

/-! ## The only line for a name -/

/-- A report of memory with one line for a name, and a place for a numeral on that line. -/
structure Slot (name : String) where
  before : List (List Char)
  key : List Char
  gap : List Char
  rest : List Char
  after : List (List Char)
  named : ':' ∉ key ∧ trim key = name.toList
  blank : ∀ c ∈ gap, isBlank c = true
  ends : ∀ c ∈ rest.head?, isBlank c = true
  single : ∀ line ∈ before ++ after, ∀ rest, ¬Names line name rest
  unbroken : ∀ line ∈ key :: gap :: rest :: (before ++ after), '\n' ∉ line

namespace Slot

variable {token' : List Char} {n' : Nat}

def lineWith (s : Slot name) (token : List Char) : List Char :=
  s.key ++ ':' :: (s.gap ++ (token ++ s.rest))

/-- The report with that numeral. -/
def content (s : Slot name) (token : List Char) : String :=
  String.ofList (joinWith '\n' (s.before ++ s.lineWith token :: s.after))

/-- The bytes in one unit of the numeral. -/
def unit (s : Slot name) : Nat :=
  bytesPerUnit ((words s.rest).headD [])

theorem unit_pos (s : Slot name) : 0 < s.unit :=
  bytesPerUnit_pos _

theorem parseLine?_lineWith (s : Slot name) (denotes : Numeral.Denotes token n) :
    parseLine? (s.lineWith token) = some (name, amount s.unit n) := by
  have words : words (s.gap ++ (token ++ s.rest)) = token :: words s.rest := by
    rw [words_append_of_forall_isBlank s.blank, words_numeral_append denotes s.ends]
  have names : Names (s.lineWith token) name (s.gap ++ (token ++ s.rest)) :=
    ⟨s.key, rfl, s.named.1, s.named.2⟩
  rw [parseLine?_of_names names, words, valueOf, getD_read?_of_denotes denotes, unit]

theorem unbroken_lines (s : Slot name) (denotes : Numeral.Denotes token n) :
    ∀ line ∈ s.before ++ s.lineWith token :: s.after, '\n' ∉ line := by
  have own : '\n' ∉ s.lineWith token := by
    have key := s.unbroken s.key (by simp)
    have gap := s.unbroken s.gap (by simp)
    have rest := s.unbroken s.rest (by simp)
    have numeral : '\n' ∉ token := fun h => absurd (denotes.solid _ h) (by decide)
    simp [lineWith, key, gap, rest, numeral]
  intro line hline
  rcases List.mem_append.mp hline with h | h
  · exact s.unbroken line (by simp [h])
  rcases List.mem_cons.mp h with rfl | h
  · exact own
  · exact s.unbroken line (by simp [h])

theorem parse_content (s : Slot name) (denotes : Numeral.Denotes token n) :
    parse (s.content token) = Assoc.ofList (s.before.filterMap parseLine? ++
      (name, amount s.unit n) :: s.after.filterMap parseLine?) := by
  rw [content, parse_joinWith (by simp) (s.unbroken_lines denotes), List.filterMap_append,
    List.filterMap_cons, s.parseLine?_lineWith denotes]

/-- The numeral settles the counter of the name. -/
theorem get?_parse_content (s : Slot name) (denotes : Numeral.Denotes token n) :
    (parse (s.content token)).get? name = some (amount s.unit n) := by
  rw [s.parse_content denotes, Assoc.get?_ofList_of_single]
  rw [← List.filterMap_append]
  rintro ⟨name', c⟩ he rfl
  obtain ⟨line, hline, parsed⟩ := List.mem_filterMap.mp he
  obtain ⟨rest, names⟩ := exists_names_of_parseLine? parsed
  exact s.single line hline rest names

/-- No other counter depends on the numeral. -/
theorem get?_parse_content_congr (s : Slot name) (denotes : Numeral.Denotes token n)
    (denotes' : Numeral.Denotes token' n') {other : String} (h : name ≠ other) :
    (parse (s.content token)).get? other = (parse (s.content token')).get? other := by
  rw [s.parse_content denotes, s.parse_content denotes']
  exact Assoc.get?_ofList_congr _ _ _ _ h

end Slot

end Memory

end HostMonitor
