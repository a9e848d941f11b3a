import HostMonitor.Cpu.Stat
import HostMonitor.Proofs.Text.Numerals
import Mathlib.Data.List.Forall2

/-!
# Lines of a report of cpu times

The first word of a line decides what the line is about. A line of counts is sound if each of its
first ten words after that is a count, and a line of the time of boot if the word after that is one.
Reading stops exactly at a line that is not sound, whatever was read before it.
-/

namespace HostMonitor

/-- The count at a position of a record. -/
def Jiffies.slot (j : Jiffies) (i : Fin 10) : Counter :=
  j.counts.get ⟨i.val, j.length_counts.symm ▸ i.isLt⟩

theorem Jiffies.slot_eq_iff {j : Jiffies} {i : Fin 10} {c : Counter} :
    j.slot i = c ↔ j.counts[i.val]? = some c := by
  rw [List.getElem?_eq_some_iff]
  have inside : i.val < j.counts.length := by rw [j.length_counts]; exact i.isLt
  exact ⟨fun h => ⟨inside, h⟩, fun ⟨_, h⟩ => h⟩

theorem Jiffies.ext_slot {j j' : Jiffies} (same : ∀ i, j.slot i = j'.slot i) : j = j' := by
  obtain ⟨counts, length⟩ := j
  obtain ⟨counts', length'⟩ := j'
  have : counts = counts' := by
    refine List.ext_getElem (length.trans length'.symm) fun i h _ => ?_
    exact same ⟨i, length ▸ h⟩
  subst this
  rfl

namespace Stat

open Text

variable {s : Stat} {line key token : List Char} {tokens : List (List Char)} {x y : Subject}
  {e : StatError} {j : Jiffies} {counts values : List Counter} {c : Counter} {id : Nat}

/-! ## What lines tell -/

/-- Whether a token is written for a count, which is a word of 64 bits. -/
def IsCount (token : List Char) (c : Counter) : Prop :=
  Numeral.Denotes token c.value

/-- The first words of the lines that count. -/
inductive IsKey : List Char → Subject → Prop where
  | allCpus : IsKey "cpu".toList .allCpus
  | oneCpu {number : List Char} {id : Nat} (denotes : Numeral.Denotes number id)
    (fits : id < Numeral.wordLimit) : IsKey ("cpu".toList ++ number) (.oneCpu id)
  | bootTime : IsKey "btime".toList .bootTime

/-- What a line is about, and the words after the first. -/
def Tells (line : List Char) (x : Subject) (tokens : List (List Char)) : Prop :=
  ∃ key, words line = key :: tokens ∧ IsKey key x

/-- The words after the first on a line of counts, for all cpus or for one. -/
def Counts (line : List Char) (tokens : List (List Char)) : Prop :=
  Tells line .allCpus tokens ∨ ∃ id, Tells line (.oneCpu id) tokens

structure Sound (line : List Char) : Prop where
  counts : ∀ tokens, Counts line tokens → ∀ token ∈ tokens.take 10, ∃ c, IsCount token c
  bootTime : ∀ tokens, Tells line .bootTime tokens →
    ∃ token rest c, tokens = token :: rest ∧ IsCount token c

/-- The fault of a line: the first of ten words that is no count, or no count where the time of boot
should be. -/
inductive Fault (line : List Char) : StatError → Prop where
  | count {good rest : List (List Char)} {token : List Char}
    (counts : Counts line (good ++ token :: rest)) (early : good.length < 10)
    (before : ∀ t ∈ good, ∃ c, IsCount t c) (bad : ∀ c, ¬IsCount token c) :
    Fault line (.invalidCount (String.ofList token) (String.ofList line))
  | bootTime {tokens : List (List Char)} (said : Tells line .bootTime tokens)
    (bad : ∀ token rest c, tokens = token :: rest → ¬IsCount token c) :
    Fault line (.invalidBootTime (String.ofList line))

/-! ## Subjects -/

theorem isKey_iff : IsKey key x ↔ subject key = x ∧ x ≠ .other := by
  constructor
  · rintro (_ | ⟨denotes, fits⟩ | _)
    · decide
    · next number id =>
      have nonempty : number ≠ [] := denotes.ne_nil
      have read : Numeral.word? number = some id := Numeral.word?_eq_some_iff.mpr ⟨denotes, fits⟩
      have rest : dropHead? "cpu".toList ("cpu".toList ++ number) = some number :=
        dropHead?_eq_some_iff.mpr rfl
      refine ⟨?_, nofun⟩
      rw [subject, if_neg (by simpa using nonempty), if_neg (by simp), rest, Option.bind_some,
        read]
    · decide
  · rintro ⟨about, known⟩
    unfold subject at about
    split at about
    · next all => exact about ▸ all ▸ .allCpus
    split at about
    · next boot => exact about ▸ boot ▸ .bootTime
    split at about
    · next id one =>
      obtain ⟨number, rest, read⟩ := Option.bind_eq_some_iff.mp one
      obtain ⟨denotes, fits⟩ := Numeral.word?_eq_some_iff.mp read
      rw [← about, dropHead?_eq_some_iff.mp rest]
      exact .oneCpu denotes fits
    · exact absurd about.symm known

theorem IsKey.subject_eq (h : IsKey key x) : subject key = x :=
  (isKey_iff.mp h).1

theorem forall_not_tells_iff : (∀ x tokens, ¬Tells line x tokens) ↔
    ∀ key ∈ (words line).head?, subject key = .other := by
  constructor
  · intro silent key hk
    by_contra known
    obtain ⟨tokens, split⟩ := List.head?_eq_some_iff.mp hk
    exact silent _ tokens ⟨key, split, isKey_iff.mpr ⟨rfl, known⟩⟩
  · rintro other x tokens ⟨key, split, about⟩
    have first : key ∈ (words line).head? := by
      rw [split]
      rfl
    exact (isKey_iff.mp about).2 (about.subject_eq.symm.trans (other key first))

/-- A line tells one thing only. -/
theorem Tells.unique {tokens' : List (List Char)} (h : Tells line x tokens)
    (h' : Tells line y tokens') : x = y ∧ tokens = tokens' := by
  obtain ⟨key, said, about⟩ := h
  obtain ⟨key', said', about'⟩ := h'
  rw [said] at said'
  cases said'
  exact ⟨about.subject_eq.symm.trans about'.subject_eq, rfl⟩

theorem tells_cases (line : List Char) :
    (∃ tokens, Tells line .allCpus tokens) ∨ (∃ id tokens, Tells line (.oneCpu id) tokens) ∨
      (∃ tokens, Tells line .bootTime tokens) ∨ ∀ x tokens, ¬Tells line x tokens := by
  by_cases said : ∃ x tokens, Tells line x tokens
  · obtain ⟨x, tokens, h⟩ := said
    obtain ⟨key, -, about⟩ := id h
    cases about with
    | allCpus => exact .inl ⟨tokens, h⟩
    | oneCpu => exact .inr (.inl ⟨_, tokens, h⟩)
    | bootTime => exact .inr (.inr (.inl ⟨tokens, h⟩))
  · exact .inr (.inr (.inr fun x tokens h => said ⟨x, tokens, h⟩))

/-! ## Counts -/

theorem read?_eq_some_iff : Counter.read? token = some c ↔ IsCount token c :=
  Counter.read?_eq_some_iff

theorem IsCount.unique {c' : Counter} (h : IsCount token c) (h' : IsCount token c') : c = c' :=
  Option.some.inj ((read?_eq_some_iff.mpr h).symm.trans (read?_eq_some_iff.mpr h'))

theorem exists_values (h : ∀ token ∈ tokens, ∃ c, IsCount token c) :
    ∃ values, List.Forall₂ IsCount tokens values := by
  induction tokens with
  | nil => exact ⟨[], .nil⟩
  | cons token rest ih =>
    obtain ⟨⟨c, hc⟩, others⟩ := List.forall_mem_cons.mp h
    obtain ⟨values, hv⟩ := ih others
    exact ⟨c :: values, .cons hc hv⟩

/-- Tokens that are counts take the place of the counts that were there. -/
theorem overlay_of_forall₂ (h : List.Forall₂ IsCount (tokens.take counts.length) values) :
    overlay counts tokens = (values ++ counts.drop values.length, none) := by
  induction counts generalizing tokens values with
  | nil =>
    cases h
    rfl
  | cons count counts ih =>
    cases tokens with
    | nil =>
      cases h
      rfl
    | cons token tokens =>
      rw [List.length_cons, List.take_succ_cons] at h
      obtain _ | ⟨first, others⟩ := h
      rw [overlay, read?_eq_some_iff.mpr first]
      dsimp only
      rw [ih others]
      rfl

theorem overlay_fault_eq_some_iff :
    (overlay counts tokens).2 = some token ↔ ∃ good rest, tokens = good ++ token :: rest ∧
      good.length < counts.length ∧ (∀ t ∈ good, ∃ c, IsCount t c) ∧ ∀ c, ¬IsCount token c := by
  fun_induction overlay counts tokens with
  | case1 => simp
  | case2 => simp
  | case3 count counts t tokens unread =>
    have bad : ∀ c, ¬IsCount t c := Counter.read?_eq_none_iff.mp unread
    constructor
    · rintro ⟨⟩
      exact ⟨[], tokens, rfl, by simp, List.forall_mem_nil _, bad⟩
    · rintro ⟨good, rest, split, early, before, -⟩
      cases good with
      | nil =>
        cases split
        rfl
      | cons t good =>
        cases split
        obtain ⟨c, hc⟩ := before t List.mem_cons_self
        exact absurd hc (bad c)
  | case4 count counts t tokens value read more stop pair ih =>
    rw [pair] at ih
    have good : IsCount t value := read?_eq_some_iff.mp read
    rw [ih]
    constructor
    · rintro ⟨good', rest, rfl, early, before, bad⟩
      refine ⟨t :: good', rest, rfl, by simpa using early, ?_, bad⟩
      exact List.forall_mem_cons.mpr ⟨⟨value, good⟩, before⟩
    · rintro ⟨good', rest, split, early, before, bad⟩
      cases good' with
      | nil =>
        cases split
        exact absurd good (bad value)
      | cons t' good' =>
        cases split
        exact ⟨good', rest, rfl, by simpa using early, (List.forall_mem_cons.mp before).2, bad⟩

theorem overlay_fault_eq_none_iff :
    (overlay counts tokens).2 = none ↔
      ∀ token ∈ tokens.take counts.length, ∃ c, IsCount token c := by
  fun_induction overlay counts tokens with
  | case1 => simp
  | case2 => simp
  | case3 count counts t tokens unread =>
    have bad : ∀ c, ¬IsCount t c := Counter.read?_eq_none_iff.mp unread
    simp [bad]
  | case4 count counts t tokens value read more stop pair ih =>
    have good : IsCount t value := read?_eq_some_iff.mp read
    rw [pair] at ih
    rw [ih, List.length_cons, List.take_succ_cons, List.forall_mem_cons]
    exact (and_iff_right ⟨value, good⟩).symm

/-! ## Reading a line -/

theorem scanLine_of_allCpus (h : Tells line .allCpus tokens) :
    scanLine s line =
      ⟨{ s with jiffies := overlaid s.jiffies tokens }, countFault? tokens line⟩ := by
  obtain ⟨key, split, about⟩ := h
  rw [scanLine, split]
  dsimp only
  rw [about.subject_eq]

theorem scanLine_of_oneCpu (h : Tells line (.oneCpu id) tokens) :
    scanLine s line = match countFault? tokens line with
      | some e => ⟨s, some e⟩
      | none => ⟨{ s with perCpu := s.perCpu.insert id (overlaid Jiffies.zero tokens) }, none⟩ := by
  obtain ⟨key, split, about⟩ := h
  cases result : countFault? tokens line <;>
    simp only [scanLine, split, about.subject_eq, result]

theorem scanLine_of_bootTime (h : Tells line .bootTime tokens) :
    scanLine s line = match Counter.read? (tokens.headD []) with
      | some value => ⟨{ s with bootTime := value }, none⟩
      | none => ⟨s, some (.invalidBootTime (String.ofList line))⟩ := by
  obtain ⟨key, split, about⟩ := h
  cases result : Counter.read? (tokens.headD []) <;>
    simp only [scanLine, split, about.subject_eq, result]

theorem scanLine_of_silent (h : ∀ x tokens, ¬Tells line x tokens) :
    scanLine s line = ⟨s, none⟩ := by
  unfold scanLine
  split
  · rfl
  · next key tokens split =>
    have first : key ∈ (words line).head? := by
      rw [split]
      rfl
    rw [forall_not_tells_iff.mp h key first]

/-! ## Faults -/

theorem countFault?_eq_none_iff :
    countFault? tokens line = none ↔ ∀ token ∈ tokens.take 10, ∃ c, IsCount token c := by
  rw [countFault?, Option.map_eq_none_iff, overlay_fault_eq_none_iff, Jiffies.zero.length_counts]

theorem countFault?_eq_some_iff :
    countFault? tokens line = some e ↔ ∃ good token rest, tokens = good ++ token :: rest ∧
      good.length < 10 ∧ (∀ t ∈ good, ∃ c, IsCount t c) ∧ (∀ c, ¬IsCount token c) ∧
        e = .invalidCount (String.ofList token) (String.ofList line) := by
  simp only [countFault?, Option.map_eq_some_iff, overlay_fault_eq_some_iff,
    Jiffies.zero.length_counts]
  constructor
  · rintro ⟨token, ⟨good, rest, split, early, before, bad⟩, rfl⟩
    exact ⟨good, token, rest, split, early, before, bad, rfl⟩
  · rintro ⟨good, token, rest, split, early, before, bad, rfl⟩
    exact ⟨token, ⟨good, rest, split, early, before, bad⟩, rfl⟩

theorem Counts.fault_scanLine (h : Counts line tokens) :
    (scanLine s line).fault = countFault? tokens line := by
  rcases h with all | ⟨id, one⟩
  · rw [scanLine_of_allCpus all]
  · rw [scanLine_of_oneCpu one]
    split <;> simp_all

theorem Counts.exists_tells (h : Counts line tokens) : ∃ x, Tells line x tokens := by
  rcases h with all | ⟨id, one⟩
  · exact ⟨_, all⟩
  · exact ⟨_, one⟩

theorem Counts.unique {tokens' : List (List Char)} (h : Counts line tokens)
    (h' : Counts line tokens') : tokens = tokens' := by
  rcases h with h | ⟨_, h⟩ <;> rcases h' with h' | ⟨_, h'⟩ <;> exact (h.unique h').2

/-- A line of counts does not tell the time of boot. -/
theorem Counts.not_bootTime {tokens' : List (List Char)} (h : Counts line tokens) :
    ¬Tells line .bootTime tokens' := by
  rintro boot
  rcases h with h | ⟨_, h⟩ <;> cases (h.unique boot).1

theorem counts_or_bootTime_or_silent (line : List Char) :
    (∃ tokens, Counts line tokens) ∨ (∃ tokens, Tells line .bootTime tokens) ∨
      ∀ x tokens, ¬Tells line x tokens := by
  rcases tells_cases line with ⟨tokens, all⟩ | ⟨id, tokens, one⟩ | rest
  · exact .inl ⟨tokens, .inl all⟩
  · exact .inl ⟨tokens, .inr ⟨id, one⟩⟩
  · exact .inr rest

theorem read?_headD_eq_some_iff :
    Counter.read? (tokens.headD []) = some c ↔
      ∃ token rest, tokens = token :: rest ∧ IsCount token c := by
  rw [read?_eq_some_iff]
  cases tokens with
  | nil =>
    refine ⟨fun empty => absurd rfl empty.ne_nil, ?_⟩
    rintro ⟨token, rest, split, -⟩
    cases split
  | cons token rest =>
    constructor
    · exact fun count => ⟨token, rest, rfl, count⟩
    · rintro ⟨_, _, split, count⟩
      cases split
      exact count

theorem fault_scanLine_eq_none_iff : (scanLine s line).fault = none ↔ Sound line := by
  rcases counts_or_bootTime_or_silent line with ⟨tokens, counts⟩ | ⟨tokens, boot⟩ | silent
  · rw [counts.fault_scanLine, countFault?_eq_none_iff]
    constructor
    · exact fun read => ⟨fun tokens' counts' => counts.unique counts' ▸ read, fun _ boot =>
        absurd boot counts.not_bootTime⟩
    · exact fun sound => sound.counts tokens counts
  · rw [scanLine_of_bootTime boot]
    constructor
    · intro fine
      split at fine
      · next c read =>
        obtain ⟨token, rest, split, count⟩ := read?_headD_eq_some_iff.mp read
        refine ⟨fun _ counts => absurd boot counts.not_bootTime, fun tokens' boot' => ?_⟩
        exact ⟨token, rest, c, (boot'.unique boot).2.trans split, count⟩
      · cases fine
    · intro sound
      obtain ⟨token, rest, c, split, count⟩ := sound.bootTime tokens boot
      rw [read?_headD_eq_some_iff.mpr ⟨token, rest, split, count⟩]
  · rw [scanLine_of_silent silent]
    have none : ∀ tokens, ¬Counts line tokens := by
      intro tokens counts
      obtain ⟨x, said⟩ := counts.exists_tells
      exact silent x tokens said
    exact ⟨fun _ => ⟨fun tokens h => absurd h (none tokens), fun tokens h => absurd h (silent _ _)⟩,
      fun _ => rfl⟩

theorem fault_scanLine_eq_some_iff : (scanLine s line).fault = some e ↔ Fault line e := by
  constructor
  · intro stopped
    rcases counts_or_bootTime_or_silent line with ⟨tokens, counts⟩ | ⟨tokens, boot⟩ | silent
    · rw [counts.fault_scanLine, countFault?_eq_some_iff] at stopped
      obtain ⟨good, token, rest, rfl, early, before, bad, rfl⟩ := stopped
      exact .count counts early before bad
    · rw [scanLine_of_bootTime boot] at stopped
      split at stopped
      · cases stopped
      · next unread =>
        cases stopped
        refine .bootTime boot fun token rest c split count => ?_
        rw [read?_headD_eq_some_iff.mpr ⟨token, rest, split, count⟩] at unread
        cases unread
    · rw [scanLine_of_silent silent] at stopped
      cases stopped
  · rintro (⟨counts, early, before, bad⟩ | ⟨boot, bad⟩)
    · rw [counts.fault_scanLine, countFault?_eq_some_iff]
      exact ⟨_, _, _, rfl, early, before, bad, rfl⟩
    · next tokens =>
      have unread : Counter.read? (tokens.headD []) = none := by
        refine Option.eq_none_iff_forall_ne_some.mpr fun c read => ?_
        obtain ⟨token, rest, split, count⟩ := read?_headD_eq_some_iff.mp read
        exact bad token rest c split count
      rw [scanLine_of_bootTime boot, unread]

theorem not_sound_iff : ¬Sound line ↔ ∃ e, Fault line e := by
  rw [← fault_scanLine_eq_none_iff (s := empty), ← ne_eq, Option.ne_none_iff_exists']
  simp only [fault_scanLine_eq_some_iff]

/-- The text of a fault ends in the line, quoted. -/
theorem Fault.message_eq (h : Fault line e) :
    ∃ start, e.message = start ++ " in line: '" ++ String.ofList line ++ "'" := by
  cases h with
  | @count good rest token =>
    have joint : "' in line: '" = "'" ++ " in line: '" := by decide
    refine ⟨"invalid jiffy value '" ++ String.ofList token ++ "'", ?_⟩
    show "invalid jiffy value '" ++ String.ofList token ++ "' in line: '" ++ _ ++ "'" = _
    rw [joint, ← String.append_assoc]
  | bootTime =>
    have joint : "invalid btime value in line: '" = "invalid btime value" ++ " in line: '" := by
      decide
    refine ⟨"invalid btime value", ?_⟩
    show "invalid btime value in line: '" ++ _ ++ "'" = _
    rw [joint]

end Stat

end HostMonitor
