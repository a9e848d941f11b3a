import HostMonitor.Cpu.State
import HostMonitor.Proofs.Assoc
import HostMonitor.Proofs.Latest
import HostMonitor.Proofs.Stat.Lines

/-!
# Reading a report of cpu times

A report is accepted exactly if all of its lines are sound and the last time of boot in it is not
zero. What was read is then what the lines told last, about each count and about each cpu. A report
that is not accepted is refused for its first line at fault, if it has one.
-/

namespace HostMonitor.Stat

open Text

variable {s known : Stat} {line token : List Char} {tokens ls : List (List Char)} {e : StatError}
  {j : Jiffies} {values : List Counter} {c : Counter} {i : Fin 10} {id : Nat} {content : String}

/-! ## What a report tells -/

/-- The time of boot on a line. -/
def BootsAt (line : List Char) (c : Counter) : Prop :=
  ∃ token rest, Tells line .bootTime (token :: rest) ∧ IsCount token c

/-- The count at a position of a line for all cpus. -/
def CountAt (i : Fin 10) (line : List Char) (c : Counter) : Prop :=
  ∃ tokens token, Tells line .allCpus tokens ∧ tokens[i.val]? = some token ∧ IsCount token c

/-- The first ten counts on a line for one cpu, and zero for those that it does not have. -/
def RecordOf (id : Nat) (line : List Char) (j : Jiffies) : Prop :=
  ∃ tokens values, Tells line (.oneCpu id) tokens ∧
    List.Forall₂ IsCount (tokens.take 10) values ∧ j = Jiffies.ofList values

/-- All that is known is what the lines told last: zero for a count that no line has, and no record
for a cpu without a line. -/
structure Describes (s : Stat) (ls : List (List Char)) : Prop where
  bootTime : Latest BootsAt ls s.bootTime
  counts : ∀ i, Latest (CountAt i) ls (s.jiffies.slot i) ∨
    Silent (CountAt i) ls ∧ s.jiffies.slot i = Counter.zero
  records : ∀ id j, s.perCpu.get? id = some j ↔ Latest (RecordOf id) ls j
  ascending : s.perCpu.Ascending

/-! ## Sound lines -/

def readLine (s : Stat) (line : List Char) : Stat :=
  (scanLine s line).stat

/-- What reading a sound line can do. -/
theorem readLine_cases (sound : Sound line) :
    (∃ tokens values, Tells line .allCpus tokens ∧ List.Forall₂ IsCount (tokens.take 10) values ∧
      ∀ s, readLine s line = { s with jiffies := overlaid s.jiffies tokens }) ∨
    (∃ id tokens values, Tells line (.oneCpu id) tokens ∧
      List.Forall₂ IsCount (tokens.take 10) values ∧
      ∀ s, readLine s line =
        { s with perCpu := s.perCpu.insert id (overlaid Jiffies.zero tokens) }) ∨
    (∃ token rest c, Tells line .bootTime (token :: rest) ∧ IsCount token c ∧
      ∀ s, readLine s line = { s with bootTime := c }) ∨
    (∀ x tokens, ¬Tells line x tokens) ∧ ∀ s, readLine s line = s := by
  rcases tells_cases line with ⟨tokens, all⟩ | ⟨id, tokens, one⟩ | ⟨tokens, boot⟩ | silent
  · obtain ⟨values, read⟩ := exists_values (sound.counts tokens (.inl all))
    exact .inl ⟨tokens, values, all, read, fun s => by rw [readLine, scanLine_of_allCpus all]⟩
  · have fine := sound.counts tokens (.inr ⟨id, one⟩)
    obtain ⟨values, read⟩ := exists_values fine
    refine .inr (.inl ⟨id, tokens, values, one, read, fun s => ?_⟩)
    rw [readLine, scanLine_of_oneCpu one, countFault?_eq_none_iff.mpr fine]
  · obtain ⟨token, rest, c, rfl, count⟩ := sound.bootTime tokens boot
    refine .inr (.inr (.inl ⟨token, rest, c, boot, count, fun s => ?_⟩))
    rw [readLine, scanLine_of_bootTime boot, List.headD_cons, read?_eq_some_iff.mpr count]
  · exact .inr (.inr (.inr ⟨silent, fun s => by rw [readLine, scanLine_of_silent silent]⟩))

theorem counts_overlaid (read : List.Forall₂ IsCount (tokens.take 10) values) (j : Jiffies) :
    (overlaid j tokens).counts = values ++ j.counts.drop values.length := by
  rw [← j.length_counts] at read
  exact congrArg Prod.fst (overlay_of_forall₂ read)

theorem overlaid_zero (read : List.Forall₂ IsCount (tokens.take 10) values) :
    overlaid Jiffies.zero tokens = Jiffies.ofList values := by
  have short : values.length ≤ 10 := by
    rw [← read.length_eq]
    exact List.length_take_le 10 tokens
  have counts : (overlaid Jiffies.zero tokens).counts = (Jiffies.ofList values).counts := by
    rw [counts_overlaid read]
    show values ++ (List.replicate 10 Counter.zero).drop values.length =
      (values ++ List.replicate 10 Counter.zero).take 10
    rw [List.take_append, List.take_of_length_le short, List.drop_replicate, List.take_replicate,
      Nat.min_eq_left (Nat.sub_le 10 _)]
  exact Jiffies.ext_slot fun i => Jiffies.slot_eq_iff.mpr (counts ▸ Jiffies.slot_eq_iff.mp rfl)

theorem slot_overlaid_of_isCount (read : List.Forall₂ IsCount (tokens.take 10) values)
    (found : tokens[i.val]? = some token) (count : IsCount token c) :
    (overlaid j tokens).slot i = c := by
  have early : (tokens.take 10)[i.val]? = some token := by rwa [List.getElem?_take_of_lt i.isLt]
  obtain ⟨inside, taken⟩ := List.getElem?_eq_some_iff.mp early
  have inside' : i.val < values.length := by rwa [← read.length_eq]
  have same : values[i.val] = c := by
    have value := read.get inside inside'
    rw [List.get_eq_getElem, taken] at value
    exact value.unique count
  rw [Jiffies.slot_eq_iff, counts_overlaid read, List.getElem?_append_left inside',
    List.getElem?_eq_getElem inside', same]

theorem slot_overlaid_of_none (read : List.Forall₂ IsCount (tokens.take 10) values)
    (none : tokens[i.val]? = none) : (overlaid j tokens).slot i = j.slot i := by
  have past : values.length ≤ i.val := by
    rw [← read.length_eq]
    have := List.getElem?_eq_none_iff.mp none
    simp only [List.length_take]
    omega
  rw [Jiffies.slot_eq_iff, counts_overlaid read, List.getElem?_append_right past,
    List.getElem?_drop, Nat.add_sub_cancel' past]
  exact Jiffies.slot_eq_iff.mp rfl

/-! ## Sound reports -/

theorem heeds_bootTime (sound : ∀ line ∈ ls, Sound line) :
    Heeds BootsAt ls readLine Stat.bootTime := by
  constructor
  · rintro s line hl c ⟨token, rest, boot, count⟩
    rw [readLine, scanLine_of_bootTime boot, List.headD_cons, read?_eq_some_iff.mpr count]
  · intro s line hl quiet
    rcases readLine_cases (sound line hl) with ⟨_, _, -, -, step⟩ | ⟨_, _, _, -, -, step⟩ |
      ⟨token, rest, c, boot, count, -⟩ | ⟨-, step⟩
    · rw [step]
    · rw [step]
    · exact absurd ⟨token, rest, boot, count⟩ (quiet c)
    · rw [step]

theorem heeds_slot (sound : ∀ line ∈ ls, Sound line) (i : Fin 10) :
    Heeds (CountAt i) ls readLine fun s => s.jiffies.slot i := by
  constructor
  · rintro s line hl c ⟨tokens, token, all, found, count⟩
    obtain ⟨values, read⟩ := exists_values ((sound line hl).counts tokens (.inl all))
    rw [readLine, scanLine_of_allCpus all]
    exact slot_overlaid_of_isCount read found count
  · intro s line hl quiet
    rcases readLine_cases (sound line hl) with ⟨tokens, values, all, read, step⟩ |
      ⟨_, _, _, -, -, step⟩ | ⟨_, _, _, -, -, step⟩ | ⟨-, step⟩
    · rw [step]
      refine slot_overlaid_of_none read
        (Option.eq_none_iff_forall_ne_some.mpr fun token found => ?_)
      -- A token at this position is one of the first ten, so it is a count.
      have early : token ∈ tokens.take 10 := by
        rw [← List.getElem?_take_of_lt i.isLt] at found
        exact List.mem_of_getElem? found
      obtain ⟨c, count⟩ := (sound line hl).counts tokens (.inl all) token early
      exact quiet c ⟨tokens, token, all, found, count⟩
    · rw [step]
    · rw [step]
    · rw [step]

theorem RecordOf.overlaid {tokens : List (List Char)} (h : RecordOf id line j)
    (one : Tells line (.oneCpu id) tokens) : overlaid Jiffies.zero tokens = j := by
  obtain ⟨tokens', values, one', read, rfl⟩ := h
  obtain rfl := (one.unique one').2
  exact overlaid_zero read

theorem RecordOf.unique {j' : Jiffies} (h : RecordOf id line j) (h' : RecordOf id line j') :
    j = j' := by
  have ⟨tokens, _, one, _, _⟩ := h
  exact (h.overlaid one).symm.trans (h'.overlaid one)

theorem heeds_get? (sound : ∀ line ∈ ls, Sound line) (id : Nat) :
    Heeds (fun line o => ∃ j, RecordOf id line j ∧ o = some j) ls readLine
      fun s => s.perCpu.get? id := by
  constructor
  · rintro s line hl _ ⟨j, record, rfl⟩
    have ⟨tokens, _, one, _, _⟩ := record
    have fine : countFault? tokens line = none :=
      countFault?_eq_none_iff.mpr ((sound line hl).counts tokens (.inr ⟨id, one⟩))
    rw [readLine, scanLine_of_oneCpu one, fine, ← record.overlaid one]
    exact (Assoc.get?_insert _ _ _ _).trans (if_pos rfl)
  · intro s line hl quiet
    rcases readLine_cases (sound line hl) with ⟨_, _, -, -, step⟩ |
      ⟨other, tokens, values, one, read, step⟩ | ⟨_, _, _, -, -, step⟩ | ⟨-, step⟩
    · rw [step]
    · have differs : other ≠ id := by
        rintro rfl
        exact quiet _ ⟨_, ⟨tokens, values, one, read, rfl⟩, rfl⟩
      rw [step, Assoc.get?_insert, if_neg differs]
    · rw [step]
    · rw [step]

theorem ascending_foldl_readLine (sound : ∀ line ∈ ls, Sound line) (h : s.perCpu.Ascending) :
    (ls.foldl readLine s).perCpu.Ascending := by
  induction ls generalizing s with
  | nil => exact h
  | cons line ls ih =>
    obtain ⟨first, others⟩ := List.forall_mem_cons.mp sound
    refine ih others ?_
    rcases readLine_cases first with ⟨_, _, -, -, step⟩ | ⟨_, _, _, -, -, step⟩ |
      ⟨_, _, _, -, -, step⟩ | ⟨-, step⟩ <;> rw [step]
    · exact h
    · exact h.insert _ _
    · exact h
    · exact h

theorem BootsAt.unique {c' : Counter} (h : BootsAt line c) (h' : BootsAt line c') : c = c' := by
  obtain ⟨token, rest, boot, count⟩ := h
  obtain ⟨token', rest', boot', count'⟩ := h'
  cases (boot.unique boot').2
  exact count.unique count'

theorem CountAt.unique {c' : Counter} (h : CountAt i line c) (h' : CountAt i line c') : c = c' := by
  obtain ⟨tokens, token, all, found, count⟩ := h
  obtain ⟨tokens', token', all', found', count'⟩ := h'
  obtain rfl := (all.unique all').2
  rw [found] at found'
  cases found'
  exact count.unique count'

/-- Lines describe one thing only. -/
theorem Describes.unique {s' : Stat} (h : Describes s ls) (h' : Describes s' ls) : s = s' := by
  have bootTime : s.bootTime = s'.bootTime :=
    h.bootTime.unique (fun _ _ _ b b' => b.unique b') h'.bootTime
  have jiffies : s.jiffies = s'.jiffies := by
    refine Jiffies.ext_slot fun i => ?_
    rcases h.counts i with latest | ⟨silent, zero⟩ <;>
      rcases h'.counts i with latest' | ⟨silent', zero'⟩
    · exact latest.unique (fun _ _ _ b b' => b.unique b') latest'
    · exact absurd silent' latest.not_silent
    · exact absurd silent latest'.not_silent
    · exact zero.trans zero'.symm
  have perCpu : s.perCpu = s'.perCpu := by
    refine h.ascending.eq_of_get? h'.ascending fun id => Option.ext fun j => ?_
    rw [h.records, h'.records]
  cases s
  cases s'
  simp_all

/-! ## Reports -/

theorem parse_eq_error_iff :
    parse known content = .error e ↔ (scan known content).fault = some e := by
  unfold parse
  split <;> simp_all

theorem scanLines_of_sound (sound : ∀ line ∈ ls, Sound line) (s : Stat) :
    scanLines s ls = ⟨ls.foldl readLine s,
      if (ls.foldl readLine s).bootTime = Counter.zero then some .noBootTime else none⟩ := by
  induction ls generalizing s with
  | nil => rfl
  | cons line ls ih =>
    obtain ⟨first, others⟩ := List.forall_mem_cons.mp sound
    rw [scanLines, fault_scanLine_eq_none_iff.mpr first]
    exact ih others _

theorem scanLines_of_fault {before after : List (List Char)} (sound : ∀ l ∈ before, Sound l)
    (fault : Fault line e) (s : Stat) : (scanLines s (before ++ line :: after)).fault = some e := by
  induction before generalizing s with
  | nil =>
    have stopped : (scanLine s line).fault = some e := fault_scanLine_eq_some_iff.mpr fault
    rw [List.nil_append, scanLines, stopped]
    exact stopped
  | cons l before ih =>
    obtain ⟨first, others⟩ := List.forall_mem_cons.mp sound
    rw [List.cons_append, scanLines, fault_scanLine_eq_none_iff.mpr first]
    exact ih others _

theorem sound_or_exists_first_fault (ls : List (List Char)) :
    (∀ line ∈ ls, Sound line) ∨ ∃ before line after e, ls = before ++ line :: after ∧
      (∀ l ∈ before, Sound l) ∧ Fault line e := by
  induction ls with
  | nil => exact .inl nofun
  | cons line ls ih =>
    by_cases first : Sound line
    · rcases ih with others | ⟨before, l, after, e, rfl, others, fault⟩
      · exact .inl (List.forall_mem_cons.mpr ⟨first, others⟩)
      · refine .inr ⟨line :: before, l, after, e, rfl, ?_, fault⟩
        exact List.forall_mem_cons.mpr ⟨first, others⟩
    · obtain ⟨e, fault⟩ := not_sound_iff.mp first
      exact .inr ⟨[], line, ls, e, rfl, nofun, fault⟩

theorem parse_of_sound (sound : ∀ line ∈ lines content.toList, Sound line) :
    parse known content =
      if ((lines content.toList).foldl readLine empty).bootTime = Counter.zero then
        .error .noBootTime
      else .ok ((lines content.toList).foldl readLine empty) := by
  rw [parse, scan, clear, scanLines_of_sound sound]
  by_cases unknown : ((lines content.toList).foldl readLine empty).bootTime = Counter.zero
  · rw [if_pos unknown, if_pos unknown]
  · rw [if_neg unknown, if_neg unknown]

theorem parse_of_fault {before after : List (List Char)}
    (split : lines content.toList = before ++ line :: after) (sound : ∀ l ∈ before, Sound l)
    (fault : Fault line e) : parse known content = .error e := by
  have stopped : (scanLines empty (before ++ line :: after)).fault = some e :=
    scanLines_of_fault sound fault empty
  rw [parse, scan, clear, split]
  split <;> simp_all

/-- Sound lines with a time of boot that counts describe what was read. -/
theorem describes_foldl_readLine (sound : ∀ line ∈ ls, Sound line)
    (booted : (ls.foldl readLine empty).bootTime ≠ Counter.zero) :
    Describes (ls.foldl readLine empty) ls where
  bootTime :=
    ((heeds_bootTime sound).latest_or_silent empty).resolve_right fun ⟨_, kept⟩ => booted kept
  counts i := by
    have zero : empty.jiffies.slot i = Counter.zero := by
      rw [Jiffies.slot_eq_iff]
      exact List.getElem?_replicate_of_lt i.isLt
    rw [← zero]
    exact (heeds_slot sound i).latest_or_silent empty
  records id j := (heeds_get? sound id).eq_some_iff (fun _ _ _ h h' => h.unique h') rfl
  ascending := ascending_foldl_readLine sound List.Pairwise.nil

theorem exists_parse_iff :
    (∃ s, parse known content = .ok s) ↔ (∀ line ∈ lines content.toList, Sound line) ∧
      ∃ c, Latest BootsAt (lines content.toList) c ∧ c ≠ Counter.zero := by
  constructor
  · rintro ⟨s, read⟩
    rcases sound_or_exists_first_fault (lines content.toList) with
      sound | ⟨before, line, after, e, split, sound, fault⟩
    · rw [parse_of_sound sound] at read
      split at read
      · cases read
      · next booted => exact ⟨sound, _, (describes_foldl_readLine sound booted).bootTime, booted⟩
    · rw [parse_of_fault split sound fault] at read
      cases read
  · rintro ⟨sound, c, latest, booted⟩
    have told : Latest BootsAt _ ((lines content.toList).foldl readLine empty).bootTime :=
      ((heeds_bootTime sound).latest_or_silent empty).resolve_right fun ⟨silent, _⟩ =>
        latest.not_silent silent
    have same := told.unique (fun _ _ _ h h' => h.unique h') latest
    rw [parse_of_sound sound, if_neg (same ▸ booted)]
    exact ⟨_, rfl⟩

theorem describes_of_parse (read : parse known content = .ok s) :
    Describes s (lines content.toList) := by
  have sound := (exists_parse_iff.mp ⟨s, read⟩).1
  rw [parse_of_sound sound] at read
  split at read
  · cases read
  · next booted =>
    cases read
    exact describes_foldl_readLine sound booted

theorem parse_eq_ok_iff :
    parse known content = .ok s ↔ (∀ line ∈ lines content.toList, Sound line) ∧
      Describes s (lines content.toList) ∧ s.bootTime ≠ Counter.zero := by
  constructor
  · intro read
    obtain ⟨sound, c, latest, booted⟩ := exists_parse_iff.mp ⟨s, read⟩
    have describes := describes_of_parse read
    have same := describes.bootTime.unique (fun _ _ _ h h' => h.unique h') latest
    exact ⟨sound, describes, same ▸ booted⟩
  · rintro ⟨sound, describes, booted⟩
    obtain ⟨s', read⟩ := exists_parse_iff.mpr ⟨sound, _, describes.bootTime, booted⟩
    rw [read, describes.unique (describes_of_parse read)]

theorem first_fault_of_parse (refused : parse known content = .error e) :
    (∃ before line after, lines content.toList = before ++ line :: after ∧
      (∀ l ∈ before, Sound l) ∧ Fault line e) ∨
    (∀ line ∈ lines content.toList, Sound line) ∧ e = .noBootTime := by
  rcases sound_or_exists_first_fault (lines content.toList) with
    sound | ⟨before, line, after, e', split, sound, fault⟩
  · rw [parse_of_sound sound] at refused
    split at refused
    · cases refused
      exact .inr ⟨sound, rfl⟩
    · cases refused
  · rw [parse_of_fault split sound fault] at refused
    cases refused
    exact .inl ⟨before, line, after, split, sound, fault⟩

/-- Nothing of what was known before a report enters into what is read of it. -/
theorem scan_eq (known known' : Stat) (content : String) :
    scan known content = scan known' content := rfl

theorem update_of_parse (s : CpuState) {files : Files} (found : files.read s.path = .ok content)
    (known : Stat) :
    s.update files =
      match parse known content with
      | .ok stat => ⟨.ok (), ⟨s.path, stat⟩⟩
      | .error e => ⟨.error (.malformedStat s.path e), s⟩ := by
  have same : parse known content = parse .empty content := by rw [parse, parse, scan_eq known]
  rw [CpuState.update, Files.sample, found, same]
  dsimp only [Except.mapError]
  cases parse .empty content <;> rfl

theorem update_of_unreadable {s : CpuState} {files : Files} {e : FileError}
    (missing : files.read s.path = .error e) :
    s.update files = ⟨.error (.unreadable s.path e), s⟩ := by
  rw [CpuState.update, Files.sample, missing]
  rfl

/-- A report is accepted exactly if all of its lines are sound and the last time of boot is not
zero. What is then known is what its lines told last. Otherwise the text of the error quotes the
first line at fault, or tells that there is no time of boot if no line is. What was known before
makes no difference to what is read, up to the end or up to the fault. -/
theorem parse_reports (known : Stat) (content : String) :
    ((∃ s, parse known content = .ok s) ↔ (∀ line ∈ lines content.toList, Sound line) ∧
      ∃ c, Latest BootsAt (lines content.toList) c ∧ c ≠ Counter.zero) ∧
    (∀ s, parse known content = .ok s → Describes s (lines content.toList)) ∧
    (∀ e, parse known content = .error e →
      (∃ before line after, lines content.toList = before ++ line :: after ∧
        (∀ l ∈ before, Sound l) ∧ Fault line e ∧
          ∃ start, e.message = start ++ " in line: '" ++ String.ofList line ++ "'") ∨
      (∀ line ∈ lines content.toList, Sound line) ∧ e.message = "empty btime field") ∧
    (∀ known', scan known' content = scan known content ∧
      parse known' content = parse known content) ∧
    ∀ (s : CpuState) (files : Files), files.read s.path = .ok content →
      s.update files =
        match parse known content with
        | .ok stat => ⟨.ok (), ⟨s.path, stat⟩⟩
        | .error e => ⟨.error (.malformedStat s.path e), s⟩ := by
  refine ⟨exists_parse_iff, fun s => describes_of_parse, fun e refused => ?_, fun known' => ?_,
    fun s files found => update_of_parse s found known⟩
  · rcases first_fault_of_parse refused with
      ⟨before, line, after, split, sound, fault⟩ | ⟨sound, rfl⟩
    · exact .inl ⟨before, line, after, split, sound, fault, fault.message_eq⟩
    · exact .inr ⟨sound, rfl⟩
  · have same := scan_eq known' known content
    exact ⟨same, by rw [parse, parse, same]⟩

def overlappingText : String :=
  "cpu 1 2 3\ncpufreq x\ncpu 7\n cpu+1 4 5\ncpu01 6\ncpu-1 y\nbtime 0\nbtime 9\n"

def faultyText : String :=
  "cpu 1 2 3\ncpu0 1 2 3 4 5 6 7 8 9 10 x\ncpu1 4 +x\nbtime y\n"

/-- What was known of a host with two cpus. -/
def twoCpus : Stat :=
  ⟨.ofList [.clamp 1, .clamp 2, .clamp 3, .clamp 4], .clamp 5,
    ⟨[(0, .ofList [.clamp 1]), (1, .ofList [.clamp 0, .clamp 2])]⟩⟩

/-- Short lines, repeated lines and first words that only look like those of counts, and a report
with two lines at fault. -/
theorem parse_reports_overlapping :
    (∃ s, parse twoCpus overlappingText = .ok s ∧ Describes s (lines overlappingText.toList) ∧
      s.jiffies = Jiffies.ofList [Counter.clamp 7, Counter.clamp 2, Counter.clamp 3] ∧
      s.bootTime = Counter.clamp 9 ∧
      s.perCpu.entries = [(1, Jiffies.ofList [Counter.clamp 6])]) ∧
    ∃ e, parse twoCpus faultyText = .error e ∧ ∃ before line after,
      lines faultyText.toList = before ++ line :: after ∧ (∀ l ∈ before, Sound l) ∧ Fault line e ∧
        ∃ start, e.message = start ++ " in line: '" ++ String.ofList line ++ "'" := by
  have refused : parse twoCpus faultyText = .error (.invalidCount "+x" "cpu1 4 +x") := by decide
  refine ⟨⟨_, rfl, (parse_reports twoCpus overlappingText).2.1 _ rfl, rfl, rfl, rfl⟩,
    _, refused, ?_⟩
  refine ((parse_reports twoCpus faultyText).2.2.1 _ refused).resolve_right fun ⟨_, missing⟩ => ?_
  exact absurd missing (by decide)

end HostMonitor.Stat
