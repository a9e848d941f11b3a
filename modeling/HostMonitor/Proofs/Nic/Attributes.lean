import HostMonitor.Proofs.File.Agreement
import HostMonitor.Proofs.File.Joining
import HostMonitor.Proofs.Nic.Resolution
import Mathlib.Data.List.Nodup

/-!
# Attributes and their files

Each of the sixteen attributes of an interface has a file of its own, whatever the interface is
called. An update reads the attribute from that file alone: a file that comes, goes or changes shows
in the attribute that it holds and nowhere else.
-/

namespace HostMonitor.Nic

open Text

variable {a b : Attribute} {content : Option String} {files files' : Files} {r r' : Record}

/-! ## Values -/

/-- What a record holds for an attribute. -/
inductive Value where
  | number (c : Counter)
  | text (s : String)
  deriving DecidableEq, Repr

/-- What the file of an attribute is read as. -/
inductive Kind where
  | number
  | text
  deriving DecidableEq, Repr

namespace Attribute

def kind : Attribute → Kind
  | .macAddress | .state => .text
  | _ => .number

theorem mem_all (a : Attribute) : a ∈ all := by
  cases a <;> decide

end Attribute

/-- Which value stands for the content of a file, if it has any. Blanks at the ends do not count, a
number that does not fit is none, and without a value there is zero or the empty text. -/
inductive Kind.Reads : Kind → Option String → Value → Prop where
  | number {s : String} {c : Counter} (denotes : Numeral.Denotes (trim s.toList) c.value) :
      Reads .number (some s) (.number c)
  | noNumber {content : Option String}
      (none : ∀ s, content = some s → ∀ c : Counter, ¬Numeral.Denotes (trim s.toList) c.value) :
      Reads .number content (.number Counter.zero)
  | text {s : String} : Reads .text (some s) (.text (String.ofList (trim s.toList)))
  | noText : Reads .text none (.text "")

/-- The value that is stored for the content of a file. -/
def Kind.reading (content : Option String) : Kind → Value
  | .number => .number (readCounter content)
  | .text => .text (readText content)

theorem readCounter_of_denotes {s : String} {c : Counter}
    (denotes : Numeral.Denotes (trim s.toList) c.value) : readCounter (some s) = c := by
  simp [readCounter, Counter.read?_eq_some_iff.mpr denotes]

theorem readCounter_of_forall_not_denotes
    (none : ∀ s, content = some s → ∀ c : Counter, ¬Numeral.Denotes (trim s.toList) c.value) :
    readCounter content = Counter.zero := by
  cases content with
  | none => rfl
  | some s => simp [readCounter, Counter.read?_eq_none_iff.mpr (none s rfl)]

theorem Kind.reads_reading (kind : Kind) (content : Option String) :
    kind.Reads content (kind.reading content) := by
  cases kind with
  | text =>
    cases content with
    | none => exact .noText
    | some s => exact .text
  | number =>
    by_cases h : ∃ s, content = some s ∧ ∃ c : Counter, Numeral.Denotes (trim s.toList) c.value
    · obtain ⟨s, rfl, c, denotes⟩ := h
      rw [reading, readCounter_of_denotes denotes]
      exact .number denotes
    · have none : ∀ s, content = some s → ∀ c : Counter, ¬Numeral.Denotes (trim s.toList) c.value :=
        fun s held c denotes => h ⟨s, held, c, denotes⟩
      rw [reading, readCounter_of_forall_not_denotes none]
      exact .noNumber none

theorem Kind.reads_iff {kind : Kind} {v : Value} :
    kind.Reads content v ↔ kind.reading content = v := by
  constructor
  · intro reads
    cases reads with
    | number denotes => rw [reading, readCounter_of_denotes denotes]
    | noNumber none => rw [reading, readCounter_of_forall_not_denotes none]
    | text => rfl
    | noText => rfl
  · rintro rfl
    exact kind.reads_reading content

namespace Record

def value (r : Record) : Attribute → Value
  | .rxBytes => .number r.rxBytes
  | .rxPackets => .number r.rxPackets
  | .rxErrors => .number r.rxErrors
  | .rxDropped => .number r.rxDropped
  | .rxCompressed => .number r.rxCompressed
  | .rxCrcErrors => .number r.rxCrcErrors
  | .txBytes => .number r.txBytes
  | .txPackets => .number r.txPackets
  | .txErrors => .number r.txErrors
  | .txDropped => .number r.txDropped
  | .txCompressed => .number r.txCompressed
  | .txQueueLength => .number r.txQueueLength
  | .macAddress => .text r.macAddress
  | .speed => .number r.speed
  | .mtu => .number r.mtu
  | .state => .text r.state

/-- Two records are the same but for one attribute. -/
structure AgreeOff (a : Attribute) (r r' : Record) : Prop extends SameAddresses r r' where
  interface : r.interface = r'.interface
  value : ∀ b, b ≠ a → r.value b = r'.value b

/-- The attributes, the addresses and the name are all there is of a record. -/
theorem AgreeOff.eq (agree : AgreeOff a r r') (same : r.value a = r'.value a) : r = r' := by
  have values : ∀ b, r.value b = r'.value b := fun b =>
    if h : b = a then h ▸ same else agree.value b h
  have number : ∀ {c c' : Counter}, Value.number c = .number c' → c = c' := Value.number.inj
  have text : ∀ {s s' : String}, Value.text s = .text s' → s = s' := Value.text.inj
  obtain ⟨⟨flags, v4, v6⟩, interface, -⟩ := agree
  cases r
  cases r'
  simp only at interface flags v4 v6
  subst interface flags v4 v6
  simp only [Record.mk.injEq, true_and]
  exact ⟨text (values .macAddress), number (values .speed), number (values .mtu),
    text (values .state), number (values .txQueueLength), number (values .rxBytes),
    number (values .rxPackets), number (values .rxErrors), number (values .rxDropped),
    number (values .rxCompressed), number (values .rxCrcErrors), number (values .txBytes),
    number (values .txPackets), number (values .txErrors), number (values .txDropped),
    number (values .txCompressed)⟩

end Record

/-! ## Reading all attributes -/

theorem Record.value_set (r : Record) (a b : Attribute) (content : Option String) :
    (r.set a content).value b = if b = a then a.kind.reading content else r.value b := by
  cases a <;> cases b <;> rfl

/-- An attribute that is read has the value of its own content, any other keeps what it had. -/
theorem value_foldl_set (attributes : List Attribute) (content : Attribute → Option String)
    (r : Record) (b : Attribute) :
    (attributes.foldl (fun r a => r.set a (content a)) r).value b =
      if b ∈ attributes then b.kind.reading (content b) else r.value b := by
  induction attributes generalizing r with
  | nil => rfl
  | cons a rest ih =>
    rw [List.foldl_cons, ih, Record.value_set]
    by_cases later : b ∈ rest
    · rw [if_pos later, if_pos (List.mem_cons_of_mem a later)]
    · by_cases here : b = a
      · subst here
        rw [if_neg later, if_pos rfl, if_pos List.mem_cons_self]
      · rw [if_neg later, if_neg here, if_neg (List.not_mem_cons_of_ne_of_not_mem here later)]

theorem value_readAttributes (s : State) (files : Files) (a : Attribute) :
    (s.readAttributes files).value a =
      a.kind.reading (files.read? (s.directory.child a.file)) :=
  (value_foldl_set Attribute.all _ s.record a).trans (if_pos a.mem_all)

/-! ## Files -/

theorem steps_file_injective :
    Function.Injective fun a : Attribute => (Path.ofString a.file).steps := by
  have distinct : (Attribute.all.map fun a => (Path.ofString a.file).steps).Nodup := by
    decide +kernel
  intro a b same
  exact List.inj_on_of_nodup_map distinct a.mem_all b.mem_all same

theorem not_isAbsolute_file (a : Attribute) : (Path.ofString a.file).isAbsolute = false := by
  cases a <;> decide

theorem components_file (a : Attribute) :
    (Path.ofString a.file).components = (Path.ofString a.file).steps := by
  cases a <;> decide

/-- The directory may be any path, also one that ends in a slash, leads up or is empty. -/
theorem components_child_file (directory : Path) (a : Attribute) :
    (directory.child a.file).components =
      directory.components ++ (Path.ofString a.file).steps := by
  by_cases empty : directory.components = []
  · rw [Path.child, Path.join_of_components_eq_nil empty, empty, List.nil_append,
      components_file]
  · exact Path.components_join empty (not_isAbsolute_file a) (Path.pieces_ofString_ne_nil a.file)

/-- No two attributes share a file. -/
theorem same_child_file (directory : Path) (h : b ≠ a) :
    (directory.child b.file).same (directory.child a.file) = false := by
  rw [← Bool.not_eq_true, Path.same_iff, components_child_file, components_child_file]
  exact fun same => h (steps_file_injective (List.append_cancel_left same))

/-! ## Updates -/

theorem value_learnAll (r : Record) (entries : List AddressEntry) (a : Attribute) :
    (r.learnAll entries).value a = r.value a := by
  obtain ⟨flags, v4, v6, learned⟩ := exists_learnAll r entries
  rw [learned]
  cases a <;> rfl

namespace Record.SameAddresses

theorem symm (same : SameAddresses r r') : SameAddresses r' r :=
  ⟨same.flags.symm, same.v4.symm, same.v6.symm⟩

theorem learn (same : SameAddresses r r') (e : AddressEntry) :
    SameAddresses (r.learn e) (r'.learn e) := by
  obtain ⟨-, v4, v6⟩ := same
  unfold Record.learn
  cases e.address with
  | none => exact ⟨rfl, v4, v6⟩
  | some ip =>
    cases ip with
    | v4 bits => exact ⟨rfl, rfl, v6⟩
    | v6 bits => exact ⟨rfl, v4, rfl⟩

theorem learnAll (same : SameAddresses r r') (interface : r.interface = r'.interface)
    (entries : List AddressEntry) : SameAddresses (r.learnAll entries) (r'.learnAll entries) := by
  rw [Record.learnAll, Record.learnAll, interface]
  generalize entries.filter (·.name == r'.interface) = own
  clear interface
  induction own generalizing r r' with
  | nil => exact same
  | cons e rest ih => exact ih (same.learn e)

end Record.SameAddresses

theorem Record.AgreeOff.learnAll (agree : AgreeOff a r r') (entries : List AddressEntry) :
    AgreeOff a (r.learnAll entries) (r'.learnAll entries) where
  toSameAddresses := agree.toSameAddresses.learnAll agree.interface entries
  interface := by rw [interface_learnAll, interface_learnAll, agree.interface]
  value b other := by rw [value_learnAll, value_learnAll, agree.value b other]

namespace State

variable {s : State}

theorem agreeOff_readAttributes
    (agree : Files.AgreeOff (s.directory.child a.file) files files') :
    Record.AgreeOff a (s.readAttributes files) (s.readAttributes files') where
  toSameAddresses := (s.sameAddresses_readAttributes files).trans
    (s.sameAddresses_readAttributes files').symm
  interface := by rw [interface_readAttributes, interface_readAttributes]
  value b other := by
    rw [value_readAttributes, value_readAttributes, agree.read? (same_child_file _ other)]

theorem agreeOff_update (addresses : Enumeration)
    (agree : Files.AgreeOff (s.directory.child a.file) files files') :
    Record.AgreeOff a (s.update files addresses).record (s.update files' addresses).record := by
  have attributes := agreeOff_readAttributes agree
  by_cases h : s.record.Resolved
  · rw [update_of_resolved h, update_of_resolved h]
    exact attributes
  · rw [update_of_not_resolved h, update_of_not_resolved h]
    exact attributes.learnAll _

theorem value_update (s : State) (files : Files) (addresses : Enumeration) (a : Attribute) :
    (s.update files addresses).record.value a =
      a.kind.reading (files.read? (s.directory.child a.file)) := by
  rw [← value_readAttributes]
  by_cases h : s.record.Resolved
  · rw [update_of_resolved h]
  · rw [update_of_not_resolved h]
    exact value_learnAll _ _ a

theorem update_eq_of_record_eq (addresses : Enumeration)
    (same : (s.update files addresses).record = (s.update files' addresses).record) :
    s.update files addresses = s.update files' addresses := by
  by_cases h : s.record.Resolved
  · rw [update_of_resolved h, update_of_resolved h] at same ⊢
    exact congrArg (fun record => { s with record }) same
  · rw [update_of_not_resolved h, update_of_not_resolved h] at same ⊢
    exact congrArg (fun record => { s with record, enumerations := s.enumerations + 1 }) same

/-- An update reads each attribute from its own file and from nothing else: whatever the interface
is called and whatever was known of it before, two updates with files that differ in the file of one
attribute alone agree on all that is known but this attribute. The attribute is what its file holds
then, and zero or empty where that is no value for it. -/
theorem update_agreeOff (s : State) (a : Attribute) (files files' : Files) (addresses : Enumeration)
    (agree : Files.AgreeOff (s.directory.child a.file) files files') :
    let t := s.update files addresses
    let t' := s.update files' addresses
    Record.AgreeOff a t.record t'.record ∧
      (t.record.value a = t'.record.value a → t = t') ∧
      (∀ v, t.record.value a = v ↔ a.kind.Reads (files.read? (s.directory.child a.file)) v) ∧
      (∀ v, t'.record.value a = v ↔ a.kind.Reads (files'.read? (s.directory.child a.file)) v) := by
  intro t t'
  have others : Record.AgreeOff a t.record t'.record := agreeOff_update addresses agree
  refine ⟨others, fun same => update_eq_of_record_eq addresses (others.eq same), fun v => ?_,
    fun v => ?_⟩
  · rw [Kind.reads_iff, ← s.value_update files addresses]
  · rw [Kind.reads_iff, ← s.value_update files' addresses]

/-- Some files of an interface, as the kernel writes them and not. -/
def written (directory : Path) : FileTree :=
  FileTree.ofList [(directory.child Attribute.rxBytes.file, " +12 \n"),
    (directory.child Attribute.txBytes.file, "2000\n"),
    (directory.child Attribute.mtu.file, "-1\n"),
    (directory.child Attribute.state.file, "\tup \n")]

/-- The received bytes are there at the first update and gone at the second. -/
theorem update_agreeOff_removed :
    let s := (start defaultRoot "eth0").update (written (defaultRoot.child "eth0")).files none
    let path := s.directory.child Attribute.rxBytes.file
    let gone := (written s.directory).remove path
    Files.AgreeOff path gone.files (written s.directory).files ∧
      Record.AgreeOff .rxBytes (s.update gone.files none).record
        (s.update (written s.directory).files none).record ∧
      s.record.rxBytes.value = 12 ∧ (s.update gone.files none).record.rxBytes = Counter.zero ∧
      (s.update gone.files none).record.txBytes.value = 2000 ∧
      (s.update gone.files none).record.mtu = Counter.zero ∧
      (s.update gone.files none).record.state = "up" := by
  intro s path gone
  have agree : Files.AgreeOff path gone.files (written s.directory).files :=
    FileTree.agreeOff_remove _ _
  obtain ⟨others, -, -, -⟩ := s.update_agreeOff .rxBytes _ _ none agree
  refine ⟨agree, others, ?_⟩
  decide +kernel

end State

end HostMonitor.Nic
