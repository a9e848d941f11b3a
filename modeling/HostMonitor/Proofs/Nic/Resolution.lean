import HostMonitor.Proofs.Latest
import HostMonitor.Proofs.Nic.Readings
import HostMonitor.Proofs.Text.Numerals
import HostMonitor.Proofs.Text.Splitting
import Mathlib.Data.List.Induction

/-!
# Addresses of an interface

An interface asks for its addresses at each update until it has one, and never again. What it has
then was told by one list of addresses: each address with all that belongs to it by the last entry
of its family, whatever other entries there are.
-/

namespace HostMonitor

open Text

/-! ## Texts of addresses -/

namespace Text.Radix

theorem digitChar_ne {d : Nat} (small : d < 16) : digitChar d ≠ 'I' := by
  have all : ∀ d < 16, digitChar d ≠ 'I' := by decide
  exact all d small

theorem notMem_hexOnto (n : Nat) {rest : List Char} (h : 'I' ∉ rest) : 'I' ∉ hexOnto n rest := by
  fun_induction hexOnto n rest with
  | case1 n rest small => exact List.not_mem_cons_of_ne_of_not_mem (digitChar_ne small).symm h
  | case2 n rest _ ih =>
    have low : n % 16 < 16 := Nat.mod_lt n (by decide)
    exact ih (List.not_mem_cons_of_ne_of_not_mem (digitChar_ne low).symm h)

end Text.Radix

namespace Ip

theorem notMem_octetsText (n : Nat) : 'I' ∉ octetsText n := by
  intro inside
  rcases mem_joinWith inside with point | ⟨w, hw, inside⟩
  · cases point
  · obtain ⟨octet, -, rfl⟩ := List.mem_map.mp hw
    exact absurd (List.all_eq_true.mp (Numeral.all_digits octet) _ inside) (by decide)

theorem notMem_groupsText (groups : List Nat) : 'I' ∉ groupsText groups := by
  intro inside
  rcases mem_joinWith inside with colon | ⟨w, hw, inside⟩
  · cases colon
  · obtain ⟨group, -, rfl⟩ := List.mem_map.mp hw
    exact Radix.notMem_hexOnto group List.not_mem_nil inside

theorem notMem_v6Text (n : Nat) : 'I' ∉ v6Text n := by
  have octets := notMem_octetsText
  have groups := notMem_groupsText
  unfold v6Text
  split
  · simp [octets]
  · dsimp only
    split <;> simp [groups]

/-- No address is written as the text that stands for none. -/
theorem text_ne_unknownAddress (a : Ip) : a.text ≠ Nic.Record.unknownAddress := by
  intro same
  have letter : 'I' ∈ a.text.toList := by
    rw [same]
    decide
  cases a with
  | v4 bits =>
    rw [text, String.toList_ofList] at letter
    exact notMem_octetsText _ letter
  | v6 bits =>
    rw [text, String.toList_ofList] at letter
    exact notMem_v6Text _ letter

end Ip

namespace Nic

variable {files : Files} {s : State} {r r' : Record} {interface : String} {e : AddressEntry}
  {entries : List AddressEntry}

/-! ## What is told of addresses -/

/-- An entry tells the flags of the interface, whether or not it has an address. -/
def FlagsOf (interface : String) (e : AddressEntry) (flags : UInt32) : Prop :=
  e.name = interface ∧ e.flags = flags

/-- An entry of the interface has an address of four octets, and this is all that belongs to it. -/
def BindsV4 (interface : String) (e : AddressEntry) (b : V4Binding) : Prop :=
  e.name = interface ∧ ∃ bits, e.address = some (.v4 bits) ∧ b = ⟨.v4 bits, e.netmask, e.broadcast⟩

/-- An entry of the interface has an address of eight groups, and this is all that belongs to it. -/
def BindsV6 (interface : String) (e : AddressEntry) (b : V6Binding) : Prop :=
  e.name = interface ∧ ∃ bits, e.address = some (.v6 bits) ∧ b = ⟨.v6 bits, e.netmask, e.scope⟩

namespace Record

/-- An address of either family is shown. -/
def Resolved (r : Record) : Prop :=
  r.v4Address ≠ unknownAddress ∨ r.v6Address ≠ unknownAddress

/-- The flags and both addresses, with all that belongs to them, are the same. -/
structure SameAddresses (r r' : Record) : Prop where
  flags : r.flags = r'.flags
  v4 : r.v4 = r'.v4
  v6 : r.v6 = r'.v6

/-- Flags and addresses are what the last entries of the interface tell. -/
structure ToldBy (r : Record) (interface : String) (entries : List AddressEntry) : Prop where
  flags : Latest (FlagsOf interface) entries r.flags
  v4 : ∀ b, r.v4 = some b ↔ Latest (BindsV4 interface) entries b
  v6 : ∀ b, r.v6 = some b ↔ Latest (BindsV6 interface) entries b

theorem addressText_ne_iff {a : Option Ip} : addressText a ≠ unknownAddress ↔ a.isSome = true := by
  cases a with
  | none => exact iff_of_false (absurd rfl) nofun
  | some ip => exact iff_of_true ip.text_ne_unknownAddress rfl

theorem hasAddress_iff : r.hasAddress = true ↔ r.Resolved := by
  rw [hasAddress, Bool.or_eq_true, Resolved, v4Address, v6Address, addressText_ne_iff,
    addressText_ne_iff, Option.isSome_map, Option.isSome_map]

theorem SameAddresses.refl (r : Record) : SameAddresses r r := ⟨rfl, rfl, rfl⟩

theorem SameAddresses.trans {r'' : Record} (h : SameAddresses r r') (h' : SameAddresses r' r'') :
    SameAddresses r r'' :=
  ⟨h.flags.trans h'.flags, h.v4.trans h'.v4, h.v6.trans h'.v6⟩

theorem SameAddresses.toldBy (h : SameAddresses r r') (told : ToldBy r' interface entries) :
    ToldBy r interface entries := by
  constructor
  · rw [h.flags]
    exact told.flags
  · rw [h.v4]
    exact told.v4
  · rw [h.v6]
    exact told.v6

theorem SameAddresses.resolved_iff (h : SameAddresses r r') : r.Resolved ↔ r'.Resolved := by
  rw [← hasAddress_iff, ← hasAddress_iff, hasAddress, hasAddress, h.v4, h.v6]

/-! ## One list of addresses -/

/-- What an entry may change. -/
theorem learn_cases (r : Record) (e : AddressEntry) :
    (e.address = none ∧ r.learn e = { r with flags := e.flags }) ∨
    (∃ bits, e.address = some (.v4 bits) ∧
      r.learn e = { r with flags := e.flags, v4 := some ⟨.v4 bits, e.netmask, e.broadcast⟩ }) ∨
    ∃ bits, e.address = some (.v6 bits) ∧
      r.learn e = { r with flags := e.flags, v6 := some ⟨.v6 bits, e.netmask, e.scope⟩ } := by
  unfold learn
  cases e.address with
  | none => exact .inl ⟨rfl, rfl⟩
  | some ip =>
    cases ip with
    | v4 bits => exact .inr (.inl ⟨bits, rfl, rfl⟩)
    | v6 bits => exact .inr (.inr ⟨bits, rfl, rfl⟩)

theorem flags_learn (r : Record) (e : AddressEntry) : (r.learn e).flags = e.flags := by
  rcases learn_cases r e with ⟨-, step⟩ | ⟨_, -, step⟩ | ⟨_, -, step⟩ <;> rw [step]

/-- Takes over an entry if it is one of the interface. -/
def learnOwn (interface : String) (r : Record) (e : AddressEntry) : Record :=
  if e.name == interface then r.learn e else r

theorem learnAll_eq (r : Record) (entries : List AddressEntry) :
    r.learnAll entries = entries.foldl (learnOwn r.interface) r := by
  rw [learnAll, List.foldl_filter]
  rfl

theorem learnOwn_of_name_eq (own : e.name = interface) (r : Record) :
    learnOwn interface r e = r.learn e :=
  if_pos (beq_iff_eq.mpr own)

theorem learnOwn_of_name_ne (other : e.name ≠ interface) (r : Record) :
    learnOwn interface r e = r :=
  if_neg (by simpa using other)

/-- A field heeds the entries of the interface if `learn` does with it as they tell. -/
theorem heeds_learnOwn {β : Type} {tells : AddressEntry → β → Prop} {field : Record → β}
    (heard : ∀ (r : Record) e b, tells e b → e.name = interface ∧ field (r.learn e) = b)
    (unheard : ∀ (r : Record) e, e.name = interface → (∀ b, ¬tells e b) →
      field (r.learn e) = field r)
    (entries : List AddressEntry) : Heeds tells entries (learnOwn interface) field := by
  constructor
  · intro r e _ b told
    obtain ⟨own, learned⟩ := heard r e b told
    rw [learnOwn_of_name_eq own, learned]
  · intro r e _ quiet
    by_cases own : e.name = interface
    · rw [learnOwn_of_name_eq own, unheard r e own quiet]
    · rw [learnOwn_of_name_ne own]

theorem heeds_flags (interface : String) (entries : List AddressEntry) :
    Heeds (FlagsOf interface) entries (learnOwn interface) Record.flags := by
  refine heeds_learnOwn ?_ (fun r e own quiet => absurd ⟨own, rfl⟩ (quiet e.flags)) entries
  rintro r e _ ⟨own, rfl⟩
  exact ⟨own, flags_learn r e⟩

theorem heeds_v4 (interface : String) (entries : List AddressEntry) :
    Heeds (fun e o => ∃ b, BindsV4 interface e b ∧ o = some b) entries (learnOwn interface)
      Record.v4 := by
  refine heeds_learnOwn ?_ (fun r e own quiet => ?_) entries
  · rintro r e _ ⟨b, ⟨own, bits, has, rfl⟩, rfl⟩
    rw [learn, has]
    exact ⟨own, rfl⟩
  · rcases learn_cases r e with ⟨-, step⟩ | ⟨bits, has, -⟩ | ⟨_, -, step⟩
    · rw [step]
    · exact absurd ⟨_, ⟨own, bits, has, rfl⟩, rfl⟩ (quiet _)
    · rw [step]

theorem heeds_v6 (interface : String) (entries : List AddressEntry) :
    Heeds (fun e o => ∃ b, BindsV6 interface e b ∧ o = some b) entries (learnOwn interface)
      Record.v6 := by
  refine heeds_learnOwn ?_ (fun r e own quiet => ?_) entries
  · rintro r e _ ⟨b, ⟨own, bits, has, rfl⟩, rfl⟩
    rw [learn, has]
    exact ⟨own, rfl⟩
  · rcases learn_cases r e with ⟨-, step⟩ | ⟨_, -, step⟩ | ⟨bits, has, -⟩
    · rw [step]
    · rw [step]
    · exact absurd ⟨_, ⟨own, bits, has, rfl⟩, rfl⟩ (quiet _)

theorem eq_none_of_not_resolved (h : ¬r.Resolved) : r.v4 = none ∧ r.v6 = none := by
  rw [← hasAddress_iff, hasAddress, Bool.or_eq_true, not_or, Option.not_isSome_iff_eq_none,
    Option.not_isSome_iff_eq_none] at h
  exact h

end Record

theorem BindsV4.unique {b b' : V4Binding} (h : BindsV4 interface e b)
    (h' : BindsV4 interface e b') :
    b = b' := by
  obtain ⟨-, bits, has, rfl⟩ := h
  obtain ⟨-, bits', has', rfl⟩ := h'
  rw [has] at has'
  cases has'
  rfl

theorem BindsV6.unique {b b' : V6Binding} (h : BindsV6 interface e b)
    (h' : BindsV6 interface e b') :
    b = b' := by
  obtain ⟨-, bits, has, rfl⟩ := h
  obtain ⟨-, bits', has', rfl⟩ := h'
  rw [has] at has'
  cases has'
  rfl

namespace Record

variable {b : V4Binding} {b' : V6Binding}

theorem v4_learnAll_eq_some_iff (unknown : ¬r.Resolved) :
    (r.learnAll entries).v4 = some b ↔ Latest (BindsV4 r.interface) entries b := by
  rw [learnAll_eq]
  exact (heeds_v4 r.interface entries).eq_some_iff (fun _ _ _ h h' => h.unique h')
    (eq_none_of_not_resolved unknown).1

theorem v6_learnAll_eq_some_iff (unknown : ¬r.Resolved) :
    (r.learnAll entries).v6 = some b' ↔ Latest (BindsV6 r.interface) entries b' := by
  rw [learnAll_eq]
  exact (heeds_v6 r.interface entries).eq_some_iff (fun _ _ _ h h' => h.unique h')
    (eq_none_of_not_resolved unknown).2

/-- Whoever has no address yet gets one from any list with an address of the interface. -/
theorem resolved_learnAll_iff (unknown : ¬r.Resolved) :
    (r.learnAll entries).Resolved ↔
      ∃ e ∈ entries, e.name = r.interface ∧ e.address.isSome = true := by
  rw [← hasAddress_iff, hasAddress, Bool.or_eq_true, Option.isSome_iff_exists,
    Option.isSome_iff_exists]
  simp only [v4_learnAll_eq_some_iff unknown, v6_learnAll_eq_some_iff unknown]
  constructor
  · rintro (⟨b, latest⟩ | ⟨b, latest⟩)
    · obtain ⟨e, he, own, bits, has, -⟩ := latest.exists_mem
      exact ⟨e, he, own, by rw [has]; rfl⟩
    · obtain ⟨e, he, own, bits, has, -⟩ := latest.exists_mem
      exact ⟨e, he, own, by rw [has]; rfl⟩
  · rintro ⟨e, he, own, some⟩
    obtain ⟨ip, has⟩ := Option.isSome_iff_exists.mp some
    cases ip with
    | v4 bits =>
      refine .inl ((exists_latest_or_silent (BindsV4 r.interface) entries).resolve_right ?_)
      exact fun silent => silent e he _ ⟨own, bits, has, rfl⟩
    | v6 bits =>
      refine .inr ((exists_latest_or_silent (BindsV6 r.interface) entries).resolve_right ?_)
      exact fun silent => silent e he _ ⟨own, bits, has, rfl⟩

/-- Whoever has no address yet has after a list of addresses what this list tells, if it tells
one. -/
theorem toldBy_learnAll (unknown : ¬r.Resolved) (known : (r.learnAll entries).Resolved) :
    ToldBy (r.learnAll entries) r.interface entries := by
  refine ⟨?_, fun b => v4_learnAll_eq_some_iff unknown, fun b => v6_learnAll_eq_some_iff unknown⟩
  have flags := (heeds_flags r.interface entries).latest_or_silent r
  rw [← learnAll_eq] at flags
  -- An address was told, so some entry is one of the interface, and that one tells flags.
  obtain ⟨e, he, own, -⟩ := (resolved_learnAll_iff unknown).mp known
  exact flags.resolve_right fun ⟨silent, _⟩ => silent e he e.flags ⟨own, rfl⟩

end Record

namespace State

open Record

/-! ## Updates -/

/-- The files at the time of an update, and the list of addresses that can be had then. -/
structure Update where
  files : Files
  addresses : Enumeration

def run (s : State) (us : List Update) : State :=
  us.foldl (fun s u => s.update u.files u.addresses) s

variable {later later' : List Update}

theorem run_append (s : State) (us us' : List Update) : s.run (us ++ us') = (s.run us).run us' :=
  List.foldl_append

theorem sameAddresses_readAttributes (s : State) (files : Files) :
    SameAddresses (s.readAttributes files) s.record := by
  constructor
  · exact readAttributes_keeps (fun _ a _ => by cases a <;> rfl) s files
  · exact readAttributes_keeps (fun _ a _ => by cases a <;> rfl) s files
  · exact readAttributes_keeps (fun _ a _ => by cases a <;> rfl) s files

theorem update_of_resolved (h : s.record.Resolved) (files : Files) (addresses : Enumeration) :
    s.update files addresses = { s with record := s.readAttributes files } := by
  have known := hasAddress_iff.mpr ((s.sameAddresses_readAttributes files).resolved_iff.mpr h)
  rw [update, if_pos known]

theorem update_of_not_resolved (h : ¬s.record.Resolved) (files : Files) (addresses : Enumeration) :
    s.update files addresses =
      { s with
        record := (s.readAttributes files).learnAll (addresses.getD [])
        enumerations := s.enumerations + 1 } := by
  have unknown : ¬(s.readAttributes files).hasAddress = true := fun known =>
    h ((s.sameAddresses_readAttributes files).resolved_iff.mp (hasAddress_iff.mp known))
  rw [update, if_neg unknown]

/-- Without a list of addresses only the attributes are read. -/
theorem record_update_none (s : State) (files : Files) :
    (s.update files none).record = s.readAttributes files := by
  by_cases h : s.record.Resolved
  · rw [update_of_resolved h]
  · rw [update_of_not_resolved h]
    rfl

/-- An update finds an address exactly in a list that has one of the interface. -/
theorem resolved_update_iff (h : ¬s.record.Resolved) (files : Files) (addresses : Enumeration) :
    (s.update files addresses).record.Resolved ↔ ∃ entries, addresses = some entries ∧
      ∃ e ∈ entries, e.name = s.record.interface ∧ e.address.isSome = true := by
  have unknown := mt (s.sameAddresses_readAttributes files).resolved_iff.mp h
  cases addresses with
  | none =>
    rw [record_update_none]
    exact iff_of_false unknown nofun
  | some entries =>
    simp only [update_of_not_resolved h, Option.getD_some, Option.some.injEq, exists_eq_left',
      resolved_learnAll_iff unknown, s.interface_readAttributes]

theorem toldBy_update (h : ¬s.record.Resolved) (files : Files)
    (known : (s.update files (some entries)).record.Resolved) :
    ToldBy (s.update files (some entries)).record s.record.interface entries := by
  have unknown := mt (s.sameAddresses_readAttributes files).resolved_iff.mp h
  rw [update_of_not_resolved h] at known ⊢
  rw [← s.interface_readAttributes files]
  exact toldBy_learnAll unknown known

/-- Once there is an address, an update neither asks for one nor changes one. -/
theorem update_same (h : s.record.Resolved) (files : Files) (addresses : Enumeration) :
    (s.update files addresses).enumerations = s.enumerations ∧
      SameAddresses (s.update files addresses).record s.record := by
  rw [update_of_resolved h]
  exact ⟨rfl, s.sameAddresses_readAttributes files⟩

/-! ## Runs -/

theorem run_same (h : s.record.Resolved) (us : List Update) :
    (s.run us).enumerations = s.enumerations ∧ SameAddresses (s.run us).record s.record := by
  induction us generalizing s with
  | nil => exact ⟨rfl, .refl _⟩
  | cons u us ih =>
    obtain ⟨asked, same⟩ := update_same h u.files u.addresses
    obtain ⟨asked', same'⟩ := ih (same.resolved_iff.mpr h)
    exact ⟨asked'.trans asked, same'.trans same⟩

/-- Once there is an address, it does not matter which addresses could be had. -/
theorem run_eq_of_files_eq (h : s.record.Resolved)
    (files : later.map Update.files = later'.map Update.files) : s.run later = s.run later' := by
  induction later generalizing s later' with
  | nil =>
    obtain rfl := List.map_eq_nil_iff.mp files.symm
    rfl
  | cons u later ih =>
    obtain ⟨u', rest, rfl, same, others⟩ := List.map_eq_cons_iff.mp files.symm
    have step : s.update u'.files u'.addresses = s.update u.files u.addresses := by
      rw [update_of_resolved h, update_of_resolved h, same]
    have next := ((update_same h u.files u.addresses).2.resolved_iff.mpr h)
    show (s.update u.files u.addresses).run later = (s.update u'.files u'.addresses).run rest
    rw [step, ih next others.symm]

/-- The addresses of an interface that had none at first are those of the list that told the
first. -/
theorem unresolved_or_toldBy (h : ¬s.record.Resolved) (us : List Update) :
    ¬(s.run us).record.Resolved ∨ ∃ past u later entries, us = past ++ u :: later ∧
      ¬(s.run past).record.Resolved ∧ u.addresses = some entries ∧
        ToldBy (s.run us).record s.record.interface entries := by
  -- By induction from the front: the first update that tells an address is the one.
  induction us generalizing s with
  | nil => exact .inl h
  | cons u us ih =>
    by_cases known : (s.update u.files u.addresses).record.Resolved
    · obtain ⟨entries, told, -⟩ := (resolved_update_iff h u.files u.addresses).mp known
      refine .inr ⟨[], u, us, entries, rfl, h, told, (run_same known us).2.toldBy ?_⟩
      rw [told] at known ⊢
      exact toldBy_update h u.files known
    · rcases ih known with unresolved | ⟨past, v, later, entries, rfl, before, told, holds⟩
      · exact .inl unresolved
      · rw [interface_update] at holds
        exact .inr ⟨u :: past, v, later, entries, rfl, before, told, holds⟩

/-- The state of an interface after some updates. -/
def reached (root : Path) (interface : String) (us : List Update) : State :=
  (start root interface).run us

theorem reached_append (root : Path) (interface : String) (us us' : List Update) :
    reached root interface (us ++ us') = (reached root interface us).run us' :=
  run_append _ us us'

theorem not_resolved_start (root : Path) (interface : String) :
    ¬(start root interface).record.Resolved := by
  rw [← hasAddress_iff]
  exact Bool.false_ne_true

theorem interface_reached (root : Path) (interface : String) (us : List Update) :
    (reached root interface us).record.interface = interface := by
  induction us using List.reverseRecOn with
  | nil => rfl
  | append_singleton us u ih =>
    rw [reached_append]
    exact interface_update.trans ih

/-- An interface asks for its addresses at each update until one has ended with an address, and
never again. An update that asks ends with an address exactly if the list can be had and some entry
of the interface in it has an address, of either family. From then on neither flags nor addresses
change, whatever could be asked for. A list that cannot be had changes nothing, and each address
comes with all that belongs to it from the last entry of its family in one list. -/
theorem reached_resolution (root : Path) (interface : String) :
    (∀ past u, ¬(reached root interface past).record.Resolved →
      (reached root interface (past ++ [u])).enumerations =
        (reached root interface past).enumerations + 1) ∧
    (∀ past later, (reached root interface past).record.Resolved →
      (reached root interface (past ++ later)).enumerations =
        (reached root interface past).enumerations ∧
      SameAddresses (reached root interface (past ++ later)).record
        (reached root interface past).record ∧
      ∀ later', later.map Update.files = later'.map Update.files →
        reached root interface (past ++ later) = reached root interface (past ++ later')) ∧
    (∀ past files,
      (reached root interface (past ++ [⟨files, none⟩])).record =
        (reached root interface past).readAttributes files ∧
      SameAddresses (reached root interface (past ++ [⟨files, none⟩])).record
        (reached root interface past).record) ∧
    (∀ past u, ¬(reached root interface past).record.Resolved →
      ((reached root interface (past ++ [u])).record.Resolved ↔ ∃ entries,
        u.addresses = some entries ∧
          ∃ e ∈ entries, e.name = interface ∧ e.address.isSome = true) ∧
      ∀ entries, u.addresses = some entries →
        (reached root interface (past ++ [u])).record.Resolved →
        ToldBy (reached root interface (past ++ [u])).record interface entries) ∧
    ∀ us, ((reached root interface us).record.v4 = none ∧
        (reached root interface us).record.v6 = none) ∨
      ∃ past u later entries, us = past ++ u :: later ∧
        ¬(reached root interface past).record.Resolved ∧ u.addresses = some entries ∧
          ToldBy (reached root interface us).record interface entries := by
  refine ⟨fun past u unknown => ?_, fun past later known => ?_, fun past files => ?_,
    fun past u unknown => ?_, fun us => ?_⟩
  · rw [reached_append]
    exact congrArg enumerations (update_of_not_resolved unknown u.files u.addresses)
  · obtain ⟨asked, same⟩ := run_same known later
    rw [reached_append]
    refine ⟨asked, same, fun later' files => ?_⟩
    rw [reached_append]
    exact run_eq_of_files_eq known files
  · have read : (reached root interface (past ++ [⟨files, none⟩])).record =
        (reached root interface past).readAttributes files := by
      rw [reached_append]
      exact record_update_none _ files
    rw [read]
    exact ⟨rfl, sameAddresses_readAttributes _ files⟩
  · have found := resolved_update_iff unknown u.files u.addresses
    rw [interface_reached] at found
    rw [reached_append]
    refine ⟨found, fun entries told => ?_⟩
    have tells := @toldBy_update _ entries unknown u.files
    rwa [interface_reached, ← told] at tells
  · exact (unresolved_or_toldBy (not_resolved_start root interface) us).imp_left
      eq_none_of_not_resolved

/-! ## A host that is renumbered -/

def entryOf (name : String) (address : Option Ip) (netmask : Option Ip) : AddressEntry :=
  ⟨name, 4099, address, netmask, none, 2⟩

/-- In vain, for other interfaces only, without an address, and then twice in one list. -/
def renumbering : List Update :=
  [⟨.empty, none⟩, ⟨.empty, some [entryOf "eth1" (some (.v4 0x0A000001)) none]⟩,
    ⟨.empty, some [entryOf "eth0" none none]⟩,
    ⟨.empty, some [entryOf "eth0" (some (.v4 0x0A000002)) (some (.v4 0xFFFFFF00)),
      entryOf "eth0" (some (.v6 1)) none, entryOf "eth0" (some (.v4 0x0A000003)) none,
      entryOf "eth1" (some (.v4 0x0A000004)) (some (.v4 0xFFFF0000)), entryOf "eth0" none none]⟩,
    ⟨.empty, some [entryOf "eth0" (some (.v4 0x0A000005)) (some (.v4 0xFF000000))]⟩]

/-- A list with addresses of both families, but only one of them of the interface. -/
def v6Only : Update :=
  ⟨.empty, some [entryOf "eth1" (some (.v4 0x0A000004)) none, entryOf "eth0" none none,
    entryOf "eth0" (some (.v6 2)) (some (.v6 3))]⟩

theorem reached_resolution_renumbering :
    (reached defaultRoot "eth0" renumbering).enumerations = 4 ∧
    (reached defaultRoot "eth0" renumbering).record.v4Address = "10.0.0.3" ∧
    (reached defaultRoot "eth0" renumbering).record.v4Netmask = "INVALID" ∧
    (reached defaultRoot "eth0" renumbering).record.v6Address = "::1" ∧
    (reached defaultRoot "eth0" [v6Only]).record.Resolved ∧
    (reached defaultRoot "eth0" [v6Only]).record.v4 = none ∧
    (reached defaultRoot "eth0" [v6Only]).record.v6Address = "::2" ∧
    ∃ past u later entries, renumbering = past ++ u :: later ∧
      ¬(reached defaultRoot "eth0" past).record.Resolved ∧ u.addresses = some entries ∧
        ToldBy (reached defaultRoot "eth0" renumbering).record "eth0" entries := by
  obtain ⟨-, -, -, found, told⟩ := reached_resolution defaultRoot "eth0"
  have shown : ((reached defaultRoot "eth0" renumbering).enumerations,
      (reached defaultRoot "eth0" renumbering).record.v4Address,
      (reached defaultRoot "eth0" renumbering).record.v4Netmask,
      (reached defaultRoot "eth0" renumbering).record.v6Address) =
        (4, "10.0.0.3", "INVALID", "::1") := by
    decide +kernel
  obtain ⟨asked, address4, netmask4, address6⟩ := by simpa only [Prod.mk.injEq] using shown
  have start : ¬(reached defaultRoot "eth0" []).record.Resolved := not_resolved_start _ _
  obtain ⟨resolves, -⟩ := found [] v6Only start
  refine ⟨asked, address4, netmask4, address6, resolves.mpr ⟨_, rfl, by decide⟩,
    by decide +kernel, by decide +kernel, (told renumbering).resolve_left fun unknown => ?_⟩
  rw [Record.v4Address, unknown.1] at address4
  exact absurd address4 (by decide)

end State

end Nic

end HostMonitor
