import HostMonitor.Proofs.Monitor.Watching
import HostMonitor.Proofs.Text.Splitting
import Mathlib.Data.List.Induction
import Mathlib.Data.List.Nodup

/-!
# Devices and their interfaces

The interfaces of one device are those whose names agree up to the first point. However they are
mixed with the interfaces of other devices, each device is there once, in the order of its first
interface, with all its VLANs, and it is measured on one of its interfaces.
-/

namespace HostMonitor

theorem eraseDups_concat {β : Type} [BEq β] [LawfulBEq β] (xs : List β) (x : β) :
    (xs ++ [x]).eraseDups = if x ∈ xs then xs.eraseDups else xs.eraseDups ++ [x] := by
  rw [List.eraseDups_append, List.cons_removeAll, List.nil_removeAll]
  by_cases old : x ∈ xs <;> simp [old, List.eraseDups_cons]

theorem nodup_eraseDups {β : Type} [BEq β] [LawfulBEq β] (xs : List β) : xs.eraseDups.Nodup := by
  induction xs using List.reverseRecOn with
  | nil => exact List.nodup_nil
  | append_singleton xs x ih =>
    rw [eraseDups_concat]
    split
    · exact ih
    · next new =>
      have absent : x ∉ xs.eraseDups := mt List.mem_eraseDups.mp new
      simpa [List.nodup_append, ih] using fun y hy => ne_of_mem_of_not_mem hy absent

namespace Nic

/-- The VLAN of an interface; no text for one that is no VLAN. -/
def vlanOf (interface : String) : String :=
  (splitInterface interface).2

/-- A name is that of a device, or a device and a VLAN with the first point between them. -/
def IsSplit (interface device vlan : String) : Prop :=
  '.' ∉ device.toList ∧ (interface = device ∧ vlan = "" ∨ interface = device ++ "." ++ vlan)

theorem isSplit (interface : String) :
    IsSplit interface (deviceOf interface) (vlanOf interface) := by
  unfold deviceOf vlanOf splitInterface
  split
  · next device vlan parts =>
    obtain ⟨whole, pointless⟩ := Text.cut_eq_some_iff.mp parts
    refine ⟨by simpa using pointless, .inr ?_⟩
    apply String.toList_injective
    simp [whole]
  · next whole => exact ⟨Text.cut_eq_none_iff.mp whole, .inl ⟨rfl, rfl⟩⟩

/-- A device is no VLAN, so it is its own device. -/
theorem deviceOf_deviceOf (interface : String) :
    deviceOf (deviceOf interface) = deviceOf interface := by
  have pointless := (isSplit interface).1
  generalize deviceOf interface = device at pointless
  rw [deviceOf, splitInterface, Text.cut_eq_none_iff.mpr pointless]

end Nic

namespace Device

open Nic (deviceOf vlanOf deviceOf_deviceOf)

variable {α : Type} {d : Device α} {ds : List (Device α)} {seen interfaces : List String}
  {interface device : String} {position source : Nat}

/-! ## Parts of a device -/

/-- The interface at `source` feeds a device: the device itself where it is among the interfaces,
and the first of its VLANs otherwise. -/
def Feeds (interfaces : List String) (device : String) (source : Nat) : Prop :=
  interfaces[source]? = some device ∨
    device ∉ interfaces ∧ interfaces.findIdx? (deviceOf · = device) = some source

/-- The VLANs of a device, each once. -/
def vlansOf (interfaces : List String) (device : String) : List String :=
  (((interfaces.filter (deviceOf · = device)).map vlanOf).filter (· ≠ "")).eraseDups

/-- The devices of some interfaces, in the order in which they first appear. -/
structure Groups (interfaces : List String) (ds : List (Device α)) : Prop where
  names : ds.map name = (interfaces.map deviceOf).eraseDups
  feeds : ∀ d ∈ ds, Feeds interfaces d.name d.source
  vlans : ∀ d ∈ ds, d.throughput.vlans = vlansOf interfaces d.name

theorem Feeds.concat (h : Feeds seen device source) (other : interface ≠ device) :
    Feeds (seen ++ [interface]) device source := by
  rcases h with itself | ⟨absent, first⟩
  · exact .inl (List.getElem?_append_left (List.getElem?_eq_some_iff.mp itself).1 ▸ itself)
  · refine .inr ⟨?_, by rw [List.findIdx?_append, first, Option.some_or]⟩
    simpa [absent] using other.symm

theorem feeds_concat_self (interface : String) :
    Feeds (seen ++ [interface]) interface seen.length :=
  .inl List.getElem?_concat_length

/-- The first interface of a device feeds it. -/
theorem feeds_concat_of_new (new : deviceOf interface ∉ seen.map deviceOf) :
    Feeds (seen ++ [interface]) (deviceOf interface) seen.length := by
  by_cases itself : interface = deviceOf interface
  · rw [← itself]
    exact feeds_concat_self interface
  · have absent : deviceOf interface ∉ seen := fun there =>
      new (List.mem_map.mpr ⟨_, there, deviceOf_deviceOf interface⟩)
    have before : seen.findIdx? (deviceOf · = deviceOf interface) = none := by
      rw [List.findIdx?_eq_none_iff]
      intro other there
      simpa using fun same => new (List.mem_map.mpr ⟨other, there, same⟩)
    refine .inr ⟨by simpa [absent] using Ne.symm itself, ?_⟩
    rw [List.findIdx?_append, before]
    simp

/-- The interface that feeds a device is one of the device. -/
theorem Feeds.exists_source (h : Feeds interfaces device source) (own : deviceOf device = device) :
    ∃ interface, interfaces[source]? = some interface ∧ deviceOf interface = device := by
  rcases h with itself | ⟨-, first⟩
  · exact ⟨device, itself, own⟩
  · obtain ⟨inside, same, -⟩ := List.findIdx?_eq_some_iff_getElem.mp first
    exact ⟨interfaces[source], List.getElem?_eq_getElem inside, of_decide_eq_true same⟩

theorem vlansOf_concat_of_ne (other : deviceOf interface ≠ device) :
    vlansOf (seen ++ [interface]) device = vlansOf seen device := by
  simp [vlansOf, other]

theorem vlansOf_concat_self (seen : List String) (interface : String) :
    vlansOf (seen ++ [interface]) (deviceOf interface) =
      if vlanOf interface = "" ∨ vlanOf interface ∈ vlansOf seen (deviceOf interface) then
        vlansOf seen (deviceOf interface)
      else vlansOf seen (deviceOf interface) ++ [vlanOf interface] := by
  unfold vlansOf
  rw [List.filter_append, List.map_append, List.filter_append]
  by_cases nameless : vlanOf interface = ""
  · simp [nameless]
  · have last : (([interface].filter (deviceOf · = deviceOf interface)).map vlanOf).filter
        (· ≠ "") = [vlanOf interface] := by simp [nameless]
    rw [last, eraseDups_concat]
    simp only [List.mem_eraseDups, nameless, false_or]

theorem vlansOf_eq_nil (new : device ∉ seen.map deviceOf) : vlansOf seen device = [] := by
  have none : seen.filter (deviceOf · = device) = [] := by
    rw [List.filter_eq_nil_iff]
    intro other there
    simpa using fun same => new (List.mem_map.mpr ⟨other, there, same⟩)
  rw [vlansOf, none]
  rfl

/-! ## What groups have in common -/

theorem groups_nil : Groups [] ([] : List (Device α)) where
  names := rfl
  feeds := nofun
  vlans := nofun

theorem Groups.distinct (h : Groups interfaces ds) : (ds.map name).Nodup :=
  h.names ▸ nodup_eraseDups _

theorem Groups.mem_names_iff (h : Groups interfaces ds) :
    device ∈ ds.map name ↔ device ∈ interfaces.map deviceOf := by
  rw [h.names, List.mem_eraseDups]

theorem Groups.deviceOf_name (h : Groups interfaces ds) (hd : d ∈ ds) :
    deviceOf d.name = d.name := by
  obtain ⟨interface, -, same⟩ := List.mem_map.mp (h.mem_names_iff.mp (List.mem_map_of_mem hd))
  rw [← same, deviceOf_deviceOf]

/-- Every interface is one of exactly one device. -/
theorem Groups.exists_filter_eq (h : Groups interfaces ds) (hi : interface ∈ interfaces) :
    ∃ d, ds.filter (·.name = deviceOf interface) = [d] := by
  obtain ⟨d, hd, same⟩ := List.mem_map.mp (h.mem_names_iff.mpr (List.mem_map_of_mem hi))
  obtain ⟨before, after, rfl⟩ := List.append_of_mem hd
  have distinct := h.distinct
  rw [List.map_append, List.map_cons, List.nodup_middle, List.nodup_cons,
    List.mem_append] at distinct
  obtain ⟨others, -⟩ := distinct
  have none : ∀ ds : List (Device α), d.name ∉ ds.map name →
      ds.filter (·.name = deviceOf interface) = [] := by
    intro ds absent
    rw [List.filter_eq_nil_iff]
    intro d' hd'
    simpa [← same] using fun again => absent (List.mem_map.mpr ⟨d', hd', again⟩)
  refine ⟨d, ?_⟩
  rw [List.filter_append, List.filter_cons_of_pos (by simpa using same),
    none before fun there => others (.inl there), none after fun there => others (.inr there)]
  rfl

/-! ## One more interface -/

theorem vlans_addVlan (t : Nic.Throughput α) (vlan : String) :
    (t.addVlan vlan).vlans =
      if vlan = "" ∨ vlan ∈ t.vlans then t.vlans else t.vlans ++ [vlan] := by
  unfold Nic.Throughput.addVlan
  by_cases known : vlan = "" ∨ vlan ∈ t.vlans
  · rw [if_pos (by simpa using known), if_pos known]
  · rw [if_neg (by simpa using known), if_neg known]

theorem vlans_extend (h : d.throughput.vlans = vlansOf seen (deviceOf interface)) :
    (d.extend position interface).throughput.vlans =
      vlansOf (seen ++ [interface]) (deviceOf interface) := by
  rw [vlansOf_concat_self, ← h]
  exact vlans_addVlan d.throughput (vlanOf interface)

theorem feeds_extend (h : Feeds seen d.name d.source) :
    Feeds (seen ++ [interface]) d.name (d.extend seen.length interface).source := by
  unfold extend
  dsimp only
  split
  · next itself => exact itself ▸ feeds_concat_self interface
  · next other => exact h.concat other

variable [Scalar α]

theorem vlans_start (new : deviceOf interface ∉ seen.map deviceOf) :
    (start position interface : Device α).throughput.vlans =
      vlansOf (seen ++ [interface]) (deviceOf interface) := by
  rw [vlansOf_concat_self, vlansOf_eq_nil new]
  exact vlans_addVlan (Nic.Throughput.start _) (vlanOf interface)

/-- After one more interface a device is one of the devices before, untouched or extended, or it is
new. -/
theorem mem_place_cases (distinct : (ds.map name).Nodup) (h : d ∈ place position interface ds) :
    (d ∈ ds ∧ d.name ≠ deviceOf interface) ∨
    (∃ d₀ ∈ ds, d₀.name = deviceOf interface ∧ d = d₀.extend position interface) ∨
    (deviceOf interface ∉ ds.map name ∧ d = start position interface) := by
  induction ds with
  | nil => exact .inr (.inr ⟨List.not_mem_nil, List.mem_singleton.mp h⟩)
  | cons first ds ih =>
    rw [List.map_cons, List.nodup_cons] at distinct
    rw [place_cons] at h
    split at h
    · next same =>
      rcases List.mem_cons.mp h with rfl | h
      · exact .inr (.inl ⟨first, List.mem_cons_self, same, rfl⟩)
      · refine .inl ⟨List.mem_cons_of_mem first h, fun again => distinct.1 ?_⟩
        exact List.mem_map.mpr ⟨d, h, again.trans same.symm⟩
    · next other =>
      rcases List.mem_cons.mp h with rfl | h
      · exact .inl ⟨List.mem_cons_self, other⟩
      rcases ih distinct.2 h with ⟨hd, ne⟩ | ⟨d₀, hd₀, same, rfl⟩ | ⟨new, rfl⟩
      · exact .inl ⟨List.mem_cons_of_mem first hd, ne⟩
      · exact .inr (.inl ⟨d₀, List.mem_cons_of_mem first hd₀, same, rfl⟩)
      · refine .inr (.inr ⟨?_, rfl⟩)
        exact List.not_mem_cons_of_ne_of_not_mem (Ne.symm other) new

/-- What one more interface keeps. -/
theorem Groups.place (h : Groups seen ds) (interface : String) :
    Groups (seen ++ [interface]) (place seen.length interface ds) := by
  constructor
  case names =>
    rw [names_place, List.map_append, List.map_singleton, eraseDups_concat, h.names]
    simp only [List.mem_eraseDups]
  case feeds =>
    intro d hd
    rcases mem_place_cases h.distinct hd with ⟨hd, other⟩ | ⟨d₀, hd₀, same, rfl⟩ | ⟨new, rfl⟩
    · refine (h.feeds d hd).concat fun itself => other ?_
      rw [itself, h.deviceOf_name hd]
    · rw [name_extend]
      exact feeds_extend (h.feeds d₀ hd₀)
    · rw [name_start]
      exact feeds_concat_of_new (mt h.mem_names_iff.mpr new)
  case vlans =>
    intro d hd
    rcases mem_place_cases h.distinct hd with ⟨hd, other⟩ | ⟨d₀, hd₀, same, rfl⟩ | ⟨new, rfl⟩
    · rw [vlansOf_concat_of_ne (Ne.symm other)]
      exact h.vlans d hd
    · rw [name_extend, same]
      exact vlans_extend (same ▸ h.vlans d₀ hd₀)
    · rw [name_start]
      exact vlans_start (mt h.mem_names_iff.mpr new)

/-! ## All interfaces -/

/-- The position of the next interface is the number of those before. -/
theorem Groups.groupFrom (h : Groups seen ds) (interfaces : List String) :
    Groups (seen ++ interfaces) (groupFrom ds seen.length interfaces) := by
  induction interfaces generalizing seen ds with
  | nil => rwa [List.append_nil]
  | cons interface rest ih =>
    rw [List.append_cons]
    have next := ih (h.place interface)
    rwa [List.length_append] at next

/-- Interfaces of any names, in any order, are grouped by their devices. Every interface is one of
exactly one device, and every device is fed by one of its interfaces. -/
theorem group_interfaces (interfaces : List String) :
    let devices : List (Device α) := group interfaces
    (∀ interface ∈ interfaces, Nic.IsSplit interface (deviceOf interface) (vlanOf interface)) ∧
      Groups interfaces devices ∧
      (∀ interface ∈ interfaces, ∃ d, devices.filter (·.name = deviceOf interface) = [d]) ∧
      ∀ d ∈ devices, ∃ source, interfaces[d.source]? = some source ∧ deviceOf source = d.name := by
  intro devices
  have groups : Groups interfaces devices := groups_nil.groupFrom interfaces
  exact ⟨fun interface _ => Nic.isSplit interface, groups, fun _ => groups.exists_filter_eq,
    fun d hd => (groups.feeds d hd).exists_source (groups.deviceOf_name hd)⟩

/-- A device is measured on itself if it can be, wherever it stands. -/
theorem group_interfaces_mixed :
    let interfaces := ["eth0.7", "a.b.c", "eth0", "eth0.5", "a.b", "a..c", "lo"]
    "eth0.7" ∈ interfaces ∧
      ∃ d : Device ℚ, (group interfaces).filter (·.name = "eth0") = [d] ∧ d ∈ group interfaces ∧
        d.source = 2 ∧ d.throughput.vlans = ["7", "5"] ∧
        ∃ source, interfaces[d.source]? = some source ∧ deviceOf source = "eth0" := by
  intro interfaces
  have member : "eth0.7" ∈ interfaces := by decide
  obtain ⟨-, -, once, fed⟩ := group_interfaces (α := ℚ) interfaces
  obtain ⟨d, single⟩ := once "eth0.7" member
  have device : deviceOf "eth0.7" = "eth0" := by decide
  rw [device] at single
  have kept : d ∈ (group interfaces).filter (·.name = "eth0") := single ▸ List.mem_singleton.mpr rfl
  obtain ⟨hd, named⟩ := List.mem_filter.mp kept
  have shown : ((group interfaces : List (Device ℚ)).filter (·.name = "eth0")).map
      (fun d => (d.source, d.throughput.vlans)) = [(2, ["7", "5"])] := by decide
  rw [single, List.map_singleton] at shown
  obtain ⟨source, vlans⟩ := Prod.mk.inj (List.singleton_inj.mp shown)
  have name : d.name = "eth0" := by simpa using named
  exact ⟨member, d, single, hd, source, vlans, name ▸ fed d hd⟩

end Device

end HostMonitor
