import HostMonitor.Proofs.Placement.Blacklist
import HostMonitor.Settings.Validity
import Mathlib.Data.Option.Basic

/-!
# Where a blacklist comes from

A request may bring a blacklist of its own, which goes before the one of the settings. The two are
read alike, so a text means the same in both places wherever both admit it. They differ in blank
texts: these are the empty blacklist in the settings, and no list in a request. So a request can
replace any blacklist of the settings, but not by a blank text.
-/

namespace HostMonitor

/-- Whether a text has no other characters than blanks. -/
def Text.IsBlank (text : String) : Prop :=
  ∀ c ∈ text.toList, isBlank c = true

instance (text : String) : Decidable (Text.IsBlank text) :=
  List.decidableBAll (Text.isBlank · = true) text.toList

open Text (IsBlank)

/-! ## Blacklists of settings -/

namespace Settings

variable {s : Settings} {text : String}

/-- The settings with another blacklist. -/
def withBlacklist (s : Settings) (blacklist : Option String) : Settings :=
  { s with placement := { s.placement with blacklist } }

theorem blacklistFault?_eq_none_iff :
    s.blacklistFault? = none ↔ ∃ cpus, s.placement.blacklistedCpus = .ok cpus := by
  unfold blacklistFault?
  cases s.placement.blacklistedCpus <;> simp

theorem blacklistedCpus_of_isBlank (blank : IsBlank text) :
    (s.withBlacklist (some text)).placement.blacklistedCpus = .ok [] := by
  have nothing := Text.trim_eq_nil_iff.mpr blank
  simp [withBlacklist, PlacementSettings.blacklistedCpus, nothing]

theorem blacklistedCpus_of_not_isBlank (visible : ¬IsBlank text) :
    (s.withBlacklist (some text)).placement.blacklistedCpus = CpuList.parse text [] := by
  have something := mt Text.trim_eq_nil_iff.mp visible
  simp [withBlacklist, PlacementSettings.blacklistedCpus, something]

/-- The blacklist is what is looked at last. -/
theorem fault?_withBlacklist (s : Settings) (blacklist : Option String) :
    (s.withBlacklist blacklist).fault? =
      (s.withBlacklist none).fault?.or (s.withBlacklist blacklist).blacklistFault? := by
  have without : (s.withBlacklist none).blacklistFault? = none := rfl
  simp only [fault?, List.firstM, id_eq, Option.failure_eq_none, Option.orElse_eq_orElse,
    Option.orElse_eq_or, Option.or_none, without, Option.or_assoc]
  -- The other checks do not see the blacklist.
  rfl

end Settings

/-! ## Blacklists of requests -/

namespace CommandLine

namespace PlacementRequest

variable {q : PlacementRequest} {s : Settings} {text : String} {cpus : List Nat}

/-- The request with another blacklist. -/
def withBlacklist (q : PlacementRequest) (blacklist : Option String) : PlacementRequest :=
  { q with blacklist }

theorem blacklistedCpus_eq_ok_iff :
    (q.withBlacklist (some text)).blacklistedCpus s = .ok cpus ↔
      CpuList.parse text [] = .ok cpus :=
  Except.mapError_eq_ok_iff

theorem blacklistedCpus_none_eq_ok_iff :
    (q.withBlacklist none).blacklistedCpus s = .ok cpus ↔
      s.placement.blacklistedCpus = .ok cpus :=
  Except.mapError_eq_ok_iff

theorem blacklistedCpus_of_isBlank (blank : IsBlank text) :
    (q.withBlacklist (some text)).blacklistedCpus s =
      .error ⟨"Invalid --blacklist: empty list", []⟩ := by
  have nothing : CpuList.parse text [] = .error .empty :=
    CpuList.parse_of_trim_eq_nil (Text.trim_eq_nil_iff.mpr blank)
  simp only [withBlacklist, blacklistedCpus, nothing]
  rfl

end PlacementRequest

/-- Of a blacklist, a request only uses the cpus that it stands for. -/
theorem place_withBlacklist {h : Host} {s : Settings} {q : PlacementRequest}
    {own own' configured configured' : Option String}
    (same : (q.withBlacklist own).blacklistedCpus (s.withBlacklist configured) =
      (q.withBlacklist own').blacklistedCpus (s.withBlacklist configured')) :
    place h (s.withBlacklist configured) (q.withBlacklist own) =
      place h (s.withBlacklist configured') (q.withBlacklist own') := by
  unfold place
  rw [same]
  rfl

theorem place_of_refused {h : Host} {s : Settings} {q : PlacementRequest} {failure : Failure}
    {ds : List Placement.Directive} (asked : q.properties.directives = .ok ds)
    (refused : q.blacklistedCpus s = .error failure) :
    place h s q = .failed h.disk failure "" := by
  simp only [place, asked, refused]

/-- With one text, the blacklist of a request and that of the settings are both accepted or both
refused exactly if the text is not blank. A request whose blacklist is accepted goes as it does with
this text in the settings, under the same cpus, and whatever blacklist the settings have. A blank
text in the settings leaves every cpu to requests, and in a request it is refused. -/
theorem blacklist_sources_agree_iff (h : Host) (s : Settings) (q : PlacementRequest)
    (text : String) :
    (((∃ cpus, (q.withBlacklist (some text)).blacklistedCpus s = .ok cpus) ↔
        (s.withBlacklist (some text)).blacklistFault? = none) ↔ ¬IsBlank text) ∧
      (s.withBlacklist (some text)).fault? =
        (s.withBlacklist none).fault?.or (s.withBlacklist (some text)).blacklistFault? ∧
      (∀ cpus, (q.withBlacklist (some text)).blacklistedCpus s = .ok cpus →
        (s.withBlacklist (some text)).placement.blacklistedCpus = .ok cpus ∧
          place h (s.withBlacklist (some text)) (q.withBlacklist none) =
            place h s (q.withBlacklist (some text))) ∧
      (∀ configured, place h (s.withBlacklist configured) (q.withBlacklist (some text)) =
        place h s (q.withBlacklist (some text))) ∧
      (IsBlank text →
        (s.withBlacklist (some text)).placement.blacklistedCpus = .ok [] ∧
          ∀ ds, q.properties.directives = .ok ds →
            place h s (q.withBlacklist (some text)) =
              .failed h.disk ⟨"Invalid --blacklist: empty list", []⟩ "") := by
  refine ⟨?agree, s.fault?_withBlacklist (some text), ?accepted, fun _ => place_withBlacklist rfl,
    ?blank⟩
  case agree =>
    rw [Settings.blacklistFault?_eq_none_iff]
    by_cases blank : IsBlank text
    · simp [PlacementRequest.blacklistedCpus_of_isBlank blank,
        Settings.blacklistedCpus_of_isBlank blank, blank]
    · simp only [PlacementRequest.blacklistedCpus_eq_ok_iff,
        Settings.blacklistedCpus_of_not_isBlank blank, blank, not_false_eq_true]
  case accepted =>
    intro cpus accepted
    have read := PlacementRequest.blacklistedCpus_eq_ok_iff.mp accepted
    have visible : ¬IsBlank text :=
      fun blank => CpuList.trim_ne_nil_of_parse read (Text.trim_eq_nil_iff.mpr blank)
    have configured := (Settings.blacklistedCpus_of_not_isBlank visible (s := s)).trans read
    have same := (PlacementRequest.blacklistedCpus_none_eq_ok_iff (q := q)).mpr configured
    exact ⟨configured, place_withBlacklist (same.trans accepted.symm)⟩
  case blank =>
    intro blank
    refine ⟨Settings.blacklistedCpus_of_isBlank blank, fun ds asked => ?_⟩
    exact place_of_refused asked (PlacementRequest.blacklistedCpus_of_isBlank blank)

/-- A host with nothing on its disk, whose kernel takes every mask. -/
def emptyHost : Host where
  disk := Disk.empty []
  environment := []
  ownPid := 7
  kernel _ _ := none
  isRoot := false

/-- A request to show what would be done. -/
def dryRequest : PlacementRequest :=
  { cpu := some "0", dryRun := true }

/-- Two cpus, named once in the settings and once in a request, which overrides other settings. -/
theorem blacklist_sources_agree_named :
    (dryRequest.withBlacklist (some " 7, 2")).blacklistedCpus Settings.standard = .ok [2, 7] ∧
      (Settings.standard.withBlacklist (some " 7, 2")).blacklistFault? = none ∧
      place emptyHost (Settings.standard.withBlacklist (some " 7, 2")) dryRequest =
        place emptyHost Settings.standard (dryRequest.withBlacklist (some " 7, 2")) ∧
      place emptyHost (Settings.standard.withBlacklist (some "0-5"))
          (dryRequest.withBlacklist (some " 7, 2")) =
        place emptyHost Settings.standard (dryRequest.withBlacklist (some " 7, 2")) := by
  have read : CpuList.parse " 7, 2" [] = .ok [2, 7] := by cbv
  have accepted := (PlacementRequest.blacklistedCpus_eq_ok_iff (q := dryRequest)
    (s := Settings.standard)).mpr read
  obtain ⟨agree, -, same, overrides, -⟩ :=
    blacklist_sources_agree_iff emptyHost Settings.standard dryRequest " 7, 2"
  have visible : ¬IsBlank " 7, 2" := by decide
  exact ⟨accepted, (agree.mpr visible).mp ⟨_, accepted⟩, (same _ accepted).2,
    overrides (some "0-5")⟩

/-- The empty text is a blacklist in the settings. In a request it is none, so that the request ends
instead of doing without the blacklist of the settings. -/
theorem blank_blacklist_refused :
    (Settings.standard.withBlacklist (some "")).blacklistFault? = none ∧
      (Settings.standard.withBlacklist (some "")).placement.blacklistedCpus = .ok [] ∧
      ¬(∃ cpus, (dryRequest.withBlacklist (some "")).blacklistedCpus
        (Settings.standard.withBlacklist (some "0-3")) = .ok cpus) ∧
      place emptyHost (Settings.standard.withBlacklist (some "0-3"))
          (dryRequest.withBlacklist (some "")) =
        .failed emptyHost.disk ⟨"Invalid --blacklist: empty list", []⟩ "" := by
  have blank : IsBlank "" := by decide
  have nothing := Settings.blacklistedCpus_of_isBlank (s := Settings.standard) blank
  have refused := PlacementRequest.blacklistedCpus_of_isBlank (q := dryRequest)
    (s := Settings.standard.withBlacklist (some "0-3")) blank
  have asked : (dryRequest.withBlacklist (some "")).properties.directives =
      .ok [⟨"cpu", "0"⟩] := rfl
  refine ⟨Settings.blacklistFault?_eq_none_iff.mpr ⟨_, nothing⟩, nothing, ?_,
    place_of_refused asked refused⟩
  simp [refused]

end CommandLine

end HostMonitor
