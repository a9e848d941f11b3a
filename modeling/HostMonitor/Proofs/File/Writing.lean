import Mathlib.Data.List.Basic
import HostMonitor.File.Disk
import HostMonitor.Proofs.Except
import HostMonitor.Proofs.File.Joining

/-!
# Writing to a disk

A file that is written either was there or takes a free place, so every directory and every file
stays where it is. What a new file can change is the fate of a path that leads on through its place:
before that nothing was there, and afterwards a file is in the way. All other paths lead where they
led before, and can be written exactly if they could be written before, as long as the system has
the same against it.
-/

namespace HostMonitor.Disk

variable {d d' : Disk} {here place p front rest pieces : List String} {path : Path}
  {piece : String} {created : List String → Prop} {content : Option String}

/-! ## Places -/

theorem node?_nil (d : Disk) : d.node? [] = some .directory := rfl

theorem node?_put (h : place ≠ []) (d : Disk) (node : DiskNode) (p : List String) :
    (d.put place node).node? p = if p = place then some node else d.node? p := by
  unfold node? put
  by_cases top : p = []
  · simp [top, Ne.symm h]
  · by_cases same : p = place
    · simp [same, h]
    · simp only [List.isEmpty_iff, top, if_false, same, List.find?_cons, Ne.symm same, decide_false,
        List.find?_filter]
      grind

/-- What is there and is no directory is a file. -/
theorem exists_file (there : d.node? place ≠ none) (plain : d.node? place ≠ some .directory) :
    ∃ content, d.node? place = some (.file content) := by
  rcases hn : d.node? place with _ | _ | content
  · exact absurd hn there
  · exact absurd hn plain
  · exact ⟨content, rfl⟩

/-! ## Walks -/

/-- Whether a piece names an entry of the directory that a walk has reached. -/
def IsEntry (piece : String) : Prop :=
  ¬(piece = "" || piece = ".") = true ∧ ¬piece = ".." ∧ ¬nameLimit < piece.utf8ByteSize

theorem walk_idle (idle : (piece = "" || piece = ".") = true) :
    d.walk here (piece :: rest) = d.walk here rest := by
  rw [walk, if_pos idle]

theorem walk_up (d : Disk) (here rest : List String) :
    d.walk here (".." :: rest) = d.walk here.dropLast rest := by
  rw [walk, if_neg (by decide), if_pos rfl]

theorem walk_entry (h : IsEntry piece) :
    d.walk here (piece :: rest) =
      match d.node? (here ++ [piece]) with
      | some .directory => d.walk (here ++ [piece]) rest
      | some (.file content) =>
        if rest.isEmpty then .ok (.found (here ++ [piece]) (.file content))
        else .error .notDirectory
      | none =>
        if rest.all (· == "") then .ok (.free (here ++ [piece]) !rest.isEmpty)
        else .error .noEntry := by
  rw [walk, if_neg h.1, if_neg h.2.1]
  exact if_neg h.2.2

theorem walk_directory (h : IsEntry piece)
    (there : d.node? (here ++ [piece]) = some .directory) :
    d.walk here (piece :: rest) = d.walk (here ++ [piece]) rest := by
  rw [walk_entry h, there]

/-- What a walk finds is where it says, and what it calls free is not there. -/
theorem node?_of_walk {found : Lookup} (h : d.walk here pieces = .ok found) :
    (∀ place content, found = .found place (.file content) →
      d.node? place = some (.file content)) ∧
    ∀ place asDirectory, found = .free place asDirectory → d.node? place = none := by
  fun_induction walk d here pieces with
  | case1 => grind
  | case2 _ _ _ _ ih => exact ih h
  | case3 _ _ _ ih => exact ih h
  | case4 => cases h
  | case5 _ _ _ _ _ _ _ _ ih => exact ih h
  | case6 => grind
  | case7 => cases h
  | case8 => grind
  | case9 => cases h

/-! ## Where a write goes -/

/-- The directory at which a path starts. -/
def start (d : Disk) (path : Path) : List String :=
  if path.isAbsolute then [] else d.workingDirectory

def writePlaceFrom (d : Disk) (here pieces : List String) : Except SystemError (List String) :=
  d.walk here pieces >>= Lookup.writePlace

/-- A path is refused for its text alone, or it is walked. -/
theorem lookup_cases (given : path.text ≠ "") :
    (∃ e, e ≠ .system .noEntry ∧ ∀ d : Disk, d.lookup path = .error e) ∨
      ∀ d : Disk, d.lookup path = (d.walk (d.start path) path.pieces).mapError .system := by
  unfold lookup
  simp only [given, if_false]
  split
  · exact .inl ⟨_, by simp, fun _ => rfl⟩
  split
  · exact .inl ⟨_, by simp, fun _ => rfl⟩
  · exact .inr fun _ => rfl

theorem writePlace_of_lookup
    (h : d.lookup path = (d.walk (d.start path) path.pieces).mapError .system) :
    d.writePlace path = (d.writePlaceFrom (d.start path) path.pieces).mapError .system := by
  unfold writePlace writePlaceFrom
  rw [h]
  cases d.walk (d.start path) path.pieces <;> rfl

theorem walk_of_lookup {found : Lookup} (h : d.lookup path = .ok found) :
    d.walk (d.start path) path.pieces = .ok found := by
  unfold lookup at h
  dsimp only at h
  split at h
  · cases h
  split at h
  · cases h
  split at h
  · cases h
  · exact Except.mapError_eq_ok_iff.mp h

theorem node?_of_writePlace (h : d.writePlace path = .ok place) :
    d.node? place ≠ some .directory := by
  obtain ⟨found, looked, hf⟩ := Except.bind_eq_ok_iff.mp h
  obtain ⟨file, free⟩ := node?_of_walk (walk_of_lookup looked)
  have hp := Except.mapError_eq_ok_iff.mp hf
  match found with
  | .found _ .directory => cases hp
  | .found place (.file content) =>
    cases hp
    simp [file place content rfl]
  | .free place false =>
    cases hp
    simp [free place false rfl]

/-! ## Refusals -/

/-- The system has the same against writing the file when the disk holds what `d'` does. -/
def RefusesAlike (d d' : Disk) (path : Path) : Prop :=
  d.refusals.opening d'.nodes path = d.refusals.opening d.nodes path ∧
    d.refusals.writing d'.nodes path = d.refusals.writing d.nodes path

theorem openPlace_of_none (granted : d.refusals.opening d.nodes path = none) :
    d.openPlace path = d.writePlace path := by
  rw [openPlace, granted]

theorem openPlace_eq_ok_iff :
    d.openPlace path = .ok place ↔
      d.refusals.opening d.nodes path = none ∧ d.writePlace path = .ok place := by
  unfold openPlace
  split
  · next refused => simp [refused]
  · next granted => simp [granted]

theorem write_of_error {e : FileError} (refused : d.openPlace path = .error e) (content : String) :
    d.write path content = ⟨.error e, d⟩ := by
  rw [write, refused]

theorem write_of_interrupted {count : Nat} {e : SystemError} (opened : d.openPlace path = .ok place)
    (ended : d.refusals.writing d.nodes path = some (count, e)) (content : String) :
    d.write path content =
      ⟨.error (.system e),
        d.put place (.file (some (String.ofList (content.toList.take count))))⟩ := by
  rw [write, opened]
  simp only [ended]

theorem write_of_ok (opened : d.openPlace path = .ok place)
    (free : d.refusals.writing d.nodes path = none) (content : String) :
    d.write path content = ⟨.ok (), d.put place (.file (some content))⟩ := by
  rw [write, opened]
  simp only [free]

/-- The disk that is left when the writing of a file ends before all of `content` is in it. -/
def IsInterrupted (d : Disk) (path : Path) (content : String) (d' : Disk) : Prop :=
  ∃ place count e, d.openPlace path = .ok place ∧
    d.refusals.writing d.nodes path = some (count, e) ∧
    d' = d.put place (.file (some (String.ofList (content.toList.take count))))

theorem write_cases (d : Disk) (path : Path) (content : String) :
    (∃ place, d.openPlace path = .ok place ∧ d.refusals.writing d.nodes path = none) ∨
      ∃ e, (d.write path content).result = .error e ∧
        ((d.write path content).state = d ∨
          d.IsInterrupted path content (d.write path content).state) := by
  cases opened : d.openPlace path with
  | error e => exact .inr ⟨e, by simp [write_of_error opened]⟩
  | ok place =>
    cases ended : d.refusals.writing d.nodes path with
    | none => exact .inl ⟨place, rfl, rfl⟩
    | some stop =>
      obtain ⟨count, e⟩ := stop
      rw [write_of_interrupted opened ended]
      exact .inr ⟨_, rfl, .inr ⟨place, count, e, opened, ended, rfl⟩⟩

/-! ## Files in the way -/

/-- Whether a walk leads to a free place and on from there. -/
def Crosses (d : Disk) (here pieces place : List String) : Prop :=
  ∃ front rest, pieces = front ++ rest ∧ rest ≠ [] ∧ d.walk here front = .ok (.free place false)

theorem Crosses.cons {above : List String} (h : d.Crosses above pieces place)
    (step : ∀ rest, d.walk here (piece :: rest) = d.walk above rest) :
    d.Crosses here (piece :: pieces) place := by
  obtain ⟨front, rest, rfl, more, walked⟩ := h
  exact ⟨piece :: front, rest, rfl, more, (step front).trans walked⟩

theorem crosses_entry (h : IsEntry piece) (free : d.node? (here ++ [piece]) = none)
    (more : rest ≠ []) : d.Crosses here (piece :: rest) (here ++ [piece]) :=
  ⟨[piece], rest, rfl, more, by rw [walk_entry h, free]; rfl⟩

/-- A file that may be opened is not found since nothing is at `place`, through which its path
goes. -/
def MissesAt (d : Disk) (path : Path) (place : List String) : Prop :=
  d.refusals.opening d.nodes path = none ∧ d.lookup path = .error (.system .noEntry) ∧
    d.Crosses (d.start path) path.pieces place

theorem MissesAt.openPlace_eq (h : d.MissesAt path place) :
    d.openPlace path = .error (.system .noEntry) := by
  rw [openPlace_of_none h.1, writePlace, h.2.1]
  rfl

/-- A disk and the same one with files at some places where nothing was. -/
structure Filled (d : Disk) (created : List String → Prop) (d' : Disk) : Prop where
  workingDirectory : d'.workingDirectory = d.workingDirectory
  refusals : d'.refusals = d.refusals
  directory : ∀ place, d'.node? place = some .directory ↔ d.node? place = some .directory
  missing : ∀ place, d'.node? place = none ↔ d.node? place = none ∧ ¬created place

namespace Filled

theorem refl (d : Disk) : d.Filled (fun _ => False) d :=
  ⟨rfl, rfl, fun _ => Iff.rfl, fun _ => by simp⟩

theorem file_of_created (h : d.Filled created d') (free : d.node? place = none)
    (hc : created place) : ∃ content, d'.node? place = some (.file content) := by
  have there := mt (h.missing place).mp (by simp [hc])
  have plain := mt (h.directory place).mp (by simp [free])
  exact exists_file there plain

theorem file_of_file (h : d.Filled created d') (there : d.node? place = some (.file content)) :
    ∃ content, d'.node? place = some (.file content) := by
  have kept := mt (h.missing place).mp (by simp [there])
  have plain := mt (h.directory place).mp (by simp [there])
  exact exists_file kept plain

/-- A walk that goes on from a free place comes by this place, whatever has been filled. -/
theorem exists_entry_of_free (h : d.Filled created d')
    (walked : d.walk here front = .ok (.free place false)) :
    ∃ above piece, place = above ++ [piece] ∧ IsEntry piece ∧
      ∀ rest, d'.walk here (front ++ rest) = d'.walk above (piece :: rest) := by
  fun_induction walk d here front with
  | case1 => cases walked
  | case2 here piece front idle ih =>
    obtain ⟨above, last, rfl, entry, same⟩ := ih walked
    exact ⟨above, last, rfl, entry, fun rest => (walk_idle idle).trans (same rest)⟩
  | case3 here front idle ih =>
    obtain ⟨above, last, rfl, entry, same⟩ := ih walked
    exact ⟨above, last, rfl, entry, fun rest => (walk_up d' here _).trans (same rest)⟩
  | case4 => cases walked
  | case5 here piece front counts down short _ there ih =>
    obtain ⟨above, last, rfl, entry, same⟩ := ih walked
    have step := (h.directory _).mpr there
    exact ⟨above, last, rfl, entry, fun rest =>
      (walk_directory ⟨counts, down, short⟩ step).trans (same rest)⟩
  | case6 => cases walked
  | case7 => cases walked
  | case8 here piece front counts down short _ free last =>
    simp only [Except.ok.injEq, Lookup.free.injEq, Bool.not_eq_false', List.isEmpty_iff] at walked
    obtain ⟨rfl, rfl⟩ := walked
    exact ⟨here, piece, rfl, ⟨counts, down, short⟩, fun rest => rfl⟩
  | case9 => cases walked

/-- A walk on from a place that has been filled is stopped there. -/
theorem walk_of_crosses (h : d.Filled created d') (hc : created place)
    (through : d.Crosses here pieces place) : d'.walk here pieces = .error .notDirectory := by
  obtain ⟨front, rest, rfl, more, walked⟩ := through
  have free := (node?_of_walk walked).2 place false rfl
  obtain ⟨content, there⟩ := h.file_of_created free hc
  obtain ⟨above, piece, rfl, entry, same⟩ := h.exists_entry_of_free walked
  rw [same, walk_entry entry, there]
  simp only [List.isEmpty_iff, more, if_false]

/-- Nothing but slashes can follow a free place. -/
theorem walk_of_crosses_named (through : d.Crosses here pieces place)
    (named : ∃ before last, pieces = before ++ [last] ∧ last ≠ "") :
    d.walk here pieces = .error .noEntry := by
  obtain ⟨front, rest, rfl, more, walked⟩ := through
  have free := (node?_of_walk walked).2 place false rfl
  obtain ⟨above, piece, rfl, entry, same⟩ := (refl d).exists_entry_of_free walked
  have goesOn : (rest.all (· == "")) = false := by
    obtain ⟨before, last, split, hl⟩ := named
    obtain ⟨rest, last', rfl⟩ := (List.eq_nil_or_concat rest).resolve_left more
    rw [List.concat_eq_append, ← List.append_assoc] at split
    obtain rfl := List.singleton_inj.mp (List.append_inj' split rfl).2
    simp [hl]
  rw [same, walk_entry entry, free]
  simp only [goesOn]
  rfl

/-- A walk that does not go on through a place that has been filled ends as before. -/
theorem writePlaceFrom_of_clear (h : d.Filled created d')
    (clear : ∀ place, created place → ¬d.Crosses here pieces place) :
    d'.writePlaceFrom here pieces = d.writePlaceFrom here pieces := by
  unfold writePlaceFrom
  fun_induction walk d here pieces with
  | case1 => rfl
  | case2 here piece rest idle ih =>
    rw [walk_idle idle]
    exact ih fun place hc through => clear place hc (through.cons fun _ => walk_idle idle)
  | case3 here rest idle ih =>
    rw [walk_up]
    exact ih fun place hc through => clear place hc (through.cons (walk_up d here))
  | case4 here piece rest idle up long => rw [walk, if_neg idle, if_neg up, if_pos long]
  | case5 here piece rest counts down short _ there ih =>
    have entry : IsEntry piece := ⟨counts, down, short⟩
    rw [walk_directory entry ((h.directory _).mpr there)]
    exact ih fun place hc through =>
      clear place hc (through.cons fun _ => walk_directory entry there)
  | case6 here piece rest counts down short _ content there last =>
    obtain ⟨content', there'⟩ := h.file_of_file there
    rw [walk_entry ⟨counts, down, short⟩, there']
    simp only [last, if_true]
    rfl
  | case7 here piece rest counts down short _ content there more =>
    obtain ⟨content', there'⟩ := h.file_of_file there
    rw [walk_entry ⟨counts, down, short⟩, there']
    simp only [more]
    rfl
  | case8 here piece rest counts down short _ free idle =>
    rw [walk_entry ⟨counts, down, short⟩]
    cases rest with
    | nil =>
      -- The place itself can be written whether it is free or holds a file by now.
      rcases hn : d'.node? (here ++ [piece]) with _ | _ | content
      · rfl
      · rw [(h.directory _).mp hn] at free
        cases free
      · rfl
    | cons piece' rest =>
      have kept := fun hc => clear _ hc (crosses_entry ⟨counts, down, short⟩ free (by simp))
      rw [(h.missing _).mpr ⟨free, kept⟩]
      simp only [idle, if_true]
      rfl
  | case9 here piece rest counts down short _ free more =>
    have goesOn : rest ≠ [] := by
      rintro rfl
      exact more rfl
    have kept := fun hc => clear _ hc (crosses_entry ⟨counts, down, short⟩ free goesOn)
    rw [walk_entry ⟨counts, down, short⟩, (h.missing _).mpr ⟨free, kept⟩]
    simp only [more]
    rfl

/-- A write fills a place with a file, which may be there already. -/
theorem put (h : d.Filled created d') (hw : d'.writePlace path = .ok place)
    (content : Option String) :
    d.Filled (fun p => created p ∨ p = place) (d'.put place (.file content)) := by
  have plain := node?_of_writePlace hw
  have below : place ≠ [] := by
    rintro rfl
    exact plain (node?_nil d')
  refine ⟨h.workingDirectory, h.refusals, fun p => ?_, fun p => ?_⟩
  · rw [node?_put below, ← h.directory]
    by_cases same : p = place
    · simp [same, plain]
    · simp [same]
  · rw [node?_put below, not_or]
    by_cases same : p = place
    · simp [same]
    · simp [same, h.missing]

theorem start_eq (h : d.Filled created d') (path : Path) : d'.start path = d.start path := by
  rw [start, start, h.workingDirectory]

section Alike

variable (h : d.Filled created d') (alike : d.RefusesAlike d' path)

include h alike

theorem opening_eq : d'.refusals.opening d'.nodes path = d.refusals.opening d.nodes path := by
  rw [h.refusals, alike.1]

theorem writing_eq : d'.refusals.writing d'.nodes path = d.refusals.writing d.nodes path := by
  rw [h.refusals, alike.2]

/-- A file that was not found for want of a place that has been filled has a file in its way. -/
theorem openPlace_of_missesAt (hc : created place) (given : path.text ≠ "")
    (missing : d.MissesAt path place) :
    d'.openPlace path = .error (.system .notDirectory) := by
  obtain ⟨granted, refused, through⟩ := missing
  rw [openPlace_of_none ((h.opening_eq alike).trans granted)]
  rcases lookup_cases given with ⟨e, he, fixed⟩ | walked
  · rw [fixed d] at refused
    exact absurd (Except.error.inj refused) he
  · rw [writePlace, walked, h.start_eq, h.walk_of_crosses hc through]
    rfl

variable (given : path.text ≠ "")
  (named : ∃ before last, path.pieces = before ++ [last] ∧ last ≠ "")
  (clear : ∀ place, created place → ¬d.MissesAt path place)

include given named clear

/-- A file can be opened as before unless it misses a place that has been filled. -/
theorem openPlace_of_clear : d'.openPlace path = d.openPlace path := by
  cases granted : d.refusals.opening d.nodes path with
  | some e => rw [openPlace, openPlace, h.opening_eq alike, granted]
  | none =>
    rw [openPlace_of_none granted, openPlace_of_none ((h.opening_eq alike).trans granted)]
    rcases lookup_cases given with ⟨e, he, fixed⟩ | walked
    · rw [writePlace, writePlace, fixed, fixed]
    · rw [writePlace_of_lookup (walked d'), writePlace_of_lookup (walked d), h.start_eq,
        h.writePlaceFrom_of_clear]
      refine fun place hc through => clear place hc ⟨granted, ?_, through⟩
      rw [walked, walk_of_crosses_named through named]
      rfl

theorem result_write_of_clear (content : String) :
    (d'.write path content).result = (d.write path content).result := by
  rw [write, write, h.openPlace_of_clear alike given named clear, h.writing_eq alike]
  cases d.openPlace path with
  | error e => rfl
  | ok place => cases d.refusals.writing d.nodes path <;> rfl

end Alike

end Filled

end HostMonitor.Disk
