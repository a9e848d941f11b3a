import HostMonitor.Proofs.File.Writing
import HostMonitor.Proofs.Placement.ControlFiles
import Mathlib.Data.List.Induction

/-!
# Requests and their directives

A request does what its directives do one after the other, each on the disk that those before it
leave. A mask does not depend on what was done before, but a control file does: by its turn the
system may have something else against writing it, and a file that an earlier directive wrote may be
in the way of one that would have found nothing there. As long as the system has the same against
each control file as at the start, a request comes to the same as its directives alone, up to the
first that fails, and only the reason for that failure can be another one.

The control files are on the disk, which a request changes. What it reads of the host, the topology
and the interrupts, answers the same throughout.
-/

namespace HostMonitor

namespace Placement

/-- Whether a change was made, and not only tried. -/
def Effect.isApplied : Effect → Bool
  | .mask _ _ accepted => accepted
  | .control _ _ accepted => accepted
  | .handedOver _ _ accepted => accepted

/-- The masks that a request has set and the control files that it has written, in order. -/
def Outcome.applied (o : Outcome) : List Effect :=
  o.effects.filter Effect.isApplied

/-- What comes of single requests that are made in turn: the changes of those before the first that
fails, and the end of this one. -/
structure Outcome.IsSequenceOf (whole : Outcome) (singles : List Outcome) : Prop where
  succeeds : whole.result = .ok () ↔ ∀ o ∈ singles, o.result = .ok ()
  changes : (∀ o ∈ singles, o.result = .ok ()) → whole.applied = singles.flatMap Outcome.applied
  stops : ∀ done o rest e, singles = done ++ o :: rest → (∀ o' ∈ done, o'.result = .ok ()) →
    o.result = .error e →
    whole.result = .error e ∧ whole.applied = done.flatMap Outcome.applied ∧ whole.disk = o.disk

namespace Resolver

variable {r : Resolver} {target : Target} {d : Directive} {disk disk' : Disk} {pid : Int}
  {ds before : List Directive} {e : Error} {place : List String} {group : ControlGroup}
  {name : String}

/-! ## Requests in parts -/

theorem placeAll_singleton (disk : Disk) (d : Directive) :
    r.placeAll target disk [d] = r.placeOne target disk d := by
  unfold placeAll placeAll
  obtain ⟨result, effects, after⟩ := r.placeOne target disk d
  cases result <;> simp

theorem placeAll_cons_of_ok (done : (r.placeOne target disk d).result = .ok ())
    (ds : List Directive) :
    r.placeAll target disk (d :: ds) =
      let more := r.placeAll target (r.placeOne target disk d).disk ds
      ⟨more.result, (r.placeOne target disk d).effects ++ more.effects, more.disk⟩ := by
  simp only [placeAll, done]

theorem placeAll_cons_of_error (failed : (r.placeOne target disk d).result = .error e)
    (ds : List Directive) :
    r.placeAll target disk (d :: ds) = r.placeOne target disk d := by
  simp only [placeAll, failed]
  rw [← failed]

/-- A request goes on where a first part of it ends. -/
theorem placeAll_append (done : (r.placeAll target disk before).result = .ok ()) :
    r.placeAll target disk (before ++ ds) =
      let more := r.placeAll target (r.placeAll target disk before).disk ds
      ⟨more.result, (r.placeAll target disk before).effects ++ more.effects, more.disk⟩ := by
  induction before generalizing disk with
  | nil => simp [placeAll]
  | cons d before ih =>
    rw [List.cons_append, placeAll]
    rw [placeAll] at done ⊢
    cases hr : (r.placeOne target disk d).result with
    | error e =>
      rw [hr] at done
      cases done
    | ok u =>
      simp only [hr] at done ⊢
      simp only [ih done, List.append_assoc]

theorem applied_append (result : Except Error Unit) (first more : List Effect) (disk : Disk) :
    Outcome.applied ⟨result, first ++ more, disk⟩ =
      first.filter Effect.isApplied ++ more.filter Effect.isApplied :=
  List.filter_append ..

/-! ## Task files -/

theorem exists_pieces_taskFile (r : Resolver) (entry : ControlGroup × String) :
    ∃ front last, (r.taskFile entry).pieces = front ++ [last] ∧ last ≠ "" := by
  unfold taskFile taskPath
  rw [Path.child, Path.pieces_ofString (by decide), Path.join]
  split
  · next h => cases h
  split
  · exact ⟨_, "task", rfl, by decide⟩
  · exact ⟨_, "task", rfl, by decide⟩

theorem text_taskFile_ne_empty (r : Resolver) (entry : ControlGroup × String) :
    (r.taskFile entry).text ≠ "" := by
  rw [Ne, ← Path.components_eq_nil_iff, taskFile, taskPath,
    Path.components_child _ Path.isName_task]
  simp

theorem enter_of_ok (opened : disk.openPlace (r.taskFile (group, name)) = .ok place)
    (free : disk.refusals.writing disk.nodes (r.taskFile (group, name)) = none) (pid : Int) :
    r.enter disk pid group name =
      ⟨.ok (), [.control (r.taskPath group name) (taskText pid) true],
        disk.put place (.file (some (taskText pid)))⟩ := by
  have written := Disk.write_of_ok opened free (taskText pid)
  unfold taskFile at written
  unfold enter
  dsimp only at written ⊢
  rw [written]

theorem enter_of_error {cause : FileError}
    (failed : (disk.write (r.taskFile (group, name)) (taskText pid)).result = .error cause) :
    r.enter disk pid group name =
      ⟨.error (.controlFile group name cause),
        [.control (r.taskPath group name) (taskText pid) false],
        (disk.write (r.taskFile (group, name)) (taskText pid)).state⟩ := by
  unfold taskFile at failed ⊢
  unfold enter
  simp only [failed]

theorem result_enter (disk : Disk) (pid : Int) (group : ControlGroup) (name : String) :
    (r.enter disk pid group name).result =
      (disk.write (r.taskFile (group, name)) (taskText pid)).result.mapError
        (.controlFile group name) := by
  unfold enter taskFile
  dsimp only
  cases (disk.write (r.taskPath group name) (taskText pid)).result <;> rfl

/-- What a directive that fails leaves: nothing, or the start of what its control file was to
hold. -/
theorem placeOne_error (failed : (r.placeOne target disk d).result = .error e) :
    (r.placeOne target disk d).applied = [] ∧
      ((r.placeOne target disk d).disk = disk ∨ ∃ entry, d.control? = some entry ∧
        disk.IsInterrupted (r.taskFile entry) (taskText target.pid)
          (r.placeOne target disk d).disk) := by
  cases hc : d.control? with
  | some entry =>
    obtain ⟨group, name⟩ := entry
    rw [placeOne_of_control hc] at failed ⊢
    rcases disk.write_cases (r.taskFile (group, name)) (taskText target.pid) with
      ⟨place, opened, free⟩ | ⟨cause, ended, left⟩
    · rw [enter_of_ok opened free] at failed
      cases failed
    · rw [enter_of_error ended]
      exact ⟨rfl, left.imp_right fun interrupted => ⟨_, rfl, interrupted⟩⟩
  | none =>
    unfold placeOne at failed ⊢
    cases hp : r.plan target d with
    | error e => exact ⟨rfl, .inl rfl⟩
    | ok p =>
      rw [hp] at failed
      cases p with
      | nothing => cases failed
      | bind cpus binding =>
        simp only [carryOut, bind] at failed ⊢
        cases hm : r.topology.applyMask target.pid cpus with
        | error e => exact ⟨rfl, .inl rfl⟩
        | ok u =>
          rw [hm] at failed
          cases failed
      | enter group name =>
        rw [plan_eq_enter_iff.mp hp] at hc
        cases hc

/-! ## Directives in turn -/

/-- The outcome of each directive alone, on the disk that those before it leave. -/
def turns (r : Resolver) (target : Target) : Disk → List Directive → List Outcome
  | _, [] => []
  | disk, d :: ds =>
    r.place disk [d] target :: turns r target (r.place disk [d] target).disk ds

section Enabled

variable (enabled : r.isDisabled = false) (unhooked : r.config.hook = none)

include enabled unhooked

theorem place_singleton (disk : Disk) (d : Directive) :
    r.place disk [d] target = r.placeOne target disk d := by
  rw [place_eq_placeAll disk _ enabled unhooked, placeAll_singleton]

theorem placeAll_isSequenceOf (target : Target) (disk : Disk) (ds : List Directive) :
    (r.placeAll target disk ds).IsSequenceOf (r.turns target disk ds) := by
  induction ds generalizing disk with
  | nil => exact ⟨by simp [placeAll, turns], fun _ => rfl, by simp [turns]⟩
  | cons d ds ih =>
    obtain ⟨succeeds, changes, stops⟩ := ih (r.placeOne target disk d).disk
    rw [turns, place_singleton enabled unhooked]
    cases hr : (r.placeOne target disk d).result with
    | ok u =>
      rw [placeAll_cons_of_ok hr]
      refine ⟨?_, fun all => ?_, fun done o rest e split ok failed => ?_⟩
      · simpa [hr] using succeeds
      · rw [applied_append, List.flatMap_cons]
        exact congrArg _ (changes (List.forall_mem_cons.mp all).2)
      · cases done with
        | nil =>
          cases split
          rw [hr] at failed
          cases failed
        | cons first done =>
          obtain ⟨rfl, more⟩ := List.cons.inj split
          obtain ⟨result, applied, left⟩ :=
            stops done o rest e more (List.forall_mem_cons.mp ok).2 failed
          refine ⟨result, ?_, left⟩
          rw [applied_append, List.flatMap_cons]
          exact congrArg _ applied
    | error e =>
      rw [placeAll_cons_of_error hr]
      refine ⟨by simp [hr], fun all => ?_, fun done o rest e' split ok failed => ?_⟩
      · rw [(List.forall_mem_cons.mp all).1] at hr
        cases hr
      · cases done with
        | nil =>
          cases split
          exact ⟨failed, (placeOne_error failed).1, rfl⟩
        | cons first done =>
          obtain ⟨rfl, -⟩ := List.cons.inj split
          rw [(List.forall_mem_cons.mp ok).1] at hr
          cases hr

end Enabled

/-! ## The disk in between -/

/-- The system has the same against each control file in its turn as at the start. -/
def IsSteady (r : Resolver) (target : Target) (disk : Disk) (ds : List Directive) : Prop :=
  ∀ before d after entry, ds = before ++ d :: after → d.control? = some entry →
    (r.place disk before target).result = .ok () →
    disk.RefusesAlike (r.place disk before target).disk (r.taskFile entry)

/-- A system whose answers do not depend on the disk has the same against a file at all times. -/
theorem isSteady_of_fixed
    (opening : ∀ nodes path,
      disk.refusals.opening nodes path = disk.refusals.opening disk.nodes path)
    (writing : ∀ nodes path,
      disk.refusals.writing nodes path = disk.refusals.writing disk.nodes path)
    (r : Resolver) (target : Target) (ds : List Directive) : r.IsSteady target disk ds :=
  fun _ _ _ _ _ _ _ => ⟨opening _ _, writing _ _⟩

/-- Whether the directive opens its control file at `place`. -/
def OpensAt (r : Resolver) (disk : Disk) (d : Directive) (place : List String) : Prop :=
  ∃ entry, d.control? = some entry ∧ disk.openPlace (r.taskFile entry) = .ok place

/-- Whether the control file of the directive is not found because of a place at which one of
`before` opens its own. -/
def IsObstructed (r : Resolver) (disk : Disk) (before : List Directive) (d : Directive) : Prop :=
  ∃ entry place, d.control? = some entry ∧ disk.MissesAt (r.taskFile entry) place ∧
    ∃ d' ∈ before, r.OpensAt disk d' place

/-- The disk after `before`, as far as paths are concerned. -/
def Reaches (r : Resolver) (disk : Disk) (before : List Directive) (disk' : Disk) : Prop :=
  disk.Filled (fun place => ∃ d' ∈ before, r.OpensAt disk d' place) disk'

theorem Reaches.refl (r : Resolver) (disk : Disk) : r.Reaches disk [] disk := by
  simpa [Reaches] using Disk.Filled.refl disk

section Turn

variable (h : r.Reaches disk before disk')
  (steady : ∀ entry, d.control? = some entry → disk.RefusesAlike disk' (r.taskFile entry))

include h steady

/-- A directive that succeeds alone does the same later in a request. -/
theorem Reaches.placeOne (done : (r.placeOne target disk d).result = .ok ()) :
    (r.placeOne target disk' d).result = .ok () ∧
      (r.placeOne target disk' d).effects = (r.placeOne target disk d).effects ∧
      r.Reaches disk (before ++ [d]) (r.placeOne target disk' d).disk := by
  cases hc : d.control? with
  | none =>
    obtain ⟨result, effects, -, same⟩ := placeOne_of_not_control r target hc
    rw [same] at done
    rw [same, same]
    refine ⟨done, rfl, ?_⟩
    simpa [Reaches, OpensAt, hc] using h
  | some entry =>
    obtain ⟨group, name⟩ := entry
    rw [placeOne_of_control hc] at done
    rw [placeOne_of_control hc, placeOne_of_control hc]
    rcases disk.write_cases (r.taskFile (group, name)) (taskText target.pid) with
      ⟨place, opened, free⟩ | ⟨cause, ended, -⟩
    · -- The file was found, so it misses no place.
      have alike := steady _ hc
      have later : disk'.openPlace (r.taskFile (group, name)) = .ok place := by
        rw [h.openPlace_of_clear alike (text_taskFile_ne_empty r _) (exists_pieces_taskFile r _),
          opened]
        rintro place' - missing
        rw [missing.openPlace_eq] at opened
        cases opened
      rw [enter_of_ok opened free, enter_of_ok later ((h.writing_eq alike).trans free)]
      refine ⟨rfl, rfl, ?_⟩
      have filled := h.put (Disk.openPlace_eq_ok_iff.mp later).2 (some (taskText target.pid))
      simpa [Reaches, OpensAt, hc, opened, or_and_right, exists_or, eq_comm] using filled
    · rw [enter_of_error ended] at done
      cases done

/-- A directive that fails alone fails later in a request, for the same reason unless an earlier
control file is in the way of its own. -/
theorem Reaches.placeOne_error (failed : (r.placeOne target disk d).result = .error e) :
    (¬r.IsObstructed disk before d → (r.placeOne target disk' d).result = .error e) ∧
      (r.IsObstructed disk before d → ∃ group name, e = .controlFile group name (.system .noEntry) ∧
        (r.placeOne target disk' d).result =
          .error (.controlFile group name (.system .notDirectory))) := by
  cases hc : d.control? with
  | none =>
    obtain ⟨result, effects, -, same⟩ := placeOne_of_not_control r target hc
    rw [same] at failed
    rw [same]
    exact ⟨fun _ => failed, fun ⟨_, _, hc', _⟩ => by simp [hc] at hc'⟩
  | some entry =>
    obtain ⟨group, name⟩ := entry
    rw [placeOne_of_control hc, result_enter] at failed ⊢
    have given := text_taskFile_ne_empty r (group, name)
    constructor
    · intro clear
      rwa [h.result_write_of_clear (steady _ hc) given (exists_pieces_taskFile r _)
        fun place opened missing => clear ⟨_, place, hc, missing, opened⟩]
    · rintro ⟨entry, place, hc', missing, opened⟩
      rw [hc] at hc'
      cases hc'
      rw [Disk.write_of_error missing.openPlace_eq] at failed
      rw [Disk.write_of_error (h.openPlace_of_missesAt (steady _ hc) opened given missing)]
      exact ⟨group, name, (Except.error.inj failed).symm, rfl⟩

/-- A directive that fails alone fails wherever it stands in a request. -/
theorem Reaches.exists_error (failed : (r.placeOne target disk d).result = .error e) :
    ∃ e', (r.placeOne target disk' d).result = .error e' := by
  obtain ⟨clear, obstructed⟩ := h.placeOne_error steady failed
  by_cases blocked : r.IsObstructed disk before d
  · obtain ⟨group, name, -, result⟩ := obstructed blocked
    exact ⟨_, result⟩
  · exact ⟨e, clear blocked⟩

end Turn

/-! ## Whole requests -/

theorem exists_first_failing (r : Resolver) (target : Target) (disk : Disk) (ds : List Directive) :
    (∀ d ∈ ds, (r.placeOne target disk d).result = .ok ()) ∨
      ∃ before d after e, ds = before ++ d :: after ∧
        (∀ d' ∈ before, (r.placeOne target disk d').result = .ok ()) ∧
        (r.placeOne target disk d).result = .error e := by
  induction ds with
  | nil => exact .inl (by simp)
  | cons d ds ih =>
    cases hr : (r.placeOne target disk d).result with
    | error e => exact .inr ⟨[], d, ds, e, rfl, by simp, hr⟩
    | ok u =>
      rcases ih with all | ⟨before, d', after, e, rfl, done, failed⟩
      · exact .inl (List.forall_mem_cons.mpr ⟨hr, all⟩)
      · exact .inr ⟨d :: before, d', after, e, rfl, List.forall_mem_cons.mpr ⟨hr, done⟩, failed⟩

section Enabled

variable (enabled : r.isDisabled = false) (unhooked : r.config.hook = none)

include enabled unhooked

theorem IsSteady.alike {after : List Directive}
    (steady : r.IsSteady target disk (before ++ d :: after))
    (done : (r.placeAll target disk before).result = .ok ()) (entry : ControlGroup × String)
    (hc : d.control? = some entry) :
    disk.RefusesAlike (r.placeAll target disk before).disk (r.taskFile entry) := by
  have alike := steady before d after entry rfl hc
  rw [place_eq_placeAll disk before enabled unhooked] at alike
  exact alike done

omit enabled unhooked in
theorem IsSteady.left {after : List Directive} (steady : r.IsSteady target disk (before ++ after)) :
    r.IsSteady target disk before := by
  rintro first d rest entry rfl
  exact steady first d (rest ++ after) entry (by simp)

/-- Directives that succeed alone do the same in turn. -/
theorem IsSteady.placeAll (steady : r.IsSteady target disk before)
    (done : ∀ d ∈ before, (r.placeOne target disk d).result = .ok ()) :
    (r.placeAll target disk before).result = .ok () ∧
      (r.placeAll target disk before).effects =
        before.flatMap (fun d => (r.placeOne target disk d).effects) ∧
      r.Reaches disk before (r.placeAll target disk before).disk := by
  induction before using List.reverseRecOn with
  | nil => exact ⟨rfl, rfl, Reaches.refl r disk⟩
  | append_singleton before d ih =>
    obtain ⟨first, last⟩ := List.forall_mem_append.mp done
    obtain ⟨result, effects, reached⟩ := ih steady.left first
    obtain ⟨result', effects', reached'⟩ :=
      reached.placeOne (steady.alike enabled unhooked result) (last d (List.mem_singleton.mpr rfl))
    rw [placeAll_append result, placeAll_singleton]
    exact ⟨result', by simp [effects, effects'], reached'⟩

/-- How a request ends whose first failing directive is `d`. -/
theorem IsSteady.placeAll_of_failing {after : List Directive}
    (steady : r.IsSteady target disk (before ++ d :: after))
    (done : ∀ d' ∈ before, (r.placeOne target disk d').result = .ok ())
    (failed : (r.placeOne target disk d).result = .error e) :
    (r.placeAll target disk (before ++ d :: after)).applied =
        before.flatMap (fun d' => (r.placeOne target disk d').applied) ∧
      (¬r.IsObstructed disk before d →
        (r.placeAll target disk (before ++ d :: after)).result = .error e) ∧
      (r.IsObstructed disk before d → ∃ group name, e = .controlFile group name (.system .noEntry) ∧
        (r.placeAll target disk (before ++ d :: after)).result =
          .error (.controlFile group name (.system .notDirectory))) := by
  obtain ⟨result, effects, reached⟩ := steady.left.placeAll enabled unhooked done
  have alike := steady.alike enabled unhooked result
  obtain ⟨clear, obstructed⟩ := reached.placeOne_error alike failed
  obtain ⟨e', he'⟩ := reached.exists_error alike failed
  rw [placeAll_append result, placeAll_cons_of_error he']
  refine ⟨?_, clear, obstructed⟩
  rw [applied_append, effects, List.filter_flatMap]
  exact (congrArg _ (placeOne_error he').1).trans (List.append_nil _)

/-- What was done before does not decide whether a request succeeds. -/
theorem IsSteady.placeAll_eq_ok_iff (steady : r.IsSteady target disk ds) :
    (r.placeAll target disk ds).result = .ok () ↔
      ∀ d ∈ ds, (r.placeOne target disk d).result = .ok () := by
  refine ⟨fun h => ?_, fun h => (steady.placeAll enabled unhooked h).1⟩
  rcases exists_first_failing r target disk ds with all | ⟨before, d, after, e, rfl, done, failed⟩
  · exact all
  · obtain ⟨-, clear, obstructed⟩ := steady.placeAll_of_failing enabled unhooked done failed
    rw [h] at clear obstructed
    by_cases blocked : r.IsObstructed disk before d
    · obtain ⟨group, name, -, result⟩ := obstructed blocked
      cases result
    · cases clear blocked

/-- A request is its directives one after the other, each alone on the disk that those before it
leave: it succeeds exactly if all of them do in their turn, it makes the changes that they make, up
to the first that fails, and it ends as this one does, which leaves nothing or the start of its
control file. As long as the system has the same against each control file as at the start, the disk
in between does not matter: the request succeeds exactly if each directive does alone, and it fails
with the error of the first that fails alone. Only if a control file is not found, and an earlier
directive has put its own where the way leads through, the system gives the other reason. -/
theorem place_sequential (disk : Disk) (ds : List Directive) (target : Target) :
    (r.place disk ds target).IsSequenceOf (r.turns target disk ds) ∧
    (∀ disk d e, (r.place disk [d] target).result = .error e →
      (r.place disk [d] target).disk = disk ∨ ∃ entry, d.control? = some entry ∧
        disk.IsInterrupted (r.taskFile entry) (taskText target.pid)
          (r.place disk [d] target).disk) ∧
    (r.IsSteady target disk ds →
      ((r.place disk ds target).result = .ok () ↔
        ∀ d ∈ ds, (r.place disk [d] target).result = .ok ()) ∧
      ((∀ d ∈ ds, (r.place disk [d] target).result = .ok ()) →
        (r.place disk ds target).applied =
          ds.flatMap fun d => (r.place disk [d] target).applied) ∧
      ∀ before d after e, ds = before ++ d :: after →
        (∀ d' ∈ before, (r.place disk [d'] target).result = .ok ()) →
        (r.place disk [d] target).result = .error e →
        (r.place disk ds target).applied =
            before.flatMap (fun d' => (r.place disk [d'] target).applied) ∧
          (¬r.IsObstructed disk before d → (r.place disk ds target).result = .error e) ∧
          (r.IsObstructed disk before d → ∃ group name,
            e = .controlFile group name (.system .noEntry) ∧
            (r.place disk ds target).result =
              .error (.controlFile group name (.system .notDirectory)))) := by
  simp only [place_eq_placeAll _ ds enabled unhooked, place_singleton enabled unhooked]
  refine ⟨placeAll_isSequenceOf enabled unhooked target disk ds,
    fun disk d e failed => (placeOne_error failed).2, fun steady =>
      ⟨steady.placeAll_eq_ok_iff enabled unhooked, fun h => ?_, ?_⟩⟩
  · rw [Outcome.applied, (steady.placeAll enabled unhooked h).2.1, List.filter_flatMap]
    rfl
  · rintro before d after e rfl done failed
    exact steady.placeAll_of_failing enabled unhooked done failed

end Enabled

/-- A host where one control group is set up. -/
def groupDisk : Disk :=
  (Disk.empty []).addDirectories ["dev", "cpuset", "a"]

theorem isSteady_groupDisk (r : Resolver) (target : Target) (ds : List Directive) :
    r.IsSteady target groupDisk ds :=
  isSteady_of_fixed (fun _ _ => rfl) (fun _ _ => rfl) r target ds

/-- A control file and a mask. -/
theorem place_sequential_twoNodes :
    twoNodes.isDisabled = false ∧ twoNodes.config.hook = none ∧
      (twoNodes.place groupDisk [⟨"cpuset", "a"⟩, ⟨"cpu", "3"⟩] ⟨1, []⟩).result = .ok () ∧
      (twoNodes.place groupDisk [⟨"cpuset", "a"⟩, ⟨"cpu", "3"⟩] ⟨1, []⟩).applied =
        [.control (Path.ofString "/dev/cpuset/a/task") "1\n" true, .mask 1 [3] true] := by
  have alone : ∀ d ∈ [⟨"cpuset", "a"⟩, ⟨"cpu", "3"⟩],
      (twoNodes.place groupDisk [d] ⟨1, []⟩).result = .ok () := by
    simp only [List.mem_cons, List.not_mem_nil, or_false, forall_eq_or_imp, forall_eq]
    exact ⟨by cbv, by cbv⟩
  obtain ⟨-, -, steady⟩ := place_sequential (r := twoNodes) (by cbv) rfl groupDisk
    [⟨"cpuset", "a"⟩, ⟨"cpu", "3"⟩] ⟨1, []⟩
  obtain ⟨succeeds, changes, -⟩ := steady (isSteady_groupDisk _ _ _)
  refine ⟨by cbv, rfl, succeeds.mpr alone, (changes alone).trans ?_⟩
  cbv

/-- The file that the first directive creates stands where the second looks for a directory. Alone
it finds nothing there. -/
theorem place_of_file_in_the_way :
    (twoNodes.place groupDisk [⟨"cpuset", "a"⟩] ⟨1, []⟩).result = .ok () ∧
      (twoNodes.place groupDisk [⟨"cpuset", "a/task"⟩] ⟨1, []⟩).result =
        .error (.controlFile .cpuset "a/task" (.system .noEntry)) ∧
      (twoNodes.place groupDisk [⟨"cpuset", "a"⟩, ⟨"cpuset", "a/task"⟩] ⟨1, []⟩).result =
        .error (.controlFile .cpuset "a/task" (.system .notDirectory)) :=
  ⟨by cbv, by cbv, by cbv⟩

/-- The same directive twice, on a system that creates files which cannot be opened again. -/
example :
    let refusals : Refusals :=
      ⟨fun nodes _ => if nodes.any (·.2 ≠ .directory) then some .accessDenied else none,
        fun _ _ => none⟩
    let disk := { groupDisk with refusals }
    (twoNodes.place disk [⟨"cpuset", "a"⟩] ⟨1, []⟩).result = .ok () ∧
      (twoNodes.place disk [⟨"cpuset", "a"⟩, ⟨"cpuset", "a"⟩] ⟨1, []⟩).result =
        .error (.controlFile .cpuset "a" (.system .accessDenied)) :=
  ⟨by cbv, by cbv⟩

/-- A system that has room for no more than a character of the file. -/
example :
    let disk := { groupDisk with refusals := ⟨fun _ _ => none, fun _ _ => some (1, .noSpace)⟩ }
    let o := twoNodes.place disk [⟨"cpuset", "a"⟩] ⟨1, []⟩
    o.result = .error (.controlFile .cpuset "a" (.system .noSpace)) ∧ o.applied = [] ∧
      o.disk.node? ["dev", "cpuset", "a", "task"] = some (.file (some "1")) :=
  ⟨by cbv, by cbv, by cbv⟩

end Resolver

end Placement

end HostMonitor
