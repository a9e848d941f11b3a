import HostMonitor.Proofs.File.Writing
import HostMonitor.Proofs.Placement.Masks

/-!
# Control files that a request opens

Only directives of the two control classes open files, one each and whatever becomes of it. The file
is where the root of the class and the value of the directive put it: below the root under the name
given, unless the value is absolute or leads up again too often.
-/

namespace HostMonitor

namespace Path

variable {path root value : Path}

/-- Whether `path` is the task file of what `value` names below `root`, the way there never leading
out of `root`. -/
def IsTaskBelow (path root value : Path) : Prop :=
  ∃ rest, path.components = root.components ++ rest ∧
    rest.filter (· ≠ .here) = value.steps ++ [.name "task"] ∧ StaysBelow 0 rest

theorem isName_task : IsName "task" := ⟨by decide, by decide⟩

theorem exists_components_join (root : Path) (relative : value.isAbsolute = false)
    (given : value.pieces ≠ []) :
    ∃ rest, (root.join value).components = root.components ++ rest ∧
      rest.filter (· ≠ .here) = value.steps := by
  by_cases hr : root.components = []
  · exact ⟨value.components, by rw [join_of_components_eq_nil hr, hr, List.nil_append],
      filter_components_of_relative relative⟩
  · exact ⟨value.steps, components_join hr relative given, filter_steps value⟩

theorem isTaskBelow_child_of_relative (relative : value.isAbsolute = false)
    (given : value.pieces ≠ []) :
    ((root.join value).child "task").IsTaskBelow root value ↔ StaysBelow 0 value.steps := by
  obtain ⟨rest, split, steps⟩ := exists_components_join root relative given
  have task : (rest ++ [Component.name "task"]).filter (· ≠ .here) =
      value.steps ++ [.name "task"] := by
    rw [List.filter_append, steps]
    rfl
  have same : StaysBelow 0 (rest ++ [.name "task"]) ↔ StaysBelow 0 value.steps := by
    rw [← StaysBelow.filter_iff, task, StaysBelow.concat_name_iff]
  unfold IsTaskBelow
  rw [components_child _ isName_task, split, List.append_assoc]
  constructor
  · rintro ⟨rest', split', -, below⟩
    obtain rfl := List.append_cancel_left split'
    exact same.mp below
  · exact fun below => ⟨_, rfl, task, same.mpr below⟩

theorem isTaskBelow_child_of_absolute (absolute : value.isAbsolute = true) :
    ((root.join value).child "task").IsTaskBelow root value ↔
      root.components = [.root] ∧ StaysBelow 0 value.steps := by
  unfold IsTaskBelow
  rw [components_child _ isName_task, join_of_isAbsolute absolute,
    components_of_isAbsolute absolute, List.cons_append]
  constructor
  · rintro ⟨rest, split, steps, below⟩
    rcases hr : root.components with _ | ⟨top, others⟩
    · rw [hr, List.nil_append] at split
      subst split
      cases below
    · rw [hr, List.cons_append] at split
      obtain ⟨rfl, tail⟩ := List.cons.inj split
      -- What follows the root has all the steps, so nothing is left for the root itself.
      have shorter := List.length_filter_le (· ≠ .here) rest
      have lengths : (value.steps ++ [Component.name "task"]).length =
          others.length + rest.length := by rw [← List.length_append, ← tail]
      rw [steps] at shorter
      obtain rfl : others = [] := List.length_eq_zero_iff.mp (by omega)
      rw [List.nil_append] at tail
      subst tail
      exact ⟨rfl, (StaysBelow.concat_name_iff _).mp below⟩
  · rintro ⟨top, below⟩
    refine ⟨value.steps ++ [.name "task"], by rw [top]; rfl, ?_, ?_⟩
    · rw [List.filter_append, filter_steps]
      rfl
    · exact (StaysBelow.concat_name_iff _).mpr below

/-- A value is kept below the root if it is relative and leads up no more often than down. An
absolute one takes the place of the root, which makes no difference where the root is `/`. -/
theorem isTaskBelow_child_iff (given : value.pieces ≠ []) :
    ((root.join value).child "task").IsTaskBelow root value ↔
      (value.isAbsolute = false ∨ root.components = [.root]) ∧ StaysBelow 0 value.steps := by
  cases ha : value.isAbsolute with
  | false => simp [isTaskBelow_child_of_relative ha given]
  | true => simp [isTaskBelow_child_of_absolute ha]

end Path

namespace Placement

def Effect.opened? : Effect → Option Path
  | .mask _ _ _ => none
  | .control path _ _ => some path
  | .handedOver _ _ _ => none

/-- The files that a request opens for writing, in order, whether they could be opened or not. -/
def Outcome.opened (o : Outcome) : List Path :=
  o.effects.filterMap Effect.opened?

namespace Resolver

variable {r : Resolver} {target : Target} {d : Directive} {p : Plan} {disk : Disk}
  {group : ControlGroup} {name : String}

/-! ## Plans that open a file -/

theorem plan_of_control (h : d.control? = some (group, name)) :
    r.plan target d = .ok (.enter group name) := by
  unfold Directive.control? at h
  split at h
  · next hc =>
    cases h
    simp [plan, needsTopology, hc]
  split at h
  · next hc =>
    cases h
    simp [plan, needsTopology, hc]
  · cases h

theorem bindAllowed_ne_enter {cpus blacklist : List Nat} {binding : Binding} :
    bindAllowed cpus blacklist binding ≠ .ok (.enter group name) := by
  simp [bindAllowed_eq_ok_iff]

theorem planInterface_ne_enter {iface : String} :
    r.planInterface target iface ≠ .ok (.enter group name) := by
  unfold planInterface
  dsimp only
  split
  · simp
  split
  · intro h
    obtain ⟨nodeCpus, -, h⟩ := Except.bind_eq_ok_iff.mp h
    cases h
  · intro h
    obtain ⟨cpus, -, h⟩ := Except.bind_eq_ok_iff.mp h
    exact bindAllowed_ne_enter h

theorem plan_eq_enter_iff :
    r.plan target d = .ok (.enter group name) ↔ d.control? = some (group, name) := by
  refine ⟨fun h => ?_, plan_of_control⟩
  rcases plan_cases h with h | ⟨entry, hc, same⟩ | ⟨-, h | h | h⟩
  · cases h
  · cases same
    exact hc
  · exact absurd h planInterface_ne_enter
  · obtain ⟨cpus, -, h⟩ := Except.bind_eq_ok_iff.mp h
    exact absurd h bindAllowed_ne_enter
  · obtain ⟨cpus, -, h⟩ := Except.bind_eq_ok_iff.mp h
    exact absurd h bindAllowed_ne_enter

/-- A directive of a control class opens its task file, whatever the host is like. -/
theorem placeOne_of_control (h : d.control? = some (group, name)) :
    r.placeOne target disk d = r.enter disk target.pid group name := by
  rw [placeOne, plan_of_control h]
  rfl

/-- No other directive has to do with the disk. -/
theorem placeOne_of_not_control (r : Resolver) (target : Target) (h : d.control? = none) :
    ∃ result effects, effects.filterMap Effect.opened? = [] ∧
      ∀ disk, r.placeOne target disk d = ⟨result, effects, disk⟩ := by
  unfold placeOne
  cases hp : r.plan target d with
  | error e => exact ⟨_, _, rfl, fun _ => rfl⟩
  | ok p =>
    cases p with
    | nothing => exact ⟨_, _, rfl, fun _ => rfl⟩
    | bind cpus binding =>
      unfold carryOut bind
      dsimp only
      cases r.topology.applyMask target.pid cpus with
      | error e => exact ⟨_, _, rfl, fun _ => rfl⟩
      | ok u => exact ⟨_, _, rfl, fun _ => rfl⟩
    | enter group name =>
      rw [plan_eq_enter_iff.mp hp] at h
      cases h

/-! ## Files of whole requests -/

/-- The task file of a control group. -/
def taskFile (r : Resolver) (entry : ControlGroup × String) : Path :=
  r.taskPath entry.1 entry.2

theorem opened_placeOne (r : Resolver) (target : Target) (disk : Disk) (d : Directive) :
    (r.placeOne target disk d).opened = d.control?.toList.map r.taskFile := by
  cases hc : d.control? with
  | none =>
    obtain ⟨result, effects, none, same⟩ := placeOne_of_not_control r target hc
    rw [same]
    exact none
  | some entry =>
    obtain ⟨group, name⟩ := entry
    rw [placeOne_of_control hc, enter]
    split <;> rfl

theorem opened_placeAll (r : Resolver) (target : Target) (disk : Disk) (ds : List Directive) :
    ∃ asked, asked <+: ds.filterMap Directive.control? ∧
      (r.placeAll target disk ds).opened = asked.map r.taskFile ∧
      ((r.placeAll target disk ds).result = .ok () → asked = ds.filterMap Directive.control?) := by
  induction ds generalizing disk with
  | nil => exact ⟨[], List.prefix_rfl, rfl, fun _ => rfl⟩
  | cons d ds ih =>
    have first := opened_placeOne r target disk d
    have split : (d :: ds).filterMap Directive.control? =
        d.control?.toList ++ ds.filterMap Directive.control? := by
      rw [List.filterMap_cons]
      cases d.control? <;> rfl
    rw [placeAll, split]
    cases hr : (r.placeOne target disk d).result with
    | error e => exact ⟨d.control?.toList, List.prefix_append _ _, first, by simp⟩
    | ok u =>
      obtain ⟨more, before, rest, all⟩ := ih (r.placeOne target disk d).disk
      refine ⟨d.control?.toList ++ more, (List.prefix_append_right_inj _).mpr before, ?_, ?_⟩
      · rw [List.map_append, ← first, ← rest]
        exact List.filterMap_append
      · intro h
        rw [all h]

/-- A request opens the task files of its control directives in order, up to the first directive
that fails, and no other file for writing. Such a file lies below the root of its class, under the
name that the directive gives, exactly if this name is relative and leads up no more often than
down; an absolute one takes the place of every root but `/`. -/
theorem opened_place (r : Resolver) (disk : Disk) (ds : List Directive) (target : Target) :
    (∃ asked, asked <+: ds.filterMap Directive.control? ∧
      (r.place disk ds target).opened = asked.map r.taskFile ∧
      (r.isDisabled = false ∧ r.config.hook = none ∧ (r.place disk ds target).result = .ok () →
        asked = ds.filterMap Directive.control?)) ∧
    ∀ group name,
      (r.taskFile (group, name)).IsTaskBelow (r.config.controlRoot r.environment group)
          (Path.ofString name) ↔
        ((Path.ofString name).isAbsolute = false ∨
          (r.config.controlRoot r.environment group).components = [.root]) ∧
        StaysBelow 0 (Path.ofString name).steps := by
  refine ⟨?_, fun group name => Path.isTaskBelow_child_iff (Path.pieces_ofString_ne_nil name)⟩
  cases off : r.isDisabled with
  | true => exact ⟨[], List.nil_prefix, by simp [place, off, Outcome.opened], by simp⟩
  | false =>
    cases hooked : r.config.hook with
    | some hook =>
      refine ⟨[], List.nil_prefix, ?_, by simp⟩
      simp only [place, off, hooked, handOver]
      cases hook ds target.pid target.blacklist <;> rfl
    | none =>
      rw [place_eq_placeAll disk ds off hooked]
      obtain ⟨asked, before, opened, all⟩ := opened_placeAll r target disk ds
      exact ⟨asked, before, opened, fun h => all h.2.2⟩

/-! ## Names that lead elsewhere -/

/-- Two names under the standard root that a process is not to leave. The first takes the place of
the root, the second steps out of it; both files are written. -/
theorem opened_outside_root :
    (twoNodes.place ((Disk.empty []).addDirectories ["rt"]) [⟨"cpuset", "/rt"⟩] ⟨1, []⟩).effects =
        [.control (Path.ofString "/rt/task") "1\n" true] ∧
      ¬(Path.ofString "/dev/cpuset").components <+: (Path.ofString "/rt/task").components ∧
      (twoNodes.place (((Disk.empty []).addDirectories ["rt"]).addDirectories ["dev", "cpuset"])
          [⟨"cpuset", "../../rt"⟩] ⟨1, []⟩).effects =
        [.control (Path.ofString "/dev/cpuset/../../rt/task") "1\n" true] ∧
      ¬(Path.ofString "/dev/cpuset/../../rt/task").IsTaskBelow (Path.ofString "/dev/cpuset")
        (Path.ofString "../../rt") := by
  have joined : Path.ofString "/dev/cpuset/../../rt/task" =
      ((Path.ofString "/dev/cpuset").join (Path.ofString "../../rt")).child "task" := by decide
  refine ⟨by cbv, by decide, by cbv, ?_⟩
  rw [joined, Path.isTaskBelow_child_iff (Path.pieces_ofString_ne_nil _)]
  decide

end Resolver

end Placement

end HostMonitor
