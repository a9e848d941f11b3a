import HostMonitor.Proofs.Placement.Requests

/-!
# Directives that come to nothing

A directive whose class is unknown is passed over, and so is one about cpus or nodes on a host that
has no nodes. It leaves no trace, whatever its value is and wherever it stands: the rest of the
request goes on as if it were not there. Whether the host has nodes does not change during a
request.
-/

namespace HostMonitor

namespace Placement

/-- The classes of directives that choose cpus. -/
def nodeClasses : List String := ["nic", "socket", "node", "cpu"]

/-- The classes of directives that enter a control group. -/
def groupClasses : List String := ["cpuset", "cgroup"]

namespace Resolver

variable {r : Resolver} {target : Target} {disk : Disk} {d : Directive} {ds : List Directive}

/-- Whether a directive is passed over: its class is unknown, or it chooses cpus on a host without
nodes. -/
def Ignores (r : Resolver) (d : Directive) : Prop :=
  d.className ∉ nodeClasses ++ groupClasses ∨
    r.topology.available = false ∧ d.className ∈ nodeClasses

instance (r : Resolver) (d : Directive) : Decidable (r.Ignores d) :=
  inferInstanceAs (Decidable (_ ∨ _))

theorem needsTopology_eq (className : String) :
    needsTopology className = decide (className ∈ nodeClasses) := by
  simp [needsTopology, nodeClasses, Bool.or_assoc]

theorem plan_of_ignores (h : r.Ignores d) (target : Target) : r.plan target d = .ok .nothing := by
  rcases h with unknown | ⟨missing, chooses⟩
  · simp only [nodeClasses, groupClasses, List.mem_append, List.mem_cons, List.not_mem_nil,
      or_false, not_or] at unknown
    simp [plan, needsTopology, unknown]
  · simp [plan, needsTopology_eq, chooses, missing]

theorem placeOne_of_ignores (h : r.Ignores d) (target : Target) (disk : Disk) :
    r.placeOne target disk d = ⟨.ok (), [], disk⟩ := by
  rw [placeOne, plan_of_ignores h]
  rfl

theorem placeAll_cons_of_ignores (h : r.Ignores d) :
    r.placeAll target disk (d :: ds) = r.placeAll target disk ds := by
  simp [placeAll, placeOne_of_ignores h]

theorem placeAll_filter_ignores (target : Target) (disk : Disk) (ds : List Directive) :
    r.placeAll target disk (ds.filter (¬r.Ignores ·)) = r.placeAll target disk ds := by
  induction ds generalizing disk with
  | nil => rfl
  | cons d ds ih =>
    by_cases ignored : r.Ignores d
    · rw [List.filter_cons_of_neg (by simpa using ignored), ih, placeAll_cons_of_ignores ignored]
    · rw [List.filter_cons_of_pos (by simpa using ignored)]
      simp only [placeAll, ih]

theorem result_of_mem_turns (off : r.isDisabled = true) (ds : List Directive) :
    ∀ o ∈ r.turns target disk ds, o.result = .ok () := by
  have ignored (disk : Disk) (ds : List Directive) :
      r.place disk ds target = ⟨.ok (), [], disk⟩ := by
    rw [place, if_pos off]
  induction ds with
  | nil => simp [turns]
  | cons d ds ih =>
    rw [turns, ignored]
    exact List.forall_mem_cons.mpr ⟨rfl, ih⟩

/-! ## Hosts without nodes -/

theorem ignores_iff_of_unavailable (missing : r.topology.available = false) :
    r.Ignores d ↔ d.className ∉ groupClasses := by
  have apart : d.className ∈ groupClasses → d.className ∉ nodeClasses := by
    simp only [groupClasses, nodeClasses, List.mem_cons, List.not_mem_nil, or_false]
    rintro (h | h) <;> simp [h]
  simp only [Ignores, missing, List.mem_append, true_and]
  tauto

theorem result_placeOne_of_not_grouped (missing : r.topology.available = false)
    (ungrouped : d.className ∉ groupClasses) : (r.placeOne target disk d).result = .ok () := by
  rw [placeOne_of_ignores ((ignores_iff_of_unavailable missing).mpr ungrouped)]

/-! ## Whole requests -/

/-- A request comes to the same without the directives that are passed over: it ends in the same
way, tries the same masks and control files, and leaves the same disk. On a host without nodes only
its control groups are left of it, and it succeeds exactly if each of them can be entered in its
turn, or at the start if the system has the same against it then. -/
theorem place_filter_ignores (unhooked : r.config.hook = none) (disk : Disk) (ds : List Directive)
    (target : Target) :
    r.place disk (ds.filter (¬r.Ignores ·)) target = r.place disk ds target ∧
    (r.topology.available = false →
      r.place disk (ds.filter (·.className ∈ groupClasses)) target = r.place disk ds target ∧
      ((r.place disk ds target).result = .ok () ↔
        ∀ o ∈ r.turns target disk (ds.filter (·.className ∈ groupClasses)), o.result = .ok ()) ∧
      (r.IsSteady target disk ds →
        ((r.place disk ds target).result = .ok () ↔
          ∀ d ∈ ds, d.className ∈ groupClasses → (r.place disk [d] target).result = .ok ()))) := by
  cases off : r.isDisabled with
  | true =>
    simp only [place, off, if_true, true_iff]
    exact ⟨trivial, fun _ => ⟨trivial, result_of_mem_turns off _, fun _ _ _ _ => trivial⟩⟩
  | false =>
    simp only [place_singleton off unhooked, place_eq_placeAll disk _ off unhooked]
    refine ⟨placeAll_filter_ignores target disk ds, fun missing => ?_⟩
    have grouped : r.placeAll target disk (ds.filter (·.className ∈ groupClasses)) =
        r.placeAll target disk ds := by
      rw [← placeAll_filter_ignores target disk ds]
      simp only [ignores_iff_of_unavailable missing, not_not]
    refine ⟨grouped, ?_, fun steady => ?_⟩
    · rw [← grouped]
      exact (placeAll_isSequenceOf off unhooked target disk _).succeeds
    · rw [steady.placeAll_eq_ok_iff off unhooked]
      refine forall₂_congr fun d _ => ⟨fun done _ => done, fun done => ?_⟩
      by_cases hd : d.className ∈ groupClasses
      · exact done hd
      · exact result_placeOne_of_not_grouped missing hd

/-- Without nodes a list that cannot be read does no harm, and the control group after it is
entered. A control group that is not there ends the request. -/
theorem place_filter_ignores_without_nodes :
    let r : Resolver := { twoNodes with topology := Topology.none }
    let ds : List Directive := [⟨"gpu", "0"⟩, ⟨"cpu", "3-"⟩, ⟨"cpuset", "a"⟩, ⟨"nic", ""⟩]
    r.config.hook = none ∧ r.topology.available = false ∧
      ds.filter (¬r.Ignores ·) = [⟨"cpuset", "a"⟩] ∧
      (r.place groupDisk ds ⟨1, []⟩).applied =
        [.control (Path.ofString "/dev/cpuset/a/task") "1\n" true] ∧
      (r.place groupDisk ds ⟨1, []⟩).result = .ok () ∧
      (r.place groupDisk (⟨"cgroup", "b"⟩ :: ds) ⟨1, []⟩).result ≠ .ok () := by
  intro r ds
  have missing : r.topology.available = false := rfl
  have left : ds.filter (¬r.Ignores ·) = [⟨"cpuset", "a"⟩] := by decide
  obtain ⟨same, -⟩ := place_filter_ignores (r := r) rfl groupDisk ds ⟨1, []⟩
  rw [left] at same
  have entered : (r.place groupDisk [⟨"cpuset", "a"⟩] ⟨1, []⟩).result = .ok () := by cbv
  refine ⟨rfl, missing, left, ?_, ?_, fun done => ?_⟩
  · rw [← same]
    cbv
  · rw [← same]
    exact entered
  · have refused : (r.place groupDisk [⟨"cgroup", "b"⟩] ⟨1, []⟩).result =
        .error (.controlFile .cgroup "b" (.system .noEntry)) := by cbv
    obtain ⟨-, -, alone⟩ := (place_filter_ignores (r := r) rfl groupDisk (⟨"cgroup", "b"⟩ :: ds)
      ⟨1, []⟩).2 missing
    have passed := (alone (isSteady_groupDisk _ _ _)).mp done ⟨"cgroup", "b"⟩ List.mem_cons_self
      (by decide)
    simp [refused] at passed

end Resolver

end Placement

end HostMonitor
