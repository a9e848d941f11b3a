import HostMonitor.Placement.Property

/-!
# Requests written as properties

Reading a container goes by the properties that it has under each id, so a request that is written
as pairs of a class and a value is read back as it was, whatever the texts in it are: a text is
never taken for an id.
-/

namespace HostMonitor.Placement.Properties

/-! ## Properties of one id -/

theorem withId_cons (entry : String × Property) (ps : Properties) (id : String) :
    withId (entry :: ps) id = if entry.1 = id then entry.2 :: ps.withId id else ps.withId id := by
  unfold withId
  split
  · next h => exact List.filterMap_cons_some (if_pos h)
  · next h => exact List.filterMap_cons_none (if_neg h)

theorem get?_eq_head?_withId (ps : Properties) (id : String) :
    ps.get? id = (ps.withId id).head? := by
  induction ps with
  | nil => rfl
  | cons entry ps ih =>
    rw [withId_cons]
    unfold get? at ih ⊢
    rw [List.find?_cons]
    by_cases h : entry.1 = id
    · simp [h]
    · have other : (entry.1 == id) = false := beq_eq_false_iff_ne.mpr h
      rw [other, if_neg h]
      exact ih

/-! ## Written directives -/

/-- The properties that a request of the directives `ds` holds. -/
def written (ds : List Directive) : Properties :=
  ds.flatMap fun d => [(classId, .text d.className), (valueId, .text d.value)]

/-- Only the ids of classes and values are written, and the directives stay in order. -/
theorem withId_written (ds : List Directive) (id : String) :
    (written ds).withId id =
      if id = classId then ds.map fun d => .text d.className
      else if id = valueId then ds.map fun d => .text d.value
      else [] := by
  have differ : classId ≠ valueId := by decide
  induction ds with
  | nil => simp [written, withId]
  | cons d ds ih =>
    have split : written (d :: ds) =
      (classId, .text d.className) :: (valueId, .text d.value) :: written ds := rfl
    rw [split, withId_cons, withId_cons, ih]
    grind

theorem pairedDirectives_written (ds : List Directive) : (written ds).pairedDirectives = ds := by
  rw [pairedDirectives, withId_written, withId_written, if_pos rfl, if_neg (by decide), if_pos rfl,
    List.zip_map', List.filterMap_map]
  exact List.filterMap_some

theorem olderDirectives_written (ds : List Directive) : (written ds).olderDirectives = [] := by
  refine List.filterMap_eq_nil_iff.mpr fun key older => ?_
  have other : key ≠ classId ∧ key ≠ valueId := by
    revert key
    decide
  rw [get?_eq_head?_withId, withId_written, if_neg other.1, if_neg other.2]
  rfl

/-- Directives that are written as a request are read back, all of them and in order. Only a request
without directives is refused. -/
theorem directives_ofDirectives (ds : List Directive) :
    (ofDirectives ds).directives = if ds = [] then .error .noDirective else .ok ds := by
  have container : (ofDirectives ds).container? = some (written ds) := rfl
  have all : (written ds).allDirectives = ds := by
    rw [allDirectives, pairedDirectives_written, olderDirectives_written, List.append_nil]
  rw [directives, container]
  simp only [all, List.isEmpty_iff]

/-- Texts that are ids themselves, an older key among them, are read back as texts. -/
example :
    (ofDirectives [⟨"nic", valueId⟩, ⟨classId, "cgroup"⟩, ⟨"nic", valueId⟩]).directives =
      .ok [⟨"nic", valueId⟩, ⟨classId, "cgroup"⟩, ⟨"nic", valueId⟩] := rfl

end HostMonitor.Placement.Properties
