import HostMonitor.Proofs.Placement.Properties
import Mathlib.Data.List.Basic

/-!
# What a container says

The directives of a container depend on nothing but the properties that it has under each known id,
in their order: the classes and the values by position, the older keys by the first property of
each. The tests for a request ask no more and no less than what reading it gives.
-/

namespace HostMonitor.Placement

/-- The list on the right is what the members of the other stand for, in their order; a member may
stand for nothing. -/
inductive Gathers {α β : Type} (R : α → β → Prop) : List α → List β → Prop where
  | nil : Gathers R [] []
  | taken {x : α} {y : β} {xs : List α} {ys : List β} (here : R x y) (rest : Gathers R xs ys) :
      Gathers R (x :: xs) (y :: ys)
  | skipped {x : α} {xs : List α} {ys : List β} (nothing : ∀ y, ¬R x y) (rest : Gathers R xs ys) :
      Gathers R (x :: xs) ys

theorem gathers_filterMap {α β : Type} {R : α → β → Prop} {f : α → Option β}
    (h : ∀ x y, f x = some y ↔ R x y) (xs : List α) : Gathers R xs (xs.filterMap f) := by
  induction xs with
  | nil => exact .nil
  | cons x xs ih =>
    cases result : f x with
    | none =>
      rw [List.filterMap_cons_none result]
      exact .skipped (fun y hy => by simp [(h x y).mpr hy] at result) ih
    | some y =>
      rw [List.filterMap_cons_some result]
      exact .taken ((h x y).mp result) ih

theorem filterMap_eq_filterMap_range {α β : Type} (xs : List α) (f : α → Option β) :
    xs.filterMap f = (List.range xs.length).filterMap fun n => xs[n]?.bind f := by
  induction xs with
  | nil => rfl
  | cons x xs ih =>
    rw [List.length_cons, List.range_succ_eq_map, List.filterMap_cons, List.filterMap_cons,
      List.filterMap_map, ih]
    rfl

namespace Properties

variable {ps ps' inner inner' : Properties} {d : Directive} {ds : List Directive}

/-! ## Directives of a container -/

/-- The ids that are read inside a container. -/
def knownIds : List String :=
  classId :: valueId :: olderKeys

/-- The classes and the values at position `n` make a directive. -/
def PairedAt (inner : Properties) (n : Nat) (d : Directive) : Prop :=
  ∃ c v, (inner.withId classId)[n]? = some c ∧ (inner.withId valueId)[n]? = some v ∧
    c.text? = some d.className ∧ v.text? = some d.value

/-- The first property under an older key makes a directive. -/
def FirstUnder (inner : Properties) (key : String) (d : Directive) : Prop :=
  d.className = key ∧ ∃ v, (inner.withId key).head? = some v ∧ v.text? = some d.value

theorem pair?_eq_some_iff {c v : Property} :
    pair? c v = some d ↔ c.text? = some d.className ∧ v.text? = some d.value := by
  obtain ⟨className, value⟩ := d
  cases hc : c.text? <;> cases hv : v.text? <;> simp [pair?, hc, hv]

theorem gathers_pairedDirectives (inner : Properties) :
    Gathers inner.PairedAt
      (List.range (min (inner.withId classId).length (inner.withId valueId).length))
      inner.pairedDirectives := by
  -- Pairs are taken by position first, so that one without a text shifts none of the others.
  rw [pairedDirectives, filterMap_eq_filterMap_range, List.length_zip]
  refine gathers_filterMap (fun n d => ?_) _
  simp only [Option.bind_eq_some_iff, Prod.exists, List.getElem?_zip_eq_some, pair?_eq_some_iff,
    PairedAt, and_assoc]

theorem gathers_olderDirectives (inner : Properties) :
    Gathers inner.FirstUnder olderKeys inner.olderDirectives := by
  refine gathers_filterMap (fun key d => ?_) _
  obtain ⟨className, value⟩ := d
  simp only [get?_eq_head?_withId, FirstUnder]
  cases first : (inner.withId key).head? with
  | none => simp
  | some v => cases text : v.text? <;> simp [text, eq_comm]

theorem allDirectives_congr (same : ∀ id ∈ knownIds, inner.withId id = inner'.withId id) :
    inner.allDirectives = inner'.allDirectives := by
  have classes := same classId (by decide)
  have values := same valueId (by decide)
  have older : inner.olderDirectives = inner'.olderDirectives := by
    refine List.filterMap_congr fun key hkey => ?_
    have known : key ∈ knownIds := List.mem_cons_of_mem _ (List.mem_cons_of_mem _ hkey)
    rw [get?_eq_head?_withId, get?_eq_head?_withId, same key known]
  rw [allDirectives, allDirectives, pairedDirectives, pairedDirectives, classes, values, older]

theorem directives_of_container (h : ps.container? = some inner) :
    ps.directives =
      if inner.allDirectives = [] then .error .noDirective else .ok inner.allDirectives := by
  simp only [directives, h, List.isEmpty_iff]

/-- Two requests whose containers have the same properties under each known id are read alike,
however the ids alternate and whatever else is there: the n-th class with the n-th value where both
have a text, and then at most one directive for each older key. -/
theorem directives_of_same_properties (container : ps.container? = some inner)
    (container' : ps'.container? = some inner')
    (same : ∀ id ∈ knownIds, inner.withId id = inner'.withId id) :
    ps.directives = ps'.directives ∧
    ∃ paired older,
      Gathers inner.PairedAt
        (List.range (min (inner.withId classId).length (inner.withId valueId).length)) paired ∧
      Gathers inner.FirstUnder ["nic", "socket", "cpu", "cpuset", "cgroup"] older ∧
      ps.directives =
        if paired ++ older = [] then .error .noDirective else .ok (paired ++ older) := by
  constructor
  · rw [directives_of_container container, directives_of_container container',
      allDirectives_congr same]
  · exact ⟨inner.pairedDirectives, inner.olderDirectives, gathers_pairedDirectives inner,
      gathers_olderDirectives inner, directives_of_container container⟩

/-- A value without a text leaves out its class and shifts nothing. -/
def plainContainer : Properties :=
  [(classId, .text "socket"), (valueId, .nested []), (classId, .integer 3), (valueId, .text "0,2"),
    ("cpu", .nested []), ("cpu", .text "1"), ("nic", .text "eth0")]

/-- The same properties in another order, and some that are not known. -/
def shuffledContainer : Properties :=
  [("nic", .text "eth0"), ("priority", .integer 9), ("cpu", .nested []), (classId, .text "socket"),
    (classId, .integer 3), ("cpu", .text "1"), (valueId, .nested []), ("NIC", .text "eth1"),
    (valueId, .text "0,2")]

theorem directives_of_shuffledContainer :
    (∀ id ∈ knownIds, plainContainer.withId id = shuffledContainer.withId id) ∧
    directives [(containerId, .nested plainContainer)] =
      directives [("priority", .text "9"), ("AFFINITY", .nested shuffledContainer)] ∧
    directives [(containerId, .nested plainContainer)] = .ok [⟨"3", "0,2"⟩, ⟨"nic", "eth0"⟩] := by
  have same : ∀ id ∈ knownIds, plainContainer.withId id = shuffledContainer.withId id := by
    simp only [knownIds, olderKeys, List.forall_mem_cons]
    exact ⟨rfl, rfl, rfl, rfl, rfl, rfl, rfl, nofun⟩
  exact ⟨same, (directives_of_same_properties rfl rfl same).1, by decide +kernel⟩

/-! ## Tests for a request -/

theorem mem_of_get? {id : String} {v : Property} (h : ps.get? id = some v) : (id, v) ∈ ps := by
  obtain ⟨⟨key, v'⟩, found, rfl⟩ := Option.map_eq_some_iff.mp h
  have key_eq : key = id := by simpa using List.find?_some found
  exact key_eq ▸ List.mem_of_find?_eq_some found

/-- The container is the first property under its id, in lower or else in upper case. -/
theorem mem_of_container? (h : ps.container? = some inner) :
    (containerId, .nested inner) ∈ ps ∨ ("AFFINITY", .nested inner) ∈ ps := by
  unfold container? at h
  split at h
  · next entries found =>
    cases h
    rcases Option.or_eq_some_iff.mp found with lower | ⟨-, upper⟩
    · exact .inl (mem_of_get? lower)
    · exact .inr (mem_of_get? upper)
  · cases h

theorem mentionsPlacement_iff :
    ps.mentionsPlacement = true ↔
      ∃ entry ∈ ps, ∃ head rest,
        entry.1.toList = head ++ rest ∧ Text.asciiLower head = containerId.toList := by
  simp only [mentionsPlacement, List.any_eq_true, beq_iff_eq]
  constructor
  · rintro ⟨entry, mem, lower⟩
    exact ⟨entry, mem, _, _, (List.take_append_drop _ _).symm, lower⟩
  · rintro ⟨entry, mem, head, rest, whole, lower⟩
    refine ⟨entry, mem, ?_⟩
    have length : head.length = containerId.length := by
      rw [← String.length_toList, ← lower, Text.asciiLower, List.length_map]
    rw [whole, List.take_left' length, lower]

theorem mentionsPlacement_of_container? (h : ps.container? = some inner) :
    ps.mentionsPlacement = true := by
  rw [mentionsPlacement_iff]
  rcases mem_of_container? h with lower | upper
  · exact ⟨_, lower, containerId.toList, [], by simp, by decide⟩
  · exact ⟨_, upper, "AFFINITY".toList, [], by simp, by decide⟩

theorem directives_eq_ok_iff :
    ps.directives = .ok ds ↔
      ∃ inner, ps.container? = some inner ∧ inner.allDirectives = ds ∧ ds ≠ [] := by
  cases container : ps.container? with
  | none => simp [directives, container]
  | some inner =>
    rw [directives_of_container container]
    split
    · next nothing => simp [nothing, eq_comm]
    · next written => grind

/-- A request mentions an interface exactly when it can be read and has a directive for one, and
every request that can be read mentions a placement. -/
theorem mentions_directives (ps : Properties) :
    (ps.mentionsInterface = true ↔ ∃ ds, ps.directives = .ok ds ∧ ∃ d ∈ ds, d.className = "nic") ∧
    ∀ ds, ps.directives = .ok ds → ps.mentionsPlacement = true := by
  simp only [directives_eq_ok_iff]
  constructor
  · unfold mentionsInterface
    cases container : ps.container? with
    | none => simp
    | some inner =>
      simp only [List.any_eq_true, beq_iff_eq, Option.some.injEq]
      constructor
      · rintro ⟨d, hd, nic⟩
        exact ⟨_, ⟨inner, rfl, rfl, List.ne_nil_of_mem hd⟩, d, hd, nic⟩
      · rintro ⟨ds, ⟨_, rfl, rfl, -⟩, d, hd, nic⟩
        exact ⟨d, hd, nic⟩
  · rintro ds ⟨inner, container, -⟩
    exact mentionsPlacement_of_container? container

/-- A request can be mentioned and still not be read. -/
example :
    mentionsPlacement [("Affinity", .nested [("nic", .text "eth0")])] = true ∧
      directives [("Affinity", .nested [("nic", .text "eth0")])] = .error .noProperty := by
  decide

end Properties

end HostMonitor.Placement
