import HostMonitor.Cpu.Usage
import Mathlib.Algebra.Order.BigOperators.Group.List
import Mathlib.Tactic.IntervalCases

/-!
# Sums of cpu times

Records are added category by category, and every sum stops at the largest word. Counters only add
to a sum, so it does not matter when it stops: a sum of records depends neither on their order nor
on how they are grouped, and its total is the sum of the totals.
-/

namespace HostMonitor

/-! ## Counters -/

namespace Counter

theorem value_foldl_add (cs : List Counter) (a : Counter) :
    (cs.foldl add a).value = min (a.value + (cs.map value).sum) (1 <<< 64 - 1) := by
  induction cs generalizing a with
  | nil =>
    have := a.value_lt
    simp
    omega
  | cons c cs ih =>
    rw [List.foldl_cons, ih, value_add, List.map_cons, List.sum_cons]
    omega

theorem value_sum (cs : List Counter) :
    (sum cs).value = min (cs.map value).sum (2 ^ 64 - 1) := by
  simp [sum, value_foldl_add]

end Counter

/-! ## Categories -/

theorem Category.mem_all (c : Category) : c ∈ Category.all := by
  cases c <;> decide

instance (p : Category → Prop) [DecidablePred p] : Decidable (∀ c, p c) :=
  decidable_of_iff (∀ c ∈ Category.all, p c) ⟨fun h c => h c c.mem_all, fun h c _ => h c⟩

namespace Jiffies

theorem map_get_all (j : Jiffies) : Category.all.map j.get = j.counts := by
  obtain ⟨counts, length⟩ := j
  apply List.ext_getElem
  · exact length.symm
  · intro i hi hi'
    change i < 10 at hi
    interval_cases i <;> rfl

theorem ext_get {a b : Jiffies} (h : ∀ c, a.get c = b.get c) : a = b := by
  have counts : a.counts = b.counts := by
    rw [← map_get_all a, ← map_get_all b, funext h]
  cases a
  cases b
  simp_all

theorem get_zero (c : Category) : zero.get c = Counter.zero := by
  cases c <;> rfl

theorem get_add (a b : Jiffies) (c : Category) :
    (a.add b).get c = (a.get c).add (b.get c) := by
  simp only [get, add, List.get_eq_getElem, List.getElem_zipWith]
  rfl

theorem get_sum (js : List Jiffies) (c : Category) :
    (sum js).get c = Counter.sum (js.map (·.get c)) := by
  rw [sum, Counter.sum, List.foldl_map, ← get_zero c]
  refine (List.foldl_hom (fun j : Jiffies => j.get c) ?_).symm
  exact fun a b => (get_add a b c).symm

theorem value_get_sum (js : List Jiffies) (c : Category) :
    ((sum js).get c).value = min (js.map fun j => (j.get c).value).sum (2 ^ 64 - 1) := by
  rw [get_sum, Counter.value_sum, List.map_map]
  rfl

theorem sum_singleton (j : Jiffies) : sum [j] = j := by
  refine ext_get fun c => Counter.ext ?_
  have := (j.get c).value_lt
  rw [value_get_sum, List.map_singleton, List.sum_singleton]
  omega

theorem sum_append (js js' : List Jiffies) : sum (js ++ js') = (sum js).add (sum js') := by
  refine ext_get fun c => Counter.ext ?_
  simp only [get_add, Counter.value_add, value_get_sum, List.map_append, List.sum_append]
  omega

theorem sum_perm {js js' : List Jiffies} (h : js.Perm js') : sum js = sum js' := by
  refine ext_get fun c => Counter.ext ?_
  rw [value_get_sum, value_get_sum, (h.map _).sum_eq]

/-! ## Totals -/

/-- The jiffies of all categories together. -/
def whole (j : Jiffies) : Nat :=
  (Category.all.map fun c => (j.get c).value).sum

theorem get_le_whole (j : Jiffies) (c : Category) : (j.get c).value ≤ j.whole :=
  List.le_sum_of_mem (List.mem_map_of_mem c.mem_all)

theorem value_total (j : Jiffies) : j.total.value = min j.whole (2 ^ 64 - 1) := by
  have counts : j.counts.map Counter.value = Category.all.map fun c => (j.get c).value := by
    rw [← map_get_all j, List.map_map]
    rfl
  rw [total, Counter.value_sum, counts, whole]

/-- Parts that have stopped at a bound do not show in a sum that stops there too. -/
theorem min_sum_map_min (xs : List Nat) (n : Nat) :
    min (xs.map (min · n)).sum n = min xs.sum n := by
  induction xs with
  | nil => rfl
  | cons x xs ih =>
    simp only [List.map_cons, List.sum_cons]
    omega

theorem total_add (a b : Jiffies) : (a.add b).total = a.total.add b.total := by
  have whole_add : (a.add b).whole =
      ((Category.all.map fun c => (a.get c).value + (b.get c).value).map
        (min · (2 ^ 64 - 1))).sum := by
    simp [whole, get_add, Function.comp_def]
  ext
  rw [Counter.value_add, value_total, value_total, value_total, whole_add, min_sum_map_min,
    List.sum_map_add]
  unfold whole
  omega

theorem total_sum (js : List Jiffies) : (sum js).total = Counter.sum (js.map total) := by
  rw [sum, Counter.sum, List.foldl_map]
  refine (List.foldl_hom total ?_).symm
  exact fun a b => (total_add a b).symm

theorem value_total_sum (js : List Jiffies) :
    (sum js).total.value = min (js.map whole).sum (2 ^ 64 - 1) := by
  have values : (js.map total).map Counter.value = (js.map whole).map (min · (2 ^ 64 - 1)) := by
    simp [value_total]
  rw [total_sum, Counter.value_sum, values, min_sum_map_min]

/-! ## Groupings -/

/-- A way to add records up, two at a time. An accumulator that takes one record after the other
starts from nothing and leans to the left. -/
inductive Grouping where
  | nothing
  | one (j : Jiffies)
  | both (left right : Grouping)

namespace Grouping

/-- The records from left to right. -/
def records : Grouping → List Jiffies
  | nothing => []
  | one j => [j]
  | both left right => left.records ++ right.records

def result : Grouping → Jiffies
  | nothing => zero
  | one j => j
  | both left right => left.result.add right.result

theorem result_eq_sum (g : Grouping) : g.result = sum g.records := by
  induction g with
  | nothing => rfl
  | one j => exact (sum_singleton j).symm
  | both left right ihl ihr => rw [result, records, sum_append, ihl, ihr]

end Grouping

end Jiffies

/-! ## Chosen cpus -/

namespace Usage

/-- Usage of chosen cpus before the first sample. -/
def ofCpus (cpus : List Nat) : Usage := { cpus := some cpus }

theorem sampleOf_ofCpus_perm {cpus cpus' : List Nat} (h : cpus.Perm cpus') (s : Stat) :
    (ofCpus cpus).sampleOf s = (ofCpus cpus').sampleOf s :=
  Jiffies.sum_perm (h.filterMap _)

theorem sampleOf_ofCpus_append (cpus cpus' : List Nat) (s : Stat) :
    (ofCpus (cpus ++ cpus')).sampleOf s =
      ((ofCpus cpus).sampleOf s).add ((ofCpus cpus').sampleOf s) := by
  simp only [sampleOf, ofCpus, List.filterMap_append, Jiffies.sum_append]

/-- The cpus of two lists that have none in common, each as often as it is listed. -/
structure Unites (union cpus cpus' : List Nat) : Prop where
  disjoint : cpus.Disjoint cpus'
  count_eq : ∀ cpu, union.count cpu = max (cpus.count cpu) (cpus'.count cpu)

theorem Unites.perm {union cpus cpus' : List Nat} (h : Unites union cpus cpus') :
    union.Perm (cpus ++ cpus') := by
  rw [List.perm_iff_count]
  intro cpu
  rw [h.count_eq, List.count_append]
  by_cases listed : cpu ∈ cpus
  · simp [List.count_eq_zero_of_not_mem (h.disjoint listed)]
  · simp [List.count_eq_zero_of_not_mem listed]

end Usage

/-- Records add up to the same in any order and in any grouping, and their totals add up to the
total. So the order in which cpus are listed does not matter, and what is sampled of separate lists
adds up to what is sampled of all their cpus. -/
theorem Jiffies.sum_in_any_way (js : List Jiffies) (s : Stat) :
    (∀ g : Grouping, g.records.Perm js → g.result = sum js) ∧
    (sum js).total = Counter.sum (js.map total) ∧
    (∀ cpus cpus' : List Nat, cpus.Perm cpus' →
      (Usage.ofCpus cpus).sampleOf s = (Usage.ofCpus cpus').sampleOf s) ∧
    ∀ union cpus cpus', Usage.Unites union cpus cpus' →
      ((Usage.ofCpus cpus).sampleOf s).add ((Usage.ofCpus cpus').sampleOf s) =
        (Usage.ofCpus union).sampleOf s := by
  refine ⟨?grouping, total_sum js, ?order, ?union⟩
  case grouping =>
    intro g perm
    rw [g.result_eq_sum, sum_perm perm]
  case order =>
    intro cpus cpus' perm
    exact Usage.sampleOf_ofCpus_perm perm s
  case union =>
    intro union cpus cpus' unites
    rw [← Usage.sampleOf_ofCpus_append]
    exact (Usage.sampleOf_ofCpus_perm unites.perm s).symm

/-- A host with three cpus, of which the first has used up a word. -/
def threeCpus : Stat where
  jiffies := Jiffies.zero
  bootTime := Counter.clamp 1
  perCpu := .ofList [(0, .ofList ([2 ^ 64 - 1, 5].map Counter.clamp)),
    (1, .ofList ([7, 2 ^ 63].map Counter.clamp)), (2, .ofList ([3, 2 ^ 63].map Counter.clamp))]

theorem Jiffies.sum_in_any_way_threeCpus :
    let js := threeCpus.perCpu.values
    let g := Grouping.both (.one js[2]) (.both (.one js[0]) (.both .nothing (.one js[1])))
    let sample (cpus : List Nat) := (Usage.ofCpus cpus).sampleOf threeCpus
    g.records.Perm js ∧ g.result = sum js ∧ (sum js).total = Counter.sum (js.map total) ∧
      [2, 0, 1].Perm [0, 1, 2] ∧ sample [2, 0, 1] = sample [0, 1, 2] ∧
      Usage.Unites [2, 0, 1] [1] [0, 2] ∧ (sample [1]).add (sample [0, 2]) = sample [2, 0, 1] := by
  intro js g sample
  obtain ⟨groupings, totals, orders, unions⟩ := sum_in_any_way js threeCpus
  have perm : g.records.Perm js := by decide
  have order : [2, 0, 1].Perm [0, 1, 2] := by decide
  have unites : Usage.Unites [2, 0, 1] [1] [0, 2] := by
    refine ⟨by simp, fun cpu => ?_⟩
    simp only [List.count_cons, List.count_nil]
    grind
  exact ⟨perm, groupings g perm, totals, order, orders _ _ order, unites, unions _ _ _ unites⟩

end HostMonitor
