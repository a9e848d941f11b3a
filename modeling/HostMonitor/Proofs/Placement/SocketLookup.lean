import HostMonitor.Proofs.Placement.Interfaces

/-!
# The socket that serves an interface

The cpus that serve an interface, as far as they are not blacklisted, give its socket: all of them
if they agree, or the least of them if that is enough. One that is on no node, or on another one,
spoils the agreement wherever it stands. The interrupts are read and the topology is asked at one
time.
-/

namespace HostMonitor

namespace Placement.Resolver

variable {r : Resolver} {iface : String} {blacklist larger : List Nat} {cpu socket : Nat}

/-- Whether a cpu serves the interface and is not blacklisted. -/
def IsUsable (r : Resolver) (iface : String) (blacklist : List Nat) (cpu : Nat) : Prop :=
  cpu ∈ r.interruptCpus iface ∧ cpu ∉ blacklist

instance : DecidablePred (r.IsUsable iface blacklist) :=
  fun _ => inferInstanceAs (Decidable (_ ∧ _))

theorem IsUsable.of_larger (h : r.IsUsable iface larger cpu)
    (more : ∀ id ∈ blacklist, id ∈ larger) :
    r.IsUsable iface blacklist cpu :=
  ⟨h.1, fun listed => h.2 (more cpu listed)⟩

theorem exists_least_usable (some : ∃ cpu, r.IsUsable iface blacklist cpu) :
    ∃ least, r.IsUsable iface blacklist least ∧
      ∀ cpu, r.IsUsable iface blacklist cpu → least ≤ cpu :=
  ⟨Nat.find some, Nat.find_spec some, fun _ usable => Nat.find_min' some usable⟩

theorem mem_usable :
    cpu ∈ CpuList.without (r.interruptCpus iface) blacklist ↔ r.IsUsable iface blacklist cpu :=
  CpuList.mem_without

theorem usable_ne_nil_iff :
    CpuList.without (r.interruptCpus iface) blacklist ≠ [] ↔
      ∃ cpu, r.IsUsable iface blacklist cpu := by
  simp [← mem_usable, List.eq_nil_iff_forall_not_mem]

theorem pairwise_usable (r : Resolver) (iface : String) (blacklist : List Nat) :
    (CpuList.without (r.interruptCpus iface) blacklist).Pairwise (· < ·) :=
  (r.pairwise_interruptCpus iface).filter _

/-! ## Agreement -/

/-- The scan keeps the node that it has found, so every further cpu has to be on it. -/
theorem sharedNode_eq_some_iff {nodeOf : Nat → Option Nat} {found : Option Nat} {cpus : List Nat} :
    sharedNode nodeOf found cpus = some socket ↔
      (found = some socket ∨ found = none ∧ cpus ≠ []) ∧
        ∀ cpu ∈ cpus, nodeOf cpu = some socket := by
  induction cpus generalizing found with
  | nil => simp [sharedNode]
  | cons cpu cpus ih =>
    unfold sharedNode
    cases on : nodeOf cpu with
    | none => simp [on]
    | some node =>
      cases found with
      | none => simp [ih, on]
      | some before =>
        by_cases same : before = node
        · simp [ih, on, same]
        · simp only [Option.all_some, beq_iff_eq, same, if_false]
          simp [on]
          omega

section Lookup

variable (enabled : r.isDisabled = false) (available : r.topology.available = true)

include enabled available

theorem findSocket_all_iff :
    r.findSocket iface false blacklist = some socket ↔
      (∃ cpu, r.IsUsable iface blacklist cpu) ∧
        ∀ cpu, r.IsUsable iface blacklist cpu → r.topology.nodeOfCpu cpu = some socket := by
  simp [findSocket, enabled, available, sharedNode_eq_some_iff, ← usable_ne_nil_iff, mem_usable]

theorem findSocket_first_of_none (none : ∀ cpu, ¬r.IsUsable iface blacklist cpu) :
    r.findSocket iface true blacklist = Option.none := by
  have empty : CpuList.without (r.interruptCpus iface) blacklist = [] := by
    by_contra filled
    obtain ⟨cpu, usable⟩ := usable_ne_nil_iff.mp filled
    exact none cpu usable
  simp [findSocket, enabled, available, empty, sharedNode]

theorem findSocket_first_of_least (usable : r.IsUsable iface blacklist cpu)
    (least : ∀ other, r.IsUsable iface blacklist other → cpu ≤ other) :
    r.findSocket iface true blacklist = r.topology.nodeOfCpu cpu := by
  obtain ⟨rest, split⟩ := CpuList.exists_eq_cons_of_least (r.pairwise_usable iface blacklist)
    (mem_usable.mpr usable) fun other member => least other (mem_usable.mp member)
  cases on : r.topology.nodeOfCpu cpu <;>
    simp [findSocket, enabled, available, split, sharedNode, on]

theorem findSocket_first_of_all (h : r.findSocket iface false blacklist = some socket) :
    r.findSocket iface true blacklist = some socket := by
  obtain ⟨some, agreed⟩ := (findSocket_all_iff enabled available).mp h
  obtain ⟨least, usable, below⟩ := exists_least_usable some
  rw [findSocket_first_of_least enabled available usable below, agreed least usable]

theorem findSocket_all_of_larger (h : r.findSocket iface false blacklist = some socket)
    (more : ∀ id ∈ blacklist, id ∈ larger) (left : ∃ cpu, r.IsUsable iface larger cpu) :
    r.findSocket iface false larger = some socket := by
  obtain ⟨-, agreed⟩ := (findSocket_all_iff enabled available).mp h
  refine (findSocket_all_iff enabled available).mpr ⟨left, fun cpu usable => ?_⟩
  exact agreed cpu (usable.of_larger more)

/-- The socket of an interface is the one that all its usable cpus are on, and there has to be such
a cpu. If the first is enough it is the one that the least of them is on. So an answer on which all
agree is the answer of the first too, and no cpu that is blacklisted further changes it as long as
one is left. -/
theorem findSocket_agreed (iface : String) (blacklist : List Nat) :
    (∀ socket, r.findSocket iface false blacklist = some socket ↔
      (∃ cpu, r.IsUsable iface blacklist cpu) ∧
        ∀ cpu, r.IsUsable iface blacklist cpu → r.topology.nodeOfCpu cpu = some socket) ∧
    ((∀ cpu, ¬r.IsUsable iface blacklist cpu) → r.findSocket iface true blacklist = none) ∧
    (∀ least, r.IsUsable iface blacklist least →
      (∀ cpu, r.IsUsable iface blacklist cpu → least ≤ cpu) →
        r.findSocket iface true blacklist = r.topology.nodeOfCpu least) ∧
    (∀ socket, r.findSocket iface false blacklist = some socket →
      r.findSocket iface true blacklist = some socket ∧
      ∀ larger, (∀ id ∈ blacklist, id ∈ larger) → (∃ cpu, r.IsUsable iface larger cpu) →
        r.findSocket iface false larger = some socket ∧
          r.findSocket iface true larger = some socket) := by
  refine ⟨fun socket => findSocket_all_iff enabled available,
    findSocket_first_of_none enabled available,
    fun least => findSocket_first_of_least enabled available, fun socket h => ?_⟩
  refine ⟨findSocket_first_of_all enabled available h, fun larger more left => ?_⟩
  have again := findSocket_all_of_larger enabled available h more left
  exact ⟨again, findSocket_first_of_all enabled available again⟩

end Lookup

/-! ## An interface that two sockets serve -/

/-- The host with two nodes, and the interrupts of `eth2` at one cpu of the first and two of the
second. -/
def twoSockets : Resolver :=
  let table := "  CPU0 CPU1 CPU2 CPU3 CPU4 CPU5 CPU6 CPU7\n" ++
    " 43: 0 4 0 0 0 0 0 0 edge eth2-rx-0\n 44: 0 0 0 0 0 3 8 0 edge eth2-rx-1\n"
  { twoNodes with files := { Files.empty with read := fun _ => .ok table } }

/-- The two sockets do not agree until the cpu of the first is blacklisted. Then they do, and
another cpu may be blacklisted as well. -/
theorem findSocket_agreed_twoSockets :
    twoSockets.isDisabled = false ∧ twoSockets.topology.available = true ∧
      twoSockets.interruptCpus "eth2" = [1, 5, 6] ∧
      twoSockets.findSocket "eth2" true [] = some 0 ∧
      (∀ socket, twoSockets.findSocket "eth2" false [] ≠ some socket) ∧
      twoSockets.findSocket "eth2" false [1] = some 1 ∧
      twoSockets.findSocket "eth2" true [1] = some 1 ∧
      twoSockets.findSocket "eth2" false [5, 1] = some 1 := by
  have enabled : twoSockets.isDisabled = false := by cbv
  have available : twoSockets.topology.available = true := by cbv
  have serving : twoSockets.interruptCpus "eth2" = [1, 5, 6] := by cbv
  have on : twoSockets.topology.nodeOfCpu 1 = some 0 ∧ twoSockets.topology.nodeOfCpu 5 = some 1 ∧
      twoSockets.topology.nodeOfCpu 6 = some 1 := by decide
  obtain ⟨all, -, first, -⟩ := findSocket_agreed enabled available "eth2" []
  obtain ⟨all', -, -, kept⟩ := findSocket_agreed enabled available "eth2" [1]
  simp only [IsUsable, serving] at all first all' kept
  have agreed : twoSockets.findSocket "eth2" false [1] = some 1 := by
    refine (all' 1).mpr ⟨⟨5, by decide⟩, ?_⟩
    simp [on]
  refine ⟨enabled, available, serving, ?_, fun socket => ?_, agreed, (kept 1 agreed).1, ?_⟩
  · rw [first 1 (by decide) (by simp), on.1]
  · simp [all, on]
    omega
  · exact ((kept 1 agreed).2 [5, 1] (by decide) ⟨6, by decide⟩).1

end Placement.Resolver

end HostMonitor
