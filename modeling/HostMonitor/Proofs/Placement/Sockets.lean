import HostMonitor.Proofs.Placement.Lists
import HostMonitor.Proofs.Placement.NodeFiles

/-!
# All sockets of a host

The nodes that a host lists as configured need not all be there. The cpus of all sockets can be
asked for, and a process be placed on them, exactly if each listed node has its file of cpus. One
that has none is in the way of those that do. The files of nodes and cpus stay the same meanwhile.
-/

namespace HostMonitor

namespace Placement

/-- Whether a node has a file that lists its cpus. -/
def Topology.IsPresent (files : Files) (roots : Topology.Roots) (node : Nat) : Prop :=
  ∃ content, files.read (cpulistPath roots node) = .ok content

namespace Resolver

open Placement.Topology (Roots IsPresent ofFiles readList? readNode readNodes cpulistPath)

variable {r : Resolver} {t : Topology} {files : Files} {roots : Roots} {nodes : String}
  {before after ids cpus : List Nat} {node cpu : Nat} {e : Error}

/-! ## Collecting the cpus of nodes -/

theorem exists_collectNodes_iff :
    (∃ cpus, collectNodes t ids = .ok cpus) ↔ ∀ node ∈ ids, ∃ own, t.cpusOfNode node = .ok own := by
  constructor
  · induction ids with
    | nil => simp
    | cons node ids ih =>
      rintro ⟨cpus, h⟩
      obtain ⟨own, first, h⟩ := Except.bind_eq_ok_iff.mp h
      obtain ⟨more, rest, -⟩ := Except.bind_eq_ok_iff.mp h
      exact List.forall_mem_cons.mpr ⟨⟨own, first⟩, ih ⟨more, rest⟩⟩
  · exact exists_collectNodes

/-- The first node without an answer decides, whatever comes after it. -/
theorem collectNodes_of_error (known : ∀ m ∈ before, ∃ own, t.cpusOfNode m = .ok own)
    (failed : t.cpusOfNode node = .error e) :
    collectNodes t (before ++ node :: after) = .error e := by
  induction before with
  | nil =>
    rw [List.nil_append, collectNodes, failed]
    rfl
  | cons m before ih =>
    obtain ⟨⟨own, first⟩, known⟩ := List.forall_mem_cons.mp known
    rw [List.cons_append, collectNodes, first, ih known]
    rfl

/-! ## Lists of sockets -/

theorem socketCpus_of_parse (read : CpuList.parse nodes t.nodes = .ok ids) :
    socketCpus t nodes = (collectNodes t ids).map CpuList.ascending := by
  rw [socketCpus, read]
  change (collectNodes t ids >>= fun cpus => .ok (CpuList.ascending cpus)) = _
  cases collectNodes t ids <;> rfl

theorem exists_socketCpus_iff (read : CpuList.parse nodes t.nodes = .ok ids) :
    (∃ cpus, socketCpus t nodes = .ok cpus) ↔
      ∀ node ∈ ids, ∃ own, t.cpusOfNode node = .ok own := by
  rw [← exists_collectNodes_iff, socketCpus_of_parse read]
  simp [Except.map_eq_ok_iff]

theorem mem_socketCpus (read : CpuList.parse nodes t.nodes = .ok ids)
    (h : socketCpus t nodes = .ok cpus) :
    cpu ∈ cpus ↔ ∃ node ∈ ids, ∃ own, t.cpusOfNode node = .ok own ∧ cpu ∈ own := by
  rw [socketCpus_of_parse read, Except.map_eq_ok_iff] at h
  obtain ⟨collected, h, rfl⟩ := h
  rw [CpuList.mem_ascending, mem_collectNodes h]

/-- A list of sockets fails for its least node that cannot be answered for. -/
theorem socketCpus_of_error (read : CpuList.parse nodes t.nodes = .ok ids) (member : node ∈ ids)
    (known : ∀ m ∈ ids, m < node → ∃ own, t.cpusOfNode m = .ok own)
    (failed : t.cpusOfNode node = .error e) : socketCpus t nodes = .error e := by
  obtain ⟨before, after, rfl⟩ := List.append_of_mem member
  have sorted := CpuList.pairwise_of_parse read
  have earlier : ∀ m ∈ before, ∃ own, t.cpusOfNode m = .ok own := fun m hm =>
    known m (by simp [hm]) ((List.pairwise_append.mp sorted).2.2 m hm node (by simp))
  rw [socketCpus_of_parse read, collectNodes_of_error earlier failed]
  rfl

/-! ## All sockets -/

theorem place_socket_of_error (enabled : r.isDisabled = false) (unhooked : r.config.hook = none)
    (available : r.topology.available = true) (failed : r.cpuList "socket" nodes = .error e)
    (disk : Disk) (target : Target) :
    r.place disk [⟨"socket", nodes⟩] target = .refused disk e := by
  have listing : (⟨"socket", nodes⟩ : Directive).IsList := .inl rfl
  have other : "socket" ≠ "cpu" := by decide
  obtain ⟨e', same, placed⟩ :=
    place_of_cpuList_error enabled unhooked available listing failed disk target
  exact same.eq_of_ne other ▸ placed

section All

variable (enabled : r.isDisabled = false) (available : r.topology.available = true)

include enabled available

theorem cpuList_all_sockets : r.cpuList "socket" "all" = socketCpus r.topology "all" := by
  simp [cpuList, enabled, available]

theorem exists_cpuList_all_iff :
    (∃ cpus, r.cpuList "socket" "all" = .ok cpus) ↔
      ∀ node ∈ r.topology.nodes, ∃ own, r.topology.cpusOfNode node = .ok own := by
  rw [cpuList_all_sockets enabled available, exists_socketCpus_iff (CpuList.parse_all _)]
  simp only [CpuList.mem_ascending]

theorem mem_cpuList_all (h : r.cpuList "socket" "all" = .ok cpus) :
    cpu ∈ cpus ↔
      ∃ node ∈ r.topology.nodes, ∃ own, r.topology.cpusOfNode node = .ok own ∧ cpu ∈ own := by
  rw [cpuList_all_sockets enabled available] at h
  rw [mem_socketCpus (CpuList.parse_all _) h]
  simp only [CpuList.mem_ascending]

theorem cpuList_all_of_error (member : node ∈ r.topology.nodes)
    (known : ∀ m ∈ r.topology.nodes, m < node → ∃ own, r.topology.cpusOfNode m = .ok own)
    (failed : r.topology.cpusOfNode node = .error e) : r.cpuList "socket" "all" = .error e := by
  rw [cpuList_all_sockets enabled available]
  refine socketCpus_of_error (CpuList.parse_all _) (CpuList.mem_ascending.mpr member) ?_ failed
  intro m hm
  exact known m (CpuList.mem_ascending.mp hm)

end All

/-! ## Nodes in files -/

theorem isPresent_of_readNode (read : readNode files roots node = .ok cpus) :
    IsPresent files roots node := by
  unfold readNode at read
  split at read
  · cases read
  · next content there => exact ⟨content, there⟩

theorem readNode_of_error {cause : FileError}
    (missing : files.read (cpulistPath roots node) = .error cause) :
    readNode files roots node = .error (.unreadableNode node cause) := by
  rw [readNode, missing]

/-- All sockets can be had exactly if every listed node has its file of cpus. They are the cpus of
these nodes in ascending order, and a process without a blacklist is bound to them. The least node
that has no file is the reason if they cannot be had, and nothing is changed then. -/
theorem place_all_sockets {kernel : Topology.Kernel} (enabled : r.isDisabled = false)
    (unhooked : r.config.hook = none) (described : r.topology = ofFiles files roots kernel)
    (root : files.contains roots.node = true)
    (sound : ∀ node ∈ readNodes files roots, IsPresent files roots node →
      ∃ own, readNode files roots node = .ok own)
    (disk : Disk) (pid : Int) :
    let listed := readNodes files roots
    let answer := r.cpuList "socket" "all"
    let outcome := r.place disk [⟨"socket", "all"⟩] ⟨pid, []⟩
    ((∃ cpus, answer = .ok cpus) ↔ ∀ node ∈ listed, IsPresent files roots node) ∧
    (∀ cpus, answer = .ok cpus → cpus.Pairwise (· < ·) ∧
      (∀ cpu, cpu ∈ cpus ↔ ∃ node ∈ listed, IsPresent files roots node ∧
        ∃ own, readNode files roots node = .ok own ∧ cpu ∈ own) ∧
      (cpus ≠ [] → r.topology.applyMask pid cpus = .ok () → outcome = .bound disk pid cpus)) ∧
    (∀ node ∈ listed, (∀ m ∈ listed, m < node → IsPresent files roots m) →
      ∀ cause, files.read (cpulistPath roots node) = .error cause →
        answer = .error (.unreadableNode node cause) ∧
          outcome = .refused disk (.unreadableNode node cause)) := by
  have nodes : r.topology.nodes = readNodes files roots := by rw [described]; rfl
  have own : r.topology.cpusOfNode = readNode files roots := by rw [described]; rfl
  have available : r.topology.available = true := by rw [described]; exact root
  have listing : (⟨"socket", "all"⟩ : Directive).IsList := .inl rfl
  intro listed answer outcome
  refine ⟨?had, fun cpus answered => ⟨pairwise_of_cpuList answered, ?members, ?bound⟩, ?absent⟩
  case had =>
    rw [exists_cpuList_all_iff enabled available, nodes, own]
    exact forall₂_congr fun node hn =>
      ⟨fun ⟨_, known⟩ => isPresent_of_readNode known, sound node hn⟩
  case members =>
    intro cpu
    rw [mem_cpuList_all enabled available answered, nodes, own]
    constructor
    · rintro ⟨node, hn, cpus, known, hc⟩
      exact ⟨node, hn, isPresent_of_readNode known, cpus, known, hc⟩
    · rintro ⟨node, hn, -, cpus, known, hc⟩
      exact ⟨node, hn, cpus, known, hc⟩
  case bound =>
    intro usable accepted
    exact (place_list_eq_bound_iff enabled unhooked available listing).mpr
      ⟨cpus, answered, (CpuList.without_nil cpus).symm, usable, accepted⟩
  case absent =>
    intro node hn known cause missing
    have answered : answer = .error (.unreadableNode node cause) := by
      apply cpuList_all_of_error enabled available
      · rw [nodes]
        exact hn
      · rw [nodes, own]
        exact fun m hm below => sound m hm (known m hm below)
      · rw [own]
        exact readNode_of_error missing
    exact ⟨answered, place_socket_of_error enabled unhooked available answered disk ⟨pid, []⟩⟩

/-! ## Hosts that list other nodes than they have -/

/-- The files of a host that lists its nodes as `possible` and has `nodes`, each with its cpus. -/
def nodeTree (possible : String) (nodes : List (Nat × String)) : FileTree :=
  let roots := Roots.standard
  FileTree.ofList <| (roots.node.child "possible", possible) ::
    nodes.map fun n => (cpulistPath roots n.1, n.2)

/-- A host with such files, whose kernel has nothing against any mask. -/
def nodeHost (possible : String) (nodes : List (Nat × String)) : Resolver :=
  let files := (nodeTree possible nodes).files
  { twoNodes with topology := ofFiles files Roots.standard fun _ _ => none }

theorem readNodes_of_possible (content : String)
    (there : files.read (roots.node.child "possible") = .ok content)
    (parsed : CpuList.parse content [] = .ok ids) : readNodes files roots = ids := by
  simp [readNodes, readList?, Files.read?, there, parsed, Except.toOption]

theorem readNode_of_parse (content : String)
    (there : files.read (cpulistPath roots node) = .ok content)
    (filled : (Text.trim content.toList).isEmpty = false)
    (parsed : CpuList.parse content [] = .ok cpus) : readNode files roots node = .ok cpus := by
  simp [readNode, there, filled, parsed, Except.mapError]

/-- All nodes of a host that are listed; another node is not listed. -/
theorem place_all_sockets_listed :
    let files := (nodeTree "0,2\n" [(0, "0-3\n"), (1, "4-5\n"), (2, "8-9\n")]).files
    let host := nodeHost "0,2\n" [(0, "0-3\n"), (1, "4-5\n"), (2, "8-9\n")]
    host.isDisabled = false ∧ host.config.hook = none ∧
      files.contains Roots.standard.node = true ∧
      readNodes files Roots.standard = [0, 2] ∧
      readNode files Roots.standard 0 = .ok [0, 1, 2, 3] ∧
      readNode files Roots.standard 1 = .ok [4, 5] ∧
      readNode files Roots.standard 2 = .ok [8, 9] ∧
      host.cpuList "socket" "all" = .ok [0, 1, 2, 3, 8, 9] ∧
      host.place (Disk.empty []) [⟨"socket", "all"⟩] ⟨1, []⟩ =
        .bound (Disk.empty []) 1 [0, 1, 2, 3, 8, 9] := by
  intro files host
  have enabled : host.isDisabled = false := by cbv
  have root : files.contains Roots.standard.node = true := by decide +kernel
  have listed : readNodes files Roots.standard = [0, 2] :=
    readNodes_of_possible "0,2\n" (by decide +kernel) (by cbv)
  have first : readNode files Roots.standard 0 = .ok [0, 1, 2, 3] :=
    readNode_of_parse "0-3\n" (by decide +kernel) (by cbv) (by cbv)
  have second : readNode files Roots.standard 1 = .ok [4, 5] :=
    readNode_of_parse "4-5\n" (by decide +kernel) (by cbv) (by cbv)
  have third : readNode files Roots.standard 2 = .ok [8, 9] :=
    readNode_of_parse "8-9\n" (by decide +kernel) (by cbv) (by cbv)
  have sound : ∀ node ∈ readNodes files Roots.standard, IsPresent files Roots.standard node →
      ∃ own, readNode files Roots.standard node = .ok own := by
    simp [listed, first, third]
  have described : host.topology = ofFiles files Roots.standard fun _ _ => none := rfl
  obtain ⟨had, answers, -⟩ :=
    place_all_sockets enabled rfl described root sound (Disk.empty []) 1
  obtain ⟨cpus, answer⟩ := had.mpr (by
    simp [listed, isPresent_of_readNode first, isPresent_of_readNode third])
  obtain ⟨sorted, members, bound⟩ := answers cpus answer
  obtain rfl : cpus = [0, 1, 2, 3, 8, 9] := by
    refine CpuList.eq_of_pairwise_lt sorted (by decide) fun cpu => ?_
    simp [members, listed, first, third, isPresent_of_readNode first, isPresent_of_readNode third]
    omega
  exact ⟨enabled, rfl, root, listed, first, second, third, answer, bound (by decide) rfl⟩

/-- A node is there only if there is a file for it. -/
theorem mem_of_isPresent {tree : FileTree} {nodes : List Nat}
    (keys : tree.keys = (roots.node.child "possible").components ::
      nodes.map fun node => (cpulistPath roots node).components)
    (present : IsPresent tree.files roots node) : node ∈ nodes := by
  obtain ⟨content, there⟩ := present
  by_contra absent
  have unread : tree.content? (cpulistPath roots node) = none := by
    refine FileTree.content?_eq_none_iff.mpr ?_
    rw [keys, List.mem_cons, List.mem_map]
    rintro (same | ⟨m, hm, same⟩)
    · exact Topology.possible_ne_cpulistPath _ _ same.symm
    · exact absent (Topology.cpulistPath_injective same ▸ hm)
  change tree.read _ = _ at there
  simp [FileTree.read, unread] at there

/-- A listed node between two others is not there, and neither are their cpus to be had. -/
theorem place_all_sockets_absent :
    let files := (nodeTree "0-2\n" [(0, "0-3\n"), (2, "8-9\n")]).files
    let host := nodeHost "0-2\n" [(0, "0-3\n"), (2, "8-9\n")]
    let missing := .unreadableNode 1 (.missingFile (cpulistPath Roots.standard 1))
    files.contains Roots.standard.node = true ∧
      (∀ node, IsPresent files Roots.standard node →
        ∃ own, readNode files Roots.standard node = .ok own) ∧
      readNodes files Roots.standard = [0, 1, 2] ∧
      readNode files Roots.standard 0 = .ok [0, 1, 2, 3] ∧
      readNode files Roots.standard 2 = .ok [8, 9] ∧
      host.cpuList "socket" "all" = .error missing ∧
      host.place (Disk.empty []) [⟨"socket", "all"⟩] ⟨1, []⟩ =
        .refused (Disk.empty []) missing := by
  intro files host missing
  have enabled : host.isDisabled = false := by cbv
  have root : files.contains Roots.standard.node = true := by decide +kernel
  have listed : readNodes files Roots.standard = [0, 1, 2] :=
    readNodes_of_possible "0-2\n" (by decide +kernel) (by cbv)
  have first : readNode files Roots.standard 0 = .ok [0, 1, 2, 3] :=
    readNode_of_parse "0-3\n" (by decide +kernel) (by cbv) (by cbv)
  have third : readNode files Roots.standard 2 = .ok [8, 9] :=
    readNode_of_parse "8-9\n" (by decide +kernel) (by cbv) (by cbv)
  have second : readNode files Roots.standard 1 = .error missing :=
    readNode_of_error (by decide +kernel)
  have nodes : host.topology.nodes = [0, 1, 2] := listed
  have failed : host.cpuList "socket" "all" = .error missing := by
    have member : 1 ∈ host.topology.nodes := by simp [nodes]
    refine cpuList_all_of_error enabled root member (fun m _ below => ?_) second
    obtain rfl : m = 0 := by omega
    exact ⟨_, first⟩
  have sound : ∀ node, IsPresent files Roots.standard node →
      ∃ own, readNode files Roots.standard node = .ok own := by
    intro node present
    have there : node ∈ [0, 2] := mem_of_isPresent (by decide +kernel) present
    simp only [List.mem_cons, List.not_mem_nil, or_false] at there
    rcases there with rfl | rfl
    · exact ⟨_, first⟩
    · exact ⟨_, third⟩
  exact ⟨root, sound, listed, first, third, failed,
    place_socket_of_error enabled rfl root failed _ _⟩

end Resolver

end Placement

end HostMonitor
