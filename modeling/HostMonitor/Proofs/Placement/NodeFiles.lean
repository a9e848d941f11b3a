import Mathlib.Data.List.Find
import Mathlib.Data.List.Nodup
import HostMonitor.Placement.Topology
import HostMonitor.Proofs.CpuList.RoundTrip
import HostMonitor.Proofs.File.Contents

/-!
# Topologies in files

A table of nodes can be written out as the kernel does it, one file of cpus for each node. The
topology that is read from these files answers all questions about nodes and cpus as the table does.
-/

namespace HostMonitor.Placement.Topology

open Text

/-- A table that can be written out: every node once, in ascending order, each with its cpus in
ascending order. -/
structure IsNodeTable (table : List (Nat × List Nat)) : Prop where
  nodes_ascending : (table.map (·.1)).Pairwise (· < ·)
  nodes_bounded : ∀ n ∈ table, n.1 < 2 ^ 64
  cpus_ascending : ∀ n ∈ table, n.2.Pairwise (· < ·)
  cpus_bounded : ∀ n ∈ table, ∀ cpu ∈ n.2, cpu < 2 ^ 64 - 1

/-- The file in which the kernel describes a node and its cpus. -/
def nodeFile (roots : Roots) (n : Nat × List Nat) : Except Overflow (Path × String) := do
  let text ← CpuList.format n.2
  return (cpulistPath roots n.1, text ++ "\n")

def nodeFiles (roots : Roots) (table : List (Nat × List Nat)) :
    Except Overflow (List (Path × String)) :=
  table.mapM (nodeFile roots)

/-- Files at the paths of the nodes, with what `content` makes of their cpus. -/
def filesWith (roots : Roots) (content : List Nat → String) (table : List (Nat × List Nat)) :
    List (Path × String) :=
  table.map fun n => (cpulistPath roots n.1, content n.2)

variable {table : List (Nat × List Nat)} {roots : Roots} {files : List (Path × String)}
  {content : List Nat → String} {source : Files} {n : Nat × List Nat} {node m : Nat} {path : Path}

/-! ## Names of nodes -/

theorem isName_nodeName (node : Nat) : Path.IsName ("node" ++ Numeral.text node) := by
  have chars : ("node" ++ Numeral.text node).toList =
      'n' :: 'o' :: 'd' :: 'e' :: Numeral.digits node := by
    simp [Numeral.text]
  constructor
  · have other : ∀ s : String, s.toList.head? ≠ some 'n' → "node" ++ Numeral.text node ≠ s := by
      rintro s hs rfl
      rw [chars] at hs
      exact hs rfl
    rw [Path.component?, if_neg, if_neg (other ".." (by decide))]
    simp [other "" (by decide), other "." (by decide)]
  · rw [chars]
    have digit : '/' ∉ Numeral.digits node := fun slash =>
      absurd (CpuList.isDigit_of_mem_digits slash) (by decide)
    simpa using digit

theorem nodeName_injective (h : "node" ++ Numeral.text node = "node" ++ Numeral.text m) :
    node = m := by
  have chars := congrArg String.toList h
  simp only [String.toList_append, List.append_cancel_left_eq, Numeral.text,
    String.toList_ofList] at chars
  have values := congrArg Numeral.value? chars
  rwa [Numeral.value?_digits, Numeral.value?_digits, Option.some.injEq] at values

theorem nodeNumber?_nodeName (h : node < 2 ^ 64) :
    nodeNumber? ("node" ++ Numeral.text node) = some node := by
  have limit : Numeral.wordLimit = 2 ^ 64 := by decide
  have rest : dropHead? "node".toList ("node" ++ Numeral.text node).toList =
      some (Numeral.digits node) := by
    simp [dropHead?_eq_some_iff, Numeral.text]
  rw [nodeNumber?, rest]
  exact Numeral.word?_digits (by omega)

/-! ## Paths of node files -/

def nodeComponent (node : Nat) : Component :=
  .name ("node" ++ Numeral.text node)

/-- The components of the directory of a node. -/
def nodeComponents (roots : Roots) (node : Nat) : List Component :=
  roots.node.components ++ [nodeComponent node]

theorem components_cpulistPath (roots : Roots) (node : Nat) :
    (cpulistPath roots node).components = nodeComponents roots node ++ [.name "cpulist"] := by
  rw [cpulistPath, Path.components_child _ ⟨by decide, by decide⟩,
    Path.components_child _ (isName_nodeName node)]
  rfl

theorem nodeComponents_injective (h : nodeComponents roots node = nodeComponents roots m) :
    node = m := by
  simp only [nodeComponents, nodeComponent, List.append_cancel_left_eq, List.cons.injEq,
    Component.name.injEq, and_true] at h
  exact nodeName_injective h

theorem cpulistPath_injective
    (h : (cpulistPath roots node).components = (cpulistPath roots m).components) : node = m := by
  rw [components_cpulistPath, components_cpulistPath, List.append_cancel_right_eq] at h
  exact nodeComponents_injective h

theorem components_possible (p : Path) :
    (p.child "possible").components = p.components ++ [.name "possible"] :=
  Path.components_child p ⟨by decide, by decide⟩

theorem possible_ne_cpulistPath (p : Path) (node : Nat) :
    (p.child "possible").components ≠ (cpulistPath roots node).components := by
  rw [components_possible, components_cpulistPath]
  intro same
  have last := List.append_inj_right' same rfl
  simp at last

/-- The number in the last name of a path, if it names a node. -/
def numberOf? (cs : List Component) : Option Nat :=
  (match cs.getLast? with
    | some (.name s) => some s
    | _ => Option.none).bind nodeNumber?

theorem numberOf?_nodeComponents (h : node < 2 ^ 64) :
    numberOf? (nodeComponents roots node) = some node := by
  simp [numberOf?, nodeComponents, nodeComponent, nodeNumber?_nodeName h]

/-! ## The tree of node files -/

theorem nodup_nodes (tabular : IsNodeTable table) : (table.map (·.1)).Nodup :=
  tabular.nodes_ascending.imp Nat.ne_of_lt

theorem mem_files (held : files.Perm (filesWith roots content table)) {f : Path × String} :
    f ∈ files ↔ ∃ n ∈ table, (cpulistPath roots n.1, content n.2) = f := by
  rw [held.mem_iff, filesWith, List.mem_map]

theorem nodup_files (tabular : IsNodeTable table)
    (held : files.Perm (filesWith roots content table)) :
    (files.map (·.1.components)).Nodup := by
  have keys : (filesWith roots content table).map (·.1.components) =
      (table.map (·.1)).map fun node => (cpulistPath roots node).components := by
    simp [filesWith]
  refine (held.map _).nodup_iff.mpr ?_
  rw [keys]
  exact List.pairwise_map.mpr ((nodup_nodes tabular).imp (mt cpulistPath_injective))

theorem mem_directories (held : files.Perm (filesWith roots content table)) (cs : List Component) :
    (∃ d ∈ (FileTree.ofList files).directories, d.components = roots.node.components ++ cs) ↔
      roots.node.components ++ cs ≠ [] ∧
        ∃ n ∈ table, cs = [] ∨ cs = [nodeComponent n.1] := by
  rw [FileTree.mem_directories_ofList]
  refine and_congr_right fun _ => ?_
  constructor
  · rintro ⟨f, hf, below, nonempty, -, split⟩
    obtain ⟨n, hn, rfl⟩ := (mem_files held).mp hf
    refine ⟨n, hn, ?_⟩
    rw [components_cpulistPath, nodeComponents, List.append_assoc, List.append_assoc,
      List.append_cancel_left_eq] at split
    -- A file lies two steps below the directory of the nodes, and the last step is its own name.
    cases cs with
    | nil => exact .inl rfl
    | cons x cs =>
      simp only [List.cons_append, List.nil_append, List.cons.injEq] at split
      obtain ⟨rfl, split⟩ := split
      rcases List.append_eq_singleton_iff.mp split.symm with ⟨rfl, -⟩ | ⟨-, rfl⟩
      · exact .inr rfl
      · exact absurd rfl nonempty
  · rintro ⟨n, hn, rfl | rfl⟩
    · refine ⟨_, (mem_files held).mpr ⟨n, hn, rfl⟩, [nodeComponent n.1, .name "cpulist"], ?_⟩
      simp [components_cpulistPath, nodeComponents, nodeComponent]
    · refine ⟨_, (mem_files held).mpr ⟨n, hn, rfl⟩, [.name "cpulist"], ?_⟩
      simp [components_cpulistPath, nodeComponents]

section Tree

variable (tabular : IsNodeTable table) (held : files.Perm (filesWith roots content table))

include tabular held

theorem keys_ofList : (FileTree.ofList files).keys = files.map (·.1.components) := by
  rw [FileTree.keys, FileTree.entries_ofList (nodup_files tabular held)]

theorem nodup_keys : (FileTree.ofList files).keys.Nodup := by
  rw [keys_ofList tabular held]
  exact nodup_files tabular held

theorem mem_keys {cs : List Component} :
    cs ∈ (FileTree.ofList files).keys ↔
      ∃ n ∈ table, cs = nodeComponents roots n.1 ++ [.name "cpulist"] := by
  rw [keys_ofList tabular held, List.mem_map]
  constructor
  · rintro ⟨f, hf, rfl⟩
    obtain ⟨n, hn, rfl⟩ := (mem_files held).mp hf
    exact ⟨n, hn, components_cpulistPath roots n.1⟩
  · rintro ⟨n, hn, rfl⟩
    exact ⟨_, (mem_files held).mpr ⟨n, hn, rfl⟩, components_cpulistPath roots n.1⟩

theorem read_cpulistPath (hn : n ∈ table) :
    (FileTree.ofList files).read (cpulistPath roots n.1) = .ok (content n.2) := by
  have entry : (cpulistPath roots n.1, content n.2) ∈
      (FileTree.ofList files).entries := by
    rw [FileTree.entries_ofList (nodup_files tabular held)]
    exact (mem_files held).mpr ⟨n, hn, rfl⟩
  rw [FileTree.read, FileTree.content?_eq_some_of_mem (nodup_keys tabular held) entry rfl]

theorem content?_of_ne (h : ∀ n ∈ table, path.components ≠ (cpulistPath roots n.1).components) :
    (FileTree.ofList files).content? path = Option.none := by
  refine FileTree.content?_eq_none_iff.mpr fun key => ?_
  obtain ⟨n, hn, same⟩ := (mem_keys tabular held).mp key
  exact h n hn (same.trans (components_cpulistPath roots n.1).symm)

theorem read_of_ne (h : ∀ n ∈ table, path.components ≠ (cpulistPath roots n.1).components) :
    (FileTree.ofList files).read path = .error (.missingFile path) := by
  rw [FileTree.read, content?_of_ne tabular held h]

theorem readList?_possible (p : Path) :
    readList? (FileTree.ofList files).files (p.child "possible") = Option.none := by
  have unread : (FileTree.ofList files).files.read? (p.child "possible") = Option.none :=
    congrArg Except.toOption
      (read_of_ne tabular held fun n _ => possible_ne_cpulistPath p n.1)
  rw [readList?, unread]
  rfl

omit tabular in
theorem memberOf_directories (root : roots.node.text ≠ "") :
    roots.node.memberOf (FileTree.ofList files).directories = !table.isEmpty := by
  have here := mem_directories held []
  rw [List.append_nil, ← Path.memberOf_iff] at here
  rw [Bool.eq_iff_iff, here, Bool.not_eq_true', List.isEmpty_eq_false_iff_exists_mem]
  simp [Path.components_eq_nil_iff, root]

theorem contains_root (root : roots.node.text ≠ "") :
    (FileTree.ofList files).contains roots.node = !table.isEmpty := by
  have none : (FileTree.ofList files).content? roots.node = Option.none := by
    refine content?_of_ne tabular held fun n _ same => ?_
    simp [components_cpulistPath, nodeComponents] at same
  rw [FileTree.contains, none, memberOf_directories held root]
  rfl

/-- The listing shows the directories of the nodes; the order in which it does so is left open. -/
theorem perm_children :
    (((FileTree.ofList files).children roots.node).map Path.components).Perm
      ((table.map (·.1)).map (nodeComponents roots)) := by
  have names : ((table.map (·.1)).map (nodeComponents roots)).Nodup :=
    List.pairwise_map.mpr ((nodup_nodes tabular).imp (mt nodeComponents_injective))
  have children : (((FileTree.ofList files).children roots.node).map Path.components).Nodup :=
    FileTree.nodup_children (nodup_keys tabular held)
  refine (List.perm_ext_iff_of_nodup children names).mpr fun cs => ?_
  rw [List.mem_map, FileTree.mem_children_iff, mem_keys tabular held]
  constructor
  · rintro ⟨key | directory, x, -, rfl⟩
    · obtain ⟨n, -, same⟩ := key
      simp [nodeComponents] at same
    · obtain ⟨-, n, hn, none | same⟩ := (mem_directories held _).mp directory
      · cases none
      · rw [same]
        exact List.mem_map.mpr ⟨n.1, List.mem_map.mpr ⟨n, hn, rfl⟩, rfl⟩
  · intro h
    obtain ⟨node, hnode, rfl⟩ := List.mem_map.mp h
    obtain ⟨n, hn, rfl⟩ := List.mem_map.mp hnode
    exact ⟨.inr ((mem_directories held [nodeComponent n.1]).mpr ⟨by simp, n, hn, .inr rfl⟩),
      nodeComponent n.1, nofun, rfl⟩

theorem perm_numbers :
    (((FileTree.ofList files).children roots.node).filterMap fun p =>
      p.fileName?.bind nodeNumber?).Perm (table.map (·.1)) := by
  have numbers : ((table.map (·.1)).map (nodeComponents roots)).filterMap numberOf? =
      table.map (·.1) := by
    rw [List.filterMap_map]
    refine (List.filterMap_congr fun node hnode => ?_).trans List.filterMap_some
    obtain ⟨n, hn, rfl⟩ := List.mem_map.mp hnode
    exact numberOf?_nodeComponents (tabular.nodes_bounded n hn)
  have listed := (perm_children tabular held).filterMap numberOf?
  rw [numbers, List.filterMap_map] at listed
  exact listed

theorem listedNodes_files (root : roots.node.text ≠ "") :
    listedNodes (FileTree.ofList files).files roots = table.map (·.1) := by
  by_cases ht : table = []
  · have list : (FileTree.ofList files).files.list roots.node =
        .error (.missingDirectory roots.node) := by
      simp [FileTree.files, FileTree.list, memberOf_directories held root, ht]
    rw [listedNodes, list, ht]
    rfl
  · have list : (FileTree.ofList files).files.list roots.node =
        .ok ((FileTree.ofList files).children roots.node) := by
      simp [FileTree.files, FileTree.list, memberOf_directories held root, ht]
    rw [listedNodes, list]
    exact CpuList.mergeSort_eq_of_perm (perm_numbers tabular held) tabular.nodes_ascending

end Tree

/-! ## Answers -/

/-- What the readers of a topology find in files that describe the nodes of a table. -/
structure Describes (source : Files) (roots : Roots) (table : List (Nat × List Nat)) : Prop where
  present : source.contains roots.node = !table.isEmpty
  listed : listedNodes source roots = table.map (·.1)
  written : ∀ n ∈ table, ∃ text, CpuList.format n.2 = .ok text ∧
    source.read (cpulistPath roots n.1) = .ok (text ++ "\n")
  missing : ∀ node ∉ table.map (·.1), ∃ e, source.read (cpulistPath roots node) = .error e
  possible : ∀ p : Path, readList? source (p.child "possible") = Option.none

/-- What `content` makes of the cpus of each node is their list, on a line of its own. -/
def Writes (content : List Nat → String) (table : List (Nat × List Nat)) : Prop :=
  ∀ n ∈ table, ∃ text, CpuList.format n.2 = .ok text ∧ content n.2 = text ++ "\n"

theorem exists_content (tabular : IsNodeTable table) (roots : Roots) :
    ∃ content, Writes content table ∧
      nodeFiles roots table = .ok (filesWith roots content table) := by
  let content cpus := ((CpuList.format cpus).toOption.getD "") ++ "\n"
  have writes : Writes content table := fun n hn => by
    obtain ⟨text, written⟩ := CpuList.exists_format fun cpu hcpu =>
      CpuList.largest_eq ▸ tabular.cpus_bounded n hn cpu hcpu
    exact ⟨text, written, by simp only [content, written]; rfl⟩
  refine ⟨content, writes, Except.mapM_eq_ok fun n hn => ?_⟩
  obtain ⟨text, written, same⟩ := writes n hn
  rw [nodeFile, written, same]
  rfl

/-- Files at the paths of the nodes and no others describe them. -/
theorem describes_ofList (tabular : IsNodeTable table) (root : roots.node.text ≠ "")
    (writes : Writes content table) (held : files.Perm (filesWith roots content table)) :
    Describes (FileTree.ofList files).files roots table where
  present := contains_root tabular held root
  listed := listedNodes_files tabular held root
  written n hn := by
    obtain ⟨text, written, same⟩ := writes n hn
    exact ⟨text, written, same ▸ read_cpulistPath tabular held hn⟩
  missing node unlisted := by
    refine ⟨_, read_of_ne tabular held fun n hn same => unlisted ?_⟩
    exact cpulistPath_injective same ▸ List.mem_map.mpr ⟨n, hn, rfl⟩
  possible := readList?_possible tabular held

theorem trim_line {cpus : List Nat} {text : String} (written : CpuList.format cpus = .ok text) :
    trim (text ++ "\n").toList = text.toList := by
  rw [String.toList_append]
  exact (trim_concat_of_isBlank (by decide) _).trans (CpuList.trim_of_format written)

section Answers

variable (tabular : IsNodeTable table) (described : Describes source roots table)

include tabular described

theorem readNode_of_mem (hn : n ∈ table) : readNode source roots n.1 = .ok n.2 := by
  obtain ⟨text, written, read⟩ := described.written n hn
  have trimmed := trim_line written
  rw [readNode, read]
  dsimp only
  by_cases hc : n.2 = []
  · rw [hc, CpuList.format_nil, Except.ok.injEq] at written
    rw [trimmed, hc, ← written]
    rfl
  · have filled : ¬(trim (text ++ "\n").toList).isEmpty = true := by
      rw [trimmed, List.isEmpty_iff]
      exact CpuList.toList_ne_nil_of_format written hc
    rw [if_neg filled, CpuList.parse_of_trim_eq_format written trimmed hc,
      CpuList.ascending_of_pairwise (tabular.cpus_ascending n hn)]
    rfl

omit tabular in
theorem readNode_of_notMem (h : node ∉ table.map (·.1)) :
    ∃ e, readNode source roots node = .error e := by
  obtain ⟨e, missing⟩ := described.missing node h
  exact ⟨.unreadableNode node e, by rw [readNode, missing]⟩

omit tabular in
theorem readNodes_eq : readNodes source roots = table.map (·.1) := by
  rw [readNodes, described.possible, Option.getD_none, described.listed]

theorem readCpus_eq : readCpus source roots = CpuList.ascending (table.flatMap (·.2)) := by
  rw [readCpus, described.possible, Option.getD_none, readNodes_eq described, List.flatMap_map]
  have cpus : table.flatMap (fun n => ((readNode source roots n.1).toOption).getD []) =
      table.flatMap (·.2) := by
    refine List.flatMap_congr fun n hn => ?_
    rw [readNode_of_mem tabular described hn]
    rfl
  rw [cpus]

theorem holds_of_mem (hn : n ∈ table) (cpu : Nat) :
    holds source roots cpu n.1 = n.2.contains cpu := by
  rw [holds, readNode_of_mem tabular described hn]

theorem find?_holds (cpu : Nat) :
    (readNodes source roots).find? (holds source roots cpu) =
      (table.find? (·.2.contains cpu)).map (·.1) := by
  rw [readNodes_eq described, List.find?_map]
  refine congrArg _ (List.find?_congr fun n hn => ?_)
  exact holds_of_mem tabular described hn cpu

end Answers

theorem cpusOfNode_of_mem (tabular : IsNodeTable table) (hn : n ∈ table) :
    (ofTable table).cpusOfNode n.1 = .ok n.2 := by
  have there : (table.find? (·.1 == n.1)).isSome :=
    List.find?_isSome.mpr ⟨n, hn, beq_self_eq_true n.1⟩
  obtain ⟨m, found⟩ := Option.isSome_iff_exists.mp there
  have number : m.1 = n.1 := by simpa using List.find?_some found
  have same : m = n :=
    List.inj_on_of_nodup_map (nodup_nodes tabular) (List.mem_of_find?_eq_some found) hn number
  rw [same] at found
  simp only [ofTable, found]

theorem cpusOfNode_of_notMem (h : node ∉ table.map (·.1)) :
    ∃ e, (ofTable table).cpusOfNode node = .error e := by
  have none : table.find? (·.1 == node) = Option.none := by
    refine List.find?_eq_none.mpr fun n hn same => h ?_
    exact List.mem_map.mpr ⟨n, hn, eq_of_beq same⟩
  exact ⟨.unknownNode node, by simp only [ofTable, none]⟩

/-- The files of a table can be written and answer as the table does: whether there are nodes, which
nodes and cpus there are, where a cpu belongs and what a node holds. Of other nodes neither knows
anything. -/
theorem ofFiles_refines_ofTable (tabular : IsNodeTable table) (root : roots.node.text ≠ "")
    (kernel : Kernel) :
    ∃ written, nodeFiles roots table = .ok written ∧ ∀ files : List (Path × String),
      files.Perm written →
      let read := ofFiles (FileTree.ofList files).files roots kernel
      read.available = (ofTable table).available ∧
        read.nodes = (ofTable table).nodes ∧
        read.cpus = (ofTable table).cpus ∧
        (∀ cpu, read.nodeOfCpu cpu = (ofTable table).nodeOfCpu cpu) ∧
        (∀ node ∈ table.map (·.1), read.cpusOfNode node = (ofTable table).cpusOfNode node) ∧
        ∀ node ∉ table.map (·.1), (∃ e, read.cpusOfNode node = .error e) ∧
          ∃ e, (ofTable table).cpusOfNode node = .error e := by
  obtain ⟨content, writes, written⟩ := exists_content tabular roots
  refine ⟨_, written, fun files held => ?_⟩
  have described := describes_ofList tabular root writes held
  refine ⟨described.present, readNodes_eq described, readCpus_eq tabular described,
    find?_holds tabular described, ?listed, ?unlisted⟩
  case listed =>
    intro node hnode
    obtain ⟨n, hn, rfl⟩ := List.mem_map.mp hnode
    exact (readNode_of_mem tabular described hn).trans (cpusOfNode_of_mem tabular hn).symm
  case unlisted =>
    intro node unlisted
    exact ⟨readNode_of_notMem described unlisted, cpusOfNode_of_notMem unlisted⟩

/-- Two nodes that share cpus, a node that only has memory, and a node missing between them. -/
def sharingTable : List (Nat × List Nat) :=
  [(0, [0, 1, 2, 3]), (2, [2, 3, 9]), (11, [])]

theorem ofFiles_refines_sharingTable :
    IsNodeTable sharingTable ∧ Roots.standard.node.text ≠ "" ∧
      ∃ written, nodeFiles Roots.standard sharingTable = .ok written ∧
        let read := ofFiles (FileTree.ofList written.reverse).files Roots.standard
          fun _ _ => Option.none
        read.available = true ∧ read.nodes = [0, 2, 11] ∧ read.cpus = [0, 1, 2, 3, 9] ∧
          read.nodeOfCpu 3 = some 0 ∧ read.nodeOfCpu 9 = some 2 ∧
          read.nodeOfCpu 4 = Option.none ∧ read.cpusOfNode 11 = .ok [] ∧
          ∃ e, read.cpusOfNode 1 = .error e := by
  have tabular : IsNodeTable sharingTable := ⟨by decide, by decide, by decide, by decide⟩
  have root : Roots.standard.node.text ≠ "" := by decide
  obtain ⟨written, files, answers⟩ := ofFiles_refines_ofTable tabular root fun _ _ => Option.none
  obtain ⟨available, nodes, cpus, nodeOfCpu, listed, unlisted⟩ :=
    answers _ (List.reverse_perm written)
  refine ⟨tabular, root, written, files, available, nodes, cpus.trans ?_, (nodeOfCpu 3).trans ?_,
    (nodeOfCpu 9).trans ?_, (nodeOfCpu 4).trans ?_, (listed 11 (by decide)).trans ?_,
    (unlisted 1 (by decide)).1⟩
  · exact CpuList.ascending_eq_iff.mpr ⟨by decide, by simp [sharingTable]; omega⟩
  all_goals rfl

end HostMonitor.Placement.Topology
