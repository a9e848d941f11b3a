import HostMonitor.Proofs.File.History

/-!
# Files that differ in one place

Two file systems may differ in the presence or the content of one file and agree on all others.
Adding that file, replacing its content and removing it all leave a tree that agrees with the one
before.
-/

namespace HostMonitor

/-- Every file but the one at `path` reads the same. -/
def Files.AgreeOff (path : Path) (f g : Files) : Prop :=
  ∀ p, p.same path = false → f.read p = g.read p

namespace Files.AgreeOff

variable {path p : Path} {f g h : Files}

theorem symm (agree : AgreeOff path f g) : AgreeOff path g f :=
  fun p other => (agree p other).symm

theorem trans (agree : AgreeOff path f g) (agree' : AgreeOff path g h) : AgreeOff path f h :=
  fun p other => (agree p other).trans (agree' p other)

theorem read? (agree : AgreeOff path f g) (other : p.same path = false) :
    f.read? p = g.read? p :=
  congrArg Except.toOption (agree p other)

end Files.AgreeOff

namespace FileTree

variable {t u : FileTree} {path : Path}

theorem agreeOff_of_content? (same : ∀ p, p.same path = false → t.content? p = u.content? p) :
    Files.AgreeOff path t.files u.files := by
  intro p other
  show t.read p = u.read p
  rw [read, read, same p other]

theorem not_same_comm {p q : Path} (other : p.same q = false) : ¬q.same p = true := fun same => by
  rw [Path.same_iff.mpr (Path.same_iff.mp same).symm] at other
  cases other

theorem agreeOff_add (t : FileTree) (path : Path) (content : String) :
    Files.AgreeOff path (t.add path content).files t.files :=
  agreeOff_of_content? fun p other =>
    (content?_add t path p content).trans (if_neg (not_same_comm other))

theorem agreeOff_remove (t : FileTree) (path : Path) :
    Files.AgreeOff path (t.remove path).files t.files :=
  agreeOff_of_content? fun p other =>
    (content?_remove t path p).trans (if_neg (not_same_comm other))

theorem read_add (t : FileTree) (path : Path) (content : String) :
    (t.add path content).files.read path = .ok content := by
  have held : (t.add path content).content? path = some content :=
    (content?_add t path path content).trans (if_pos (Path.same_iff.mpr rfl))
  show (t.add path content).read path = .ok content
  rw [read, held]

end FileTree

end HostMonitor
