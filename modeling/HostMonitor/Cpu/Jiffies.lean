import HostMonitor.Counter

/-!
# Jiffies

The time that cpus have spent, in kernel ticks, by category. A record holds one counter for each of
the ten categories, in the order in which the kernel reports them.
-/

namespace HostMonitor

/-- What a cpu spends its time on. -/
inductive Category where
  | user
  | nice
  | system
  | idle
  | iowait
  | irq
  | softirq
  | steal
  | guest
  | guestNice
  deriving DecidableEq, Repr

def Category.all : List Category :=
  [.user, .nice, .system, .idle, .iowait, .irq, .softirq, .steal, .guest, .guestNice]

def Category.index : Category → Fin 10
  | .user => 0
  | .nice => 1
  | .system => 2
  | .idle => 3
  | .iowait => 4
  | .irq => 5
  | .softirq => 6
  | .steal => 7
  | .guest => 8
  | .guestNice => 9

structure Jiffies where
  counts : List Counter
  length_counts : counts.length = 10
  deriving DecidableEq, Repr

namespace Jiffies

def zero : Jiffies := ⟨List.replicate 10 Counter.zero, by simp⟩

instance : Inhabited Jiffies := ⟨zero⟩

/-- Missing counts are zero, those past the tenth are left out. -/
def ofList (cs : List Counter) : Jiffies :=
  ⟨(cs ++ List.replicate 10 Counter.zero).take 10, by simp⟩

def get (j : Jiffies) (c : Category) : Counter :=
  j.counts.get (c.index.cast j.length_counts.symm)

def total (j : Jiffies) : Counter :=
  Counter.sum j.counts

def add (a b : Jiffies) : Jiffies :=
  ⟨List.zipWith Counter.add a.counts b.counts, by simp [a.length_counts, b.length_counts]⟩

def sum (js : List Jiffies) : Jiffies :=
  js.foldl add zero

end Jiffies

end HostMonitor
