import HostMonitor.Monitor.Basic

/-!
# Calls to a monitor

A run is a list of calls, in any order. A sample brings along what it finds on the host, which may
have changed in any way since the call before. Every call has an answer, and a run has a transcript.
-/

namespace HostMonitor.Monitor

variable {α : Type}

inductive Call (α : Type) where
  | sample (files : Files) (addresses : Nic.Enumeration) (now : Nat)
  | allocate (request : Nic.Reservation α)
  | release (identifier : String)
  | settings
  | interfaces
  | deviceNames
  | throughputOf (device : String)
  | capacities
  | ledger

inductive Answer (α : Type) where
  | sampled (result : Except SampleError (Report α))
  | allocated (result : Except Nic.ReservationError Bool)
  | released (result : Except Nic.ReservationError Unit)
  | settings (settings : MonitorSettings α)
  | names (names : List String)
  | throughput (rate : α)
  | capacities (offers : List (Nic.Capacity α))
  | ledger (ledger : Nic.Ledger α)

/-- What a call answers, and the monitor after it. -/
structure Reply (α : Type) where
  answer : Answer α
  monitor : Monitor α

structure Exchange (α : Type) where
  call : Call α
  answer : Answer α

section

variable [Scalar α]

def call (m : Monitor α) : Call α → Reply α
  | .sample files addresses now =>
    let done := m.sample files addresses now
    ⟨.sampled done.result, done.state⟩
  | .allocate request =>
    let done := m.allocate request
    ⟨.allocated done.result, done.state⟩
  | .release identifier =>
    let done := m.release identifier
    ⟨.released done.result, done.state⟩
  | .settings => ⟨.settings m.settings, m⟩
  | .interfaces => ⟨.names m.interfaces, m⟩
  | .deviceNames => ⟨.names m.deviceNames, m⟩
  | .throughputOf device => ⟨.throughput (m.throughputOf device), m⟩
  | .capacities => ⟨.capacities m.capacities, m⟩
  | .ledger => ⟨.ledger m.ledger, m⟩

/-- The calls of a run, each with its answer. -/
def transcript (m : Monitor α) : List (Call α) → List (Exchange α)
  | [] => []
  | c :: cs => ⟨c, (m.call c).answer⟩ :: (m.call c).monitor.transcript cs

theorem transcript_cons (m : Monitor α) (c : Call α) (cs : List (Call α)) :
    m.transcript (c :: cs) = ⟨c, (m.call c).answer⟩ :: (m.call c).monitor.transcript cs := rfl

end

end HostMonitor.Monitor
