import HostMonitor.Document.Basic
import HostMonitor.Document.Plain
import HostMonitor.Settings.Basic

/-!
# Settings from documents

A record of settings names its fields, or lists their values in order. Names that mean nothing here
are passed over, a name must not occur twice, and every value must be of the kind that its field
wants; otherwise the document holds no settings.
-/

namespace HostMonitor

namespace Document

open Text

def isNull : Document → Bool
  | .null => true
  | .plain s => Plain.isNull s
  | _ => false

/-- An unsigned number of 64 bits. -/
def word? : Document → Option Nat
  | .integer n => if 0 ≤ n && n < Numeral.wordLimit then some n.toNat else none
  | .plain s => Plain.word? s
  | _ => none

def float? : Document → Option Float
  | .integer n =>
    some (if n < 0 then -(Binary64.ofNat n.natAbs) else Binary64.ofNat n.natAbs)
  | .float x => some x
  | .plain s => Plain.float? s
  | _ => none

def bool? : Document → Option Bool
  | .bool b => some b
  | .plain s => Plain.bool? s
  | _ => none

def text? : Document → Option String
  | .text s => some s
  | .plain s => some s
  | _ => none

def texts? : Document → Option (List String)
  | .list items => items.mapM text?
  | _ => none

end Document

/-- The values of a record by name. When they were listed in order, none may be left out unless it
has a standard value. -/
structure FieldValues where
  values : List (String × Document)
  listed : Bool

namespace FieldValues

/-- The values under the given names, each of which may occur once. -/
def ofRecord? (names : List String) (fields : List (Document × Document)) :
    Option FieldValues := do
  let entries ← fields.mapM fun (key, value) => key.keyText?.map fun name => (name, value)
  let values := entries.filter fun (name, _) => names.contains name
  if (values.map (·.1)).Nodup then some ⟨values, false⟩ else none

def ofList? (names : List String) (items : List Document) : Option FieldValues :=
  if items.length ≤ names.length then some ⟨names.zip items, true⟩ else none

def ofDocument? (names : List String) : Document → Option FieldValues
  | .record fields => ofRecord? names fields
  | .list items => ofList? names items
  | .plain s => if s = "" then some ⟨[], false⟩ else none
  | _ => none

def get? (f : FieldValues) (name : String) : Option Document :=
  (f.values.find? (·.1 == name)).map (·.2)

/-- A field that may be left out or be nothing. -/
def optional? {α : Type} (f : FieldValues) (name : String) (read : Document → Option α) :
    Option (Option α) :=
  match f.get? name with
  | none => if f.listed then none else some none
  | some d => if d.isNull then some none else (read d).map some

/-- A field with a standard value. -/
def orStandard? {α : Type} (f : FieldValues) (name : String) (standard : α)
    (read : Document → Option α) : Option α :=
  match f.get? name with
  | none => some standard
  | some d => read d

end FieldValues

namespace Thresholds

def fieldNames : List String := ["cpu_idle", "mem_free_mb", "load_avg", "nic_usage"]

def ofDocument? (d : Document) : Option (Thresholds Float) := do
  let f ← FieldValues.ofDocument? fieldNames d
  let usual : Thresholds Float := standard
  return {
    cpuIdle := ← f.orStandard? "cpu_idle" usual.cpuIdle Document.float?
    memFree := ← f.orStandard? "mem_free_mb" usual.memFree Document.float?
    loadAvg := ← f.orStandard? "load_avg" usual.loadAvg Document.float?
    nicUsage := ← f.orStandard? "nic_usage" usual.nicUsage Document.float? }

end Thresholds

namespace PlacementSettings

def fieldNames : List String :=
  ["enabled", "promote_nic_to_socket", "cpuset_root", "cgroup_root", "blacklist"]

def ofDocument? (d : Document) : Option PlacementSettings := do
  let f ← FieldValues.ofDocument? fieldNames d
  return {
    enabled := ← f.optional? "enabled" Document.bool?
    promoteToSocket := ← f.optional? "promote_nic_to_socket" Document.bool?
    cpusetRoot := ← f.optional? "cpuset_root" Document.text?
    cgroupRoot := ← f.optional? "cgroup_root" Document.text?
    blacklist := ← f.optional? "blacklist" Document.text? }

end PlacementSettings

namespace Settings

def fieldNames : List String :=
  ["interval_seconds", "proc_root", "sys_root", "log_level", "nic_interfaces",
    "nic_max_throughput_percent", "thresholds", "affinity"]

def ofDocument? (d : Document) : Option Settings := do
  let f ← FieldValues.ofDocument? fieldNames d
  return {
    intervalSeconds := ← f.optional? "interval_seconds" Document.word?
    procRoot := ← f.optional? "proc_root" Document.text?
    sysRoot := ← f.optional? "sys_root" Document.text?
    logLevel := ← f.optional? "log_level" Document.text?
    nicInterfaces := ← f.optional? "nic_interfaces" Document.texts?
    nicMaxPercent := ← f.optional? "nic_max_throughput_percent" Document.float?
    thresholds := ← f.orStandard? "thresholds" Thresholds.standard Thresholds.ofDocument?
    placement := ← f.orStandard? "affinity" PlacementSettings.standard
      PlacementSettings.ofDocument? }

end Settings

end HostMonitor
