/-!
# Ordered association lists

Values under keys, kept in ascending order of the keys. Putting a value under a key that is there
replaces the old value.
-/

namespace HostMonitor

structure Assoc (κ ν : Type) where
  entries : List (κ × ν)
  deriving DecidableEq, Repr

namespace Assoc

variable {κ ν : Type}

def empty : Assoc κ ν := ⟨[]⟩

instance : Inhabited (Assoc κ ν) := ⟨empty⟩

/-- Nothing of what was there is left. -/
def clear (_ : Assoc κ ν) : Assoc κ ν := empty

def keys (m : Assoc κ ν) : List κ :=
  m.entries.map (·.1)

def values (m : Assoc κ ν) : List ν :=
  m.entries.map (·.2)

def size (m : Assoc κ ν) : Nat :=
  m.entries.length

section Lookup

variable [DecidableEq κ]

def get? (m : Assoc κ ν) (k : κ) : Option ν :=
  (m.entries.find? fun (k', _) => k' = k).map (·.2)

def contains (m : Assoc κ ν) (k : κ) : Bool :=
  (m.get? k).isSome

def erase (m : Assoc κ ν) (k : κ) : Assoc κ ν :=
  ⟨m.entries.filter fun (k', _) => k' ≠ k⟩

end Lookup

section Order

variable [DecidableEq κ] [LT κ] [DecidableLT κ]

def insertInto (k : κ) (v : ν) : List (κ × ν) → List (κ × ν)
  | [] => [(k, v)]
  | (k', v') :: rest =>
    if k' = k then (k, v) :: rest
    else if k < k' then (k, v) :: (k', v') :: rest
    else (k', v') :: insertInto k v rest

def insert (m : Assoc κ ν) (k : κ) (v : ν) : Assoc κ ν :=
  ⟨insertInto k v m.entries⟩

def ofList (entries : List (κ × ν)) : Assoc κ ν :=
  entries.foldl (fun m (k, v) => m.insert k v) empty

end Order

end Assoc

end HostMonitor
