/-!
# Documents

Structured data as configuration files and reports hold it. A record keeps its fields in order; its
keys are documents too, since not every format confines them to text.
-/

namespace HostMonitor

inductive Document where
  | null
  | bool (b : Bool)
  | integer (n : Int)
  | float (x : Float)
  | text (s : String)
  /-- A scalar without quotes, in a format that lets the reader decide what it stands for. -/
  | plain (s : String)
  /-- A scalar that is well-formed but stands for nothing that can be represented. -/
  | unrepresentable
  | list (items : List Document)
  | record (fields : List (Document × Document))
  deriving Inhabited

namespace Document

def ofOption {α : Type} (f : α → Document) (x : Option α) : Document :=
  (x.map f).getD .null

/-- A record with the given names. -/
def named (fields : List (String × Document)) : Document :=
  .record (fields.map fun (name, value) => (.text name, value))

/-- The text of a key, if it is one. -/
def keyText? : Document → Option String
  | .text s => some s
  | .plain s => some s
  | _ => none

end Document

end HostMonitor
