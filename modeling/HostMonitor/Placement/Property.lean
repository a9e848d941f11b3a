import HostMonitor.Placement.Error

/-!
# Placement requests as properties

A request is a container of properties under the id `affinity`. Inside it a directive is either a
pair of a class and a value, matched up in order, or one of the older keys that name a class
directly. `directives` gives the request as directives, `ofDirectives` goes the other way.
-/

namespace HostMonitor.Placement

/-- What to bind a process to: `nic:eth0`, `cpu:0-3`. -/
structure Directive where
  className : String
  value : String
  deriving DecidableEq, Repr, Inhabited

def Directive.text (d : Directive) : String :=
  d.className ++ ":" ++ d.value

inductive Property where
  | text (s : String)
  | integer (n : Int)
  | nested (entries : List (String × Property))
  deriving Inhabited

/-- Properties in order; an id may occur more than once. -/
abbrev Properties := List (String × Property)

def Property.text? : Property → Option String
  | .text s => some s
  | .integer n => some (Text.Numeral.signedText n)
  | .nested _ => none

/-- A container has no text. -/
def Property.noText : String := "nested property has no string form"

namespace Properties

def containerId : String := "affinity"
def classId : String := "affinity::exec_directive_class"
def valueId : String := "affinity::exec_directive_value"
def olderKeys : List String := ["nic", "socket", "cpu", "cpuset", "cgroup"]

/-- The first property of that id. -/
def get? (ps : Properties) (id : String) : Option Property :=
  (ps.find? (·.1 == id)).map (·.2)

/-- Whether some id begins with the container's, in any case. -/
def mentionsPlacement (ps : Properties) : Bool :=
  ps.any fun (id, _) =>
    Text.asciiLower (id.toList.take containerId.length) == containerId.toList

def container? (ps : Properties) : Option Properties :=
  match (ps.get? containerId).or (ps.get? "AFFINITY") with
  | some (.nested entries) => some entries
  | _ => none

def withId (ps : Properties) (id : String) : List Property :=
  ps.filterMap fun (k, v) => if k = id then some v else none

def pair? (c v : Property) : Option Directive := do
  let c ← c.text?
  let v ← v.text?
  return ⟨c, v⟩

/-- The n-th class with the n-th value, where both have a text. -/
def pairedDirectives (ps : Properties) : List Directive :=
  ((ps.withId classId).zip (ps.withId valueId)).filterMap fun (c, v) => pair? c v

def olderDirectives (ps : Properties) : List Directive :=
  olderKeys.filterMap fun key => do
    let v ← (← ps.get? key).text?
    return ⟨key, v⟩

def allDirectives (ps : Properties) : List Directive :=
  ps.pairedDirectives ++ ps.olderDirectives

def mentionsInterface (ps : Properties) : Bool :=
  match ps.container? with
  | some inner => inner.allDirectives.any (·.className == "nic")
  | none => false

def directives (ps : Properties) : Except Error (List Directive) :=
  match ps.container? with
  | none => .error .noProperty
  | some inner =>
    if inner.allDirectives.isEmpty then .error .noDirective else .ok inner.allDirectives

def ofDirectives (ds : List Directive) : Properties :=
  [(containerId,
    .nested (ds.flatMap fun d => [(classId, .text d.className), (valueId, .text d.value)]))]

/-- The description of the request properties that is handed to property tools. -/
def definitions : String := "<?xml version=\"1.0\" encoding=\"UTF-8\"?>
<!DOCTYPE properties PUBLIC \"-//JTRS//DTD SCA V2.2.2 PRF//EN\" \"properties.dtd\">
<properties>
    <simple id=\"affinity::exec_directive_class\" mode=\"readwrite\"" ++
  " name=\"exec_directive_class\" type=\"string\" optional=\"false\">
      <enumerations>
        <enumeration label=\"socket\" value=\"socket\"/>
        <enumeration label=\"nic\" value=\"nic\"/>
        <enumeration label=\"cpu\" value=\"cpu\"/>
        <enumeration label=\"cgroup\" value=\"cgroup\"/>
      </enumerations>
      <kind kindtype=\"property\"/>
      <kind kindtype=\"configure\"/>
      <action type=\"external\"/>
    </simple>
    <simple id=\"affinity::exec_directive_value\" mode=\"readwrite\"" ++
  " name=\"exec_directive_value\" type=\"string\" optional=\"false\">
      <description>The context specification for the exec_directive_class." ++
  "   See numa library manpage for node (socket) and cpu list specifications." ++
  "  For cgroup option then a pre-existing cgroup name is required.</description>
      <kind kindtype=\"property\"/>
      <kind kindtype=\"configure\"/>
      <action type=\"external\"/>
    </simple>
</properties>
"

end Properties

end HostMonitor.Placement
