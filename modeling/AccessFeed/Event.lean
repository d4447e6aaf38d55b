import AccessFeed.Failure
import AccessFeed.Json.Printer
import AccessFeed.Namespace

/-! The events a feed delivers, and their JSON form. Empty labels, annotations and phases are left
out of that form, and labels and annotations are written in the order of their keys. -/
namespace AccessFeed

/-- The outcome that a status reports. -/
inductive StatusKind where
  | success
  | failure
  deriving DecidableEq, Inhabited

/-- The payload of an error event. -/
structure Status where
  kind : StatusKind
  message : String
  deriving DecidableEq, Inhabited

/-- An event of a feed. An error is always the last one. -/
inductive Event where
  | added (project : Project)
  | modified (project : Project)
  | deleted (project : Project)
  | error (status : Status)
  deriving DecidableEq, Inhabited

inductive EventKind where
  | added
  | modified
  | deleted
  | error
  deriving DecidableEq, Inhabited

/-- The name of a kind of event, as records show it. -/
def EventKind.label : EventKind → String
  | .added => "Added"
  | .modified => "Modified"
  | .deleted => "Deleted"
  | .error => "Error"

/-- The name of a kind of event, as its JSON form shows it. -/
def EventKind.tag : EventKind → String
  | .added => "ADDED"
  | .modified => "MODIFIED"
  | .deleted => "DELETED"
  | .error => "ERROR"

def StatusKind.label : StatusKind → String
  | .success => "Success"
  | .failure => "Failure"

namespace Event

def kind : Event → EventKind
  | .added _ => .added
  | .modified _ => .modified
  | .deleted _ => .deleted
  | .error _ => .error

/-- The project that an event other than an error carries. -/
def project? : Event → Option Project
  | .added project | .modified project | .deleted project => some project
  | .error _ => none

/-- The error event that ends a feed whose intake overflowed. -/
def ofOverflow (cause : Overflow) : Event := .error ⟨.failure, cause.message⟩

/-- The terminal error that arises when the intake has no room for an event. -/
def overflow : Event → Overflow
  | .deleted _ => .deletion
  | _ => .addition

end Event

/-- A map of texts as a JSON object, in the order of its keys. -/
def NameMap.json (map : NameMap String) : Json :=
  .object (map.toList.map fun (key, value) => (key, .string value))

/-- A map of texts as a member that is left out when the map is empty. -/
def NameMap.member (map : NameMap String) : Option Json :=
  if map.isEmpty then none else some map.json

def Project.json (project : Project) : Json :=
  .objectOf [
    ("name", some (.string project.name)),
    ("labels", project.labels.member),
    ("annotations", project.annotations.member),
    ("phase", if project.phase.isEmpty then none else some (.string project.phase))]

def Status.json (status : Status) : Json :=
  .object [("status", .string status.kind.label), ("message", .string status.message)]

/-- The JSON form of what an event carries. -/
def Event.payload : Event → Json
  | .added project | .modified project | .deleted project => project.json
  | .error status => status.json

def Event.json (event : Event) : Json :=
  .object [("type", .string event.kind.tag), ("object", event.payload)]

end AccessFeed
