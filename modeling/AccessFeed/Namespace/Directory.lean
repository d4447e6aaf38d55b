import AccessFeed.Failure
import AccessFeed.Namespace

/-! The directory of namespace objects: the last object stored under a name is the one found. -/
namespace AccessFeed

/-- The namespace objects by name. -/
structure Directory where
  entries : NameMap Namespace
  deriving DecidableEq

namespace Directory

def empty : Directory := ⟨∅⟩

instance : Inhabited Directory := ⟨empty⟩

/-- The object stored under a name. -/
def get? (directory : Directory) (name : String) : Option Namespace := directory.entries[name]?

/-- The object stored under a name, or the error that there is none. -/
def find (directory : Directory) (name : String) : Except LookupError Namespace :=
  match directory.get? name with
  | some object => .ok object
  | none => .error (.notFound name)

/-- Stores an object under its own name and gives back the one it replaces. -/
def upsert (directory : Directory) (object : Namespace) : Option Namespace × Directory :=
  (directory.get? object.name, ⟨directory.entries.insert object.name object⟩)

/-- Forgets the object of a name and gives it back. -/
def remove (directory : Directory) (name : String) : Option Namespace × Directory :=
  (directory.get? name, ⟨directory.entries.erase name⟩)

def size (directory : Directory) : Nat := directory.entries.size

def isEmpty (directory : Directory) : Bool := directory.entries.isEmpty

@[simp] theorem get?_empty (name : String) : empty.get? name = none := by
  simp [empty, get?]

@[simp] theorem get?_upsert (directory : Directory) (object : Namespace) (name : String) :
    (directory.upsert object).2.get? name =
      if object.name = name then some object else directory.get? name := by
  simp [upsert, get?, Std.ExtTreeMap.getElem?_insert]

@[simp] theorem get?_remove (directory : Directory) (removed name : String) :
    (directory.remove removed).2.get? name =
      if removed = name then none else directory.get? name := by
  simp [remove, get?, Std.ExtTreeMap.getElem?_erase]

end Directory

end AccessFeed
