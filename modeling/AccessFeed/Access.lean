import AccessFeed.NameSet

/-! Who may see a namespace, and what one change of that access means to one subscriber.

A subscriber sees a namespace when it is named itself or through one of its groups. A change
carries the access after it together with what was taken away and what was added, and
`AccessChange.bearing` reads it from a single subscriber's side. -/
namespace AccessFeed

/-- The identity a feed is opened for: a name and the groups it belongs to. -/
structure Subscriber where
  name : String
  groups : List String
  deriving DecidableEq, Inhabited

/-- The users and groups allowed to see one namespace. -/
structure Access where
  users : NameSet
  groups : NameSet
  deriving DecidableEq

namespace Access

def nobody : Access := ⟨∅, ∅⟩

instance : Inhabited Access := ⟨nobody⟩

/-- A subscriber is allowed when named directly or through any of its groups. -/
def allows (access : Access) (subscriber : Subscriber) : Bool :=
  access.users.contains subscriber.name || subscriber.groups.any access.groups.contains

/-- The users and groups of the first access that the second one lacks. -/
def diff (access other : Access) : Access :=
  ⟨access.users \ other.users, access.groups \ other.groups⟩

def union (access other : Access) : Access :=
  ⟨access.users ∪ other.users, access.groups ∪ other.groups⟩

theorem allows_iff (access : Access) (subscriber : Subscriber) :
    access.allows subscriber = true ↔
      subscriber.name ∈ access.users ∨ ∃ group ∈ subscriber.groups, group ∈ access.groups := by
  simp [allows]

@[simp] theorem allows_nobody (subscriber : Subscriber) : nobody.allows subscriber = false := by
  simp [allows, nobody]

end Access

/-- The effect of one change on who may see a namespace: the access after it, and what it
took away and added. -/
structure AccessChange where
  name : String
  latest : Access
  removed : Access
  added : Access
  deriving DecidableEq, Inhabited

/-- What a change means to one subscriber. -/
inductive Bearing where
  /-- The subscriber may see the namespace after the change. -/
  | granted
  /-- The change took away the last thing that let the subscriber see the namespace. -/
  | revoked
  /-- The subscriber is not concerned. -/
  | unaffected
  deriving DecidableEq, Inhabited

namespace AccessChange

/-- The change that takes a namespace from one access to another. -/
def between (name : String) (previous latest : Access) : AccessChange :=
  ⟨name, latest, previous.diff latest, latest.diff previous⟩

/-- The change as a subscriber reads it; being allowed afterwards counts before anything that
was taken away. -/
def bearing (change : AccessChange) (subscriber : Subscriber) : Bearing :=
  if change.latest.allows subscriber then .granted
  else if change.removed.allows subscriber then .revoked
  else .unaffected

end AccessChange

end AccessFeed
