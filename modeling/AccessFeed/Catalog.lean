import AccessFeed.Access
import AccessFeed.Notice
import AccessFeed.Text.Quoted

/-! The catalog of who may see what, and of the watchers that are told when it changes.

A mutation of the access map yields at most one change. `Catalog.dispatch` hands it to the watchers
that were registered when the dispatch began, one after another; what a watcher does to the catalog
from inside its notification is a `Reaction`, so a watcher may leave, replace others or ask
questions while it is being told. -/
namespace AccessFeed

/-- What a watcher does from inside a notification, in order, before it gives its result. -/
inductive Reaction (ω α : Type) where
  | done (result : α)
  /-- Tells something. -/
  | note (notice : Notice) (next : Reaction ω α)
  /-- Registers a watcher. -/
  | register (id : WatchId) (watcher : ω) (next : Reaction ω α)
  /-- Removes the watcher of an id, if there is one. -/
  | remove (id : WatchId) (next : Reaction ω α)
  /-- Asks which namespaces a subscriber sees. -/
  | list (subscriber : Subscriber) (next : List String → Reaction ω α)
  /-- Asks who may see a namespace. -/
  | access (name : String) (next : Option Access → Reaction ω α)

/-- The access of every namespace that has one, and the registered watchers. -/
structure Catalog (ω : Type) where
  accesses : NameMap Access
  watchers : Std.ExtTreeMap WatchId ω

/-- A request to change the access map. -/
inductive Mutation where
  /-- Replace who may see a namespace. -/
  | setAccess (name : String) (latest : Access)
  /-- Forget a namespace. -/
  | forget (name : String)
  /-- The object of a namespace changed, but not who may see it. -/
  | touch (name : String)
  deriving DecidableEq

/-- The state after a dispatch, with all that was told and the watchers' results in the order of the
notifications. -/
structure Round (ω α : Type) where
  catalog : Catalog ω
  notices : List Notice
  results : List (WatchId × α)

namespace Catalog

variable {ω α : Type}

def empty : Catalog ω := ⟨∅, ∅⟩

instance : Inhabited (Catalog ω) := ⟨empty⟩

/-- Who may see a namespace, if it is known. -/
def access? (catalog : Catalog ω) (name : String) : Option Access := catalog.accesses[name]?

/-- The namespaces that a subscriber sees, in the order of their names. -/
def visible (catalog : Catalog ω) (subscriber : Subscriber) : List String :=
  (catalog.accesses.toList.filter fun (_, access) => access.allows subscriber).map (·.1)

def watcherCount (catalog : Catalog ω) : Nat := catalog.watchers.size

def registers (catalog : Catalog ω) (id : WatchId) : Bool := catalog.watchers.contains id

/-- Registers a watcher, in place of one with the same id. -/
def register (catalog : Catalog ω) (id : WatchId) (watcher : ω) : Catalog ω × List Notice :=
  ({ catalog with watchers := catalog.watchers.insert id watcher }, [.registered id])

/-- Removes the watcher of an id; without one nothing happens. -/
def remove (catalog : Catalog ω) (id : WatchId) : Catalog ω × List Notice :=
  if catalog.registers id then
    ({ catalog with watchers := catalog.watchers.erase id }, [.removed id])
  else (catalog, [])

/-- Carries out what a watcher does from inside a notification. -/
def carryOut (catalog : Catalog ω) : Reaction ω α → Catalog ω × List Notice × α
  | .done result => (catalog, [], result)
  | .note notice next =>
    let (catalog, notices, result) := catalog.carryOut next
    (catalog, notice :: notices, result)
  | .register id watcher next =>
    let (catalog, before) := catalog.register id watcher
    let (catalog, notices, result) := catalog.carryOut next
    (catalog, before ++ notices, result)
  | .remove id next =>
    let (catalog, before) := catalog.remove id
    let (catalog, notices, result) := catalog.carryOut next
    (catalog, before ++ notices, result)
  | .list subscriber next => catalog.carryOut (next (catalog.visible subscriber))
  | .access name next => catalog.carryOut (next (catalog.access? name))

@[simp] theorem accesses_register (catalog : Catalog ω) (id : WatchId) (watcher : ω) :
    (catalog.register id watcher).1.accesses = catalog.accesses := rfl

@[simp] theorem accesses_remove (catalog : Catalog ω) (id : WatchId) :
    (catalog.remove id).1.accesses = catalog.accesses := by
  unfold remove; split <;> rfl

@[simp] theorem registers_register (catalog : Catalog ω) (id other : WatchId) (watcher : ω) :
    (catalog.register id watcher).1.registers other = (id == other || catalog.registers other) := by
  rw [Bool.eq_iff_iff]
  simp [register, registers]

@[simp] theorem registers_remove (catalog : Catalog ω) (id other : WatchId) :
    (catalog.remove id).1.registers other = (id != other && catalog.registers other) := by
  rw [Bool.eq_iff_iff]
  by_cases h : id ∈ catalog.watchers
  · simp [remove, registers, h]
  · by_cases e : id = other
    · subst e; simp [remove, registers, h]
    · simp [remove, registers, h, e]

/-- Nothing that a watcher does from inside a notification changes who may see what. -/
@[simp] theorem accesses_carryOut (catalog : Catalog ω) (reaction : Reaction ω α) :
    (catalog.carryOut reaction).1.accesses = catalog.accesses := by
  induction reaction generalizing catalog with
  | done result => rfl
  | note notice next ih => simpa [carryOut] using ih catalog
  | register id watcher next ih =>
    simpa [carryOut] using ih (catalog.register id watcher).1
  | remove id next ih => simpa [carryOut] using ih (catalog.remove id).1
  | list subscriber next ih => simpa [carryOut] using ih (catalog.visible subscriber) catalog
  | access name next ih => simpa [carryOut] using ih (catalog.access? name) catalog

def notify (react : WatchId → ω → Reaction ω α) :
    List (WatchId × ω) → Catalog ω → Round ω α
  | [], catalog => ⟨catalog, [], []⟩
  | (id, watcher) :: rest, catalog =>
    let (catalog, notices, result) := catalog.carryOut (react id watcher)
    let round := notify react rest catalog
    ⟨round.catalog, notices ++ round.notices, (id, result) :: round.results⟩

@[simp] theorem accesses_notify (react : WatchId → ω → Reaction ω α)
    (visits : List (WatchId × ω)) (catalog : Catalog ω) :
    (notify react visits catalog).catalog.accesses = catalog.accesses := by
  induction visits generalizing catalog with
  | nil => rfl
  | cons visit rest ih => simp [notify, ih]

/-- Hands a change to the given watchers, which are those registered when the dispatch begins, in
the order of the visits. -/
def dispatch (react : AccessChange → WatchId → ω → Reaction ω α) (visits : List (WatchId × ω))
    (change : AccessChange) (catalog : Catalog ω) : Round ω α :=
  let round := notify (react change) visits catalog
  { round with notices := round.notices ++ [.dispatched change.name visits.length] }

/-- The access map after a mutation, and the change to be handed out. Forgetting or updating an
unknown namespace changes nothing and hands out nothing. -/
def mutate (catalog : Catalog ω) : Mutation → Catalog ω × Option AccessChange
  | .setAccess name latest =>
    let previous := (catalog.access? name).getD .nobody
    ({ catalog with accesses := catalog.accesses.insert name latest },
      some (.between name previous latest))
  | .forget name =>
    match catalog.access? name with
    | some previous =>
      ({ catalog with accesses := catalog.accesses.erase name },
        some (.between name previous .nobody))
    | none => (catalog, none)
  | .touch name =>
    (catalog, (catalog.access? name).map fun current => .between name current current)

/-- Carries out a mutation and dispatches its change to the registered watchers as `arrange` orders
their visits. -/
def perform (react : AccessChange → WatchId → ω → Reaction ω α)
    (arrange : List (WatchId × ω) → List (WatchId × ω)) (mutation : Mutation)
    (catalog : Catalog ω) : Round ω α :=
  match catalog.mutate mutation with
  | (catalog, some change) => catalog.dispatch react (arrange catalog.watchers.toList) change
  | (catalog, none) => ⟨catalog, [], []⟩

end Catalog

/-- Names between braces, each quoted. -/
def NameSet.shown (names : NameSet) : String :=
  "\x7b" ++ ", ".intercalate (names.toList.map Text.quoted) ++ "\x7d"

def Access.shown (access : Access) : String :=
  "NamespaceAccess \x7b users: " ++ access.users.shown ++ ", groups: " ++ access.groups.shown
    ++ " \x7d"

def Catalog.shown {ω : Type} (catalog : Catalog ω) : String :=
  let entries := catalog.accesses.toList.map fun (name, access) =>
    Text.quoted name ++ ": " ++ access.shown
  "AuthorizationCache \x7b access: \x7b" ++ ", ".intercalate entries ++ "\x7d, watchers: "
    ++ toString catalog.watcherCount ++ ", .. \x7d"

end AccessFeed
