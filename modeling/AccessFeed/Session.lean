import AccessFeed.Monitor
import AccessFeed.World

/-! Working with watches by name. A slot holds one watch: its handler and its stream until they are
dropped, and its stop handle for good. A step that needs a part which is not there says which part
is absent and changes nothing else. -/
namespace AccessFeed

/-- A part that a step needs and does not find. -/
inductive Absent where
  | cache
  | watcher
  | stream
  | handle
  deriving DecidableEq, Inhabited

/-- Which control of a watch is used to stop it. -/
inductive StopControl where
  | stream
  | watcher
  | handle
  deriving DecidableEq, Inhabited

/-- A state with the watches that have a name, and the monitor that has seen all that happened. -/
structure Session where
  world : World
  slots : NameMap WatchId
  monitor : Monitor

namespace Session

def fresh (host : Host) : Session := ⟨.fresh host, ∅, .fresh⟩

/-- Goes on with another state, after the monitor has seen the notices that came with it. -/
def advance (session : Session) (world : World) (notices : List Notice) : Session :=
  { session with world, monitor := session.monitor.observeAll notices }

def catalog? (session : Session) : Except Absent (Catalog Unit) :=
  match session.world.host with
  | .real catalog => .ok catalog
  | _ => .error .cache

def standIn? (session : Session) : Except Absent StandIn :=
  match session.world.host with
  | .double standIn => .ok standIn
  | _ => .error .cache

/-- A catalog or a stand-in exists. -/
def requireHost (session : Session) : Except Absent Unit :=
  match session.world.host with
  | .gone => .error .cache
  | _ => .ok ()

/-- The watch of a slot that is used. Its stop handle exists from then on. -/
def used? (session : Session) (slot : String) : Except Absent WatchId :=
  match session.slots[slot]? with
  | some id => .ok id
  | none => .error .handle

/-- The watch of a slot whose handler is still held. -/
def watcher? (session : Session) (slot : String) : Except Absent WatchId :=
  match session.slots[slot]? with
  | some id => if session.world.handlers.contains id then .ok id else .error .watcher
  | none => .error .watcher

/-- The watch of a slot whose stream is still held. -/
def stream? (session : Session) (slot : String) : Except Absent WatchId :=
  match session.slots[slot]? with
  | some id => if session.world.consumers.contains id then .ok id else .error .stream
  | none => .error .stream

/-- The state of the watch of a slot whose handler is still held. -/
def watch? (session : Session) (slot : String) : Except Absent Watch := do
  let id ← session.watcher? slot
  match session.world.watches[id]? with
  | some watch => .ok watch
  | none => .error .watcher

/-- Stores a namespace object and gives back the one it replaces. -/
def upsert (session : Session) (object : Namespace) : Option Namespace × Session :=
  let (previous, world, notices) := session.world.upsert object
  (previous, session.advance world notices)

/-- Forgets a namespace object and gives it back. -/
def removeObject (session : Session) (name : String) : Option Namespace × Session :=
  let (previous, world) := session.world.removeObject name
  (previous, session.advance world [])

/-- Makes the directory unable to answer for a name, or able again. -/
def setOutage (session : Session) (name : String) (reason : Option String) : Session :=
  session.advance (session.world.setOutage name reason) []

/-- Carries out a mutation of the catalog; the answer is the number of registered watchers. -/
def perform (session : Session) (mutation : Mutation) : Except Absent (Nat × Session) := do
  let _ ← session.catalog?
  let (world, notices) := session.world.perform mutation
  let session := session.advance world notices
  return ((← session.catalog?).watcherCount, session)

/-- Puts a new watch into a slot. The handler and the stream of the one before are dropped. -/
def fill (session : Session) (slot : String) (id : WatchId) : Session :=
  let (world, notices) :=
    match session.slots[slot]? with
    | some old => (session.world.dropHandler old).dropConsumer old
    | none => (session.world, [])
  { session.advance world notices with slots := session.slots.insert slot id }

/-- Opens a watch and puts it into a slot, `registered` with the catalog or with its handler kept
instead. A failure leaves the slot as it is. -/
def openInto (session : Session) (slot : String) (registered : Bool) (subscriber : Subscriber)
    (includeExisting : Option Bool) (options : WatchOptions) :
    Except Absent (Except Failure WatchId × Session) := do
  session.requireHost
  let (result, world, notices) :=
    if registered then session.world.subscribe subscriber includeExisting options
    else session.world.openWatch subscriber includeExisting options
  let session := session.advance world notices
  match result with
  | .ok id => return (.ok id, session.fill slot id)
  | .error cause => return (.error cause, session)

def register (session : Session) (slot : String) : Except Absent Session := do
  let id ← session.watcher? slot
  session.requireHost
  let (world, notices) := session.world.register id
  return session.advance world notices

def unregister (session : Session) (slot : String) : Except Absent Session := do
  let id ← session.watcher? slot
  session.requireHost
  let (world, notices) := session.world.unregister id
  return session.advance world notices

/-- Hands a change to the watch of a slot; the answer is what it knows afterwards. -/
def handle (session : Session) (slot : String) (change : AccessChange) :
    Except Absent (List String × Session) := do
  let (world, notices) := session.world.handle (← session.watcher? slot) change
  let session := session.advance world notices
  return ((← session.watch? slot).known.toList, session)

def dropWatcher (session : Session) (slot : String) : Except Absent Session := do
  return session.advance (session.world.dropHandler (← session.watcher? slot)) []

/-- Drops the stream of a slot, which stops the watch. -/
def dropStream (session : Session) (slot : String) : Except Absent Session := do
  let (world, notices) := session.world.dropConsumer (← session.stream? slot)
  return session.advance world notices

/-- The watch of a slot was stopped. -/
def isStopped (session : Session) (slot : String) : Except Absent Bool := do
  let id ← session.used? slot
  return (session.world.watches[id]?.map Watch.isStopped).getD false

/-- Stops the watch of a slot; the answer tells whether it is stopped now. -/
def stop (session : Session) (slot : String) (control : StopControl) :
    Except Absent (Bool × Session) := do
  let id ←
    match control with
    | .stream => session.stream? slot
    | .watcher => session.watcher? slot
    | .handle => session.used? slot
  let (world, notices) := session.world.stop id
  let session := session.advance world notices
  return (← session.isStopped slot, session)

/-- Lets every relay run until none can go further. -/
def settle (session : Session) : Session :=
  let (world, notices) := session.world.settle
  session.advance world notices

def take (session : Session) (slot : String) : Except Absent (Delivery × Session) := do
  let (delivery, world) := session.world.take (← session.stream? slot)
  return (delivery, session.advance world [])

/-- Settles and takes from the stream of a slot until nothing more comes: the events taken, and
whether more may follow. -/
def drain (session : Session) (slot : String) :
    Except Absent ((List Event × Delivery) × Session) := do
  let drained := session.world.drain (← session.stream? slot)
  return ((drained.events, drained.last), session.advance drained.world drained.notices)

/-- The catalog ceases to exist, if it still did. -/
def dropCache (session : Session) : Session := session.advance session.world.dropHost []

/-- Takes the log records since the last time. -/
def takeJournal (session : Session) : List LogRecord × Session :=
  (session.monitor.journal, { session with monitor := { session.monitor with journal := [] } })

/-- Takes the names that the directory was asked for since the last time. -/
def takeQuestions (session : Session) : List String × Session :=
  (session.monitor.questions,
    { session with monitor := { session.monitor with questions := [] } })

/-- Takes the ids that the stand-in was asked to add and to remove since the last time, each list in
increasing order. -/
def takeCalls (session : Session) : Except Absent ((List WatchId × List WatchId) × Session) := do
  let standIn ← session.standIn?
  let host := Host.double { standIn with added := [], removed := [] }
  return ((standIn.added.mergeSort, standIn.removed.mergeSort),
    session.advance { session.world with host } [])

end Session

end AccessFeed
