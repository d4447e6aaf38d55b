import AccessFeed.Catalog
import AccessFeed.Namespace.Directory
import AccessFeed.Watch.Relay

/-! Watches together with the catalog they are registered with and the directory they resolve names
in, as one state. Every operation gives the state after it and the notices of what happened, in
order. Relays run in the order in which they were woken, each for a turn of limited length, until
none can go further. -/
namespace AccessFeed

/-- A stand-in for a catalog. It answers every listing alike, owns no watcher, and notes the ids
that it is asked to add or remove. -/
structure StandIn where
  answer : Except Failure (List String)
  added : List WatchId
  removed : List WatchId

/-- What watches are registered with. -/
inductive Host where
  | real (catalog : Catalog Unit)
  | double (standIn : StandIn)
  /-- The catalog no longer exists. -/
  | gone

/-- Watches with all that they depend on. -/
structure World where
  host : Host
  directory : Directory
  /-- Names that the directory cannot answer for, with the reason. -/
  outages : NameMap String
  /-- Why relays cannot be run, if they cannot. -/
  runtimeFault : Option String
  /-- The id of the next watch. -/
  nextId : WatchId
  watches : Std.ExtTreeMap WatchId Watch
  /-- The watches whose relay is due to run, in the order in which they were woken. -/
  line : List WatchId
  /-- The watches that their creator can still hand changes to. -/
  handlers : Std.ExtTreeSet WatchId
  /-- The watches whose consumer still reads. -/
  consumers : Std.ExtTreeSet WatchId

/-- The reason given where no runtime was entered. -/
def noRuntime : String :=
  "there is no reactor running, must be called from the context of a Tokio 1.x runtime"

namespace Reaction

/-- The effects of a watch as a reaction of the watcher with the given id. -/
def ofEffects {ω α : Type} (id : WatchId) (result : α) : List Effect → Reaction ω α
  | [] => .done result
  | .note notice :: rest => .note notice (ofEffects id result rest)
  | .leave :: rest => .remove id (ofEffects id result rest)

end Reaction

namespace Host

/-- The namespaces that a subscriber sees. Without a catalog there are none. -/
def list : Host → Subscriber → Except Failure (List String)
  | .real catalog, subscriber => .ok (catalog.visible subscriber)
  | .double standIn, _ => standIn.answer
  | .gone, _ => .ok []

def registers : Host → WatchId → Bool
  | .real catalog, id => catalog.registers id
  | _, _ => false

def register : Host → WatchId → Host × List Notice
  | .real catalog, id =>
    let (catalog, notices) := catalog.register id ()
    (.real catalog, notices)
  | .double standIn, id => (.double { standIn with added := standIn.added ++ [id] }, [])
  | .gone, _ => (.gone, [])

def remove : Host → WatchId → Host × List Notice
  | .real catalog, id =>
    let (catalog, notices) := catalog.remove id
    (.real catalog, notices)
  | .double standIn, id => (.double { standIn with removed := standIn.removed ++ [id] }, [])
  | .gone, id => (.gone, [.catalogGone id])

end Host

/-- The projects a feed starts with: the listed names that resolve, in the order listed. Each time
that a name is listed it is asked for, and it comes here with what was answered then. -/
def snapshot (user : String) : List (String × Answer) → List Project × List Notice
  | [] => ([], [])
  | (name, answer) :: rest =>
    let (projects, notices) := snapshot user rest
    match answer with
    | .ok object => (object.project :: projects, .asked name true :: notices)
    | .error cause =>
      (projects, .asked name false :: .snapshotSkipped user name cause :: notices)

/-- A new watch of the listed namespaces, and what is told of it. It knows all of them, whatever was
answered, and if it `includes` what exists it starts with the projects of those that resolve. -/
def Watch.ofListing (id : WatchId) (subscriber : Subscriber) (options : WatchOptions)
    (includes : Bool) (listing : List (String × Answer)) : Watch × List Notice :=
  let known := NameSet.ofNames (listing.map Prod.fst)
  let (projects, notices) := if includes then snapshot subscriber.name listing else ([], [])
  (.start id subscriber options known projects,
    notices ++ [.created id subscriber.name known.size projects.length options.bufferSize])

namespace World

def fresh (host : Host) : World where
  host
  directory := .empty
  outages := ∅
  runtimeFault := none
  nextId := 1
  watches := ∅
  line := []
  handlers := ∅
  consumers := ∅

/-- How names are resolved now. -/
def lookup (world : World) : Lookup := fun name =>
  match world.outages[name]? with
  | some reason => .error (.unavailable reason)
  | none => world.directory.find name

/-- Stores a namespace object and gives back the one it replaces. -/
def upsert (world : World) (object : Namespace) : Option Namespace × World × List Notice :=
  let (previous, directory) := world.directory.upsert object
  (previous, { world with directory }, [.stored object.name])

/-- Forgets a namespace object and gives it back. -/
def removeObject (world : World) (name : String) : Option Namespace × World :=
  let (previous, directory) := world.directory.remove name
  (previous, { world with directory })

/-- Makes the directory unable to answer for a name, or able again. -/
def setOutage (world : World) (name : String) : Option String → World
  | some reason => { world with outages := world.outages.insert name reason }
  | none => { world with outages := world.outages.erase name }

/-- Some party can still hand a watch a change. -/
def feeds (world : World) (id : WatchId) : Bool :=
  world.handlers.contains id || world.host.registers id

/-- Stores the state of a watch. A relay that has become due gets in line. -/
def put (world : World) (id : WatchId) (watch : Watch) : World :=
  { world with
    watches := world.watches.insert id watch
    line := if watch.isDue && !world.line.contains id then world.line ++ [id] else world.line }

/-- Lets a watch know if nobody feeds it any more. -/
def checkFeed (world : World) (id : WatchId) : World :=
  match world.watches[id]? with
  | some watch => if world.feeds id then world else world.put id watch.starve
  | none => world

def register (world : World) (id : WatchId) : World × List Notice :=
  let (host, notices) := world.host.register id
  ({ world with host }, notices)

def unregister (world : World) (id : WatchId) : World × List Notice :=
  let (host, notices) := world.host.remove id
  ({ world with host }.checkFeed id, notices)

/-- Carries out the effects of a watch in order. -/
def carryOut (id : WatchId) : List Effect → World → World × List Notice
  | [], world => (world, [])
  | .note notice :: rest, world =>
    let (world, notices) := carryOut id rest world
    (world, notice :: notices)
  | .leave :: rest, world =>
    let (world, before) := world.unregister id
    let (world, notices) := carryOut id rest world
    (world, before ++ notices)

/-- Applies an action to a watch, if there is one of that id, and carries out the effects. -/
def act (world : World) (id : WatchId) (action : Watch → Watch × List Effect) :
    World × List Notice :=
  match world.watches[id]? with
  | some watch =>
    let (watch, effects) := action watch
    carryOut id effects (world.put id watch)
  | none => (world, [])

/-- Opens a watch. The options are checked first, then there has to be a runtime, then the visible
namespaces are listed; only when all this succeeds is an id used. -/
def openWatch (world : World) (subscriber : Subscriber) (includeExisting : Option Bool)
    (options : WatchOptions) : Except Failure WatchId × World × List Notice :=
  match options.check, world.runtimeFault, world.host.list subscriber with
  | .error cause, _, _ => (.error (.settings cause), world, [])
  | .ok (), some reason, _ =>
      (.error (.watch (.runtimeUnavailable reason)), world, options.warnings)
  | .ok (), none, .error cause => (.error cause, world, options.warnings)
  | .ok (), none, .ok names =>
    let id := world.nextId
    let (watch, notices) :=
      Watch.ofListing id subscriber options (includeExisting.getD options.includeExisting)
        (world.lookup.answers names)
    (.ok id,
      { world with
        nextId := id + 1
        handlers := world.handlers.insert id
        consumers := world.consumers.insert id
      }.put id watch,
      options.warnings ++ notices)

/-- The creator of a watch gives up handing it changes. -/
def dropHandler (world : World) (id : WatchId) : World :=
  { world with handlers := world.handlers.erase id }.checkFeed id

/-- Opens a watch that only its catalog can hand changes to. -/
def subscribe (world : World) (subscriber : Subscriber) (includeExisting : Option Bool)
    (options : WatchOptions) : Except Failure WatchId × World × List Notice :=
  match world.openWatch subscriber includeExisting options with
  | (.ok id, world, notices) =>
    let (world, registered) := world.register id
    (.ok id, world.dropHandler id, notices ++ registered)
  | failed => failed

def stop (world : World) (id : WatchId) : World × List Notice := world.act id Watch.stop

/-- The consumer of a watch stops reading, which stops the watch. -/
def dropConsumer (world : World) (id : WatchId) : World × List Notice :=
  if world.consumers.contains id then
    { world with consumers := world.consumers.erase id }.stop id
  else (world, [])

def handle (world : World) (id : WatchId) (change : AccessChange) : World × List Notice :=
  world.act id fun watch => watch.handle world.lookup change

/-- What a registered watch does when it is handed a change: it reacts as its state before the
dispatch and the directory tell, and its state afterwards is the result. -/
def react (world : World) (change : AccessChange) (id : WatchId) (_ : Unit) :
    Reaction Unit (Option Watch) :=
  match world.watches[id]? with
  | some watch =>
    let (watch, effects) := watch.handle world.lookup change
    .ofEffects id (some watch) effects
  | none => .done none

/-- Stores the states of watches after a dispatch. -/
def store (world : World) (results : List (WatchId × Option Watch)) : World :=
  results.foldl (fun world (id, watch?) =>
    match watch? with
    | some watch => (world.put id watch).checkFeed id
    | none => world) world

/-- Carries out a mutation of the catalog, visiting the registered watches in the order that
`arrange` gives them. Without a catalog nothing happens. -/
def performIn (arrange : List (WatchId × Unit) → List (WatchId × Unit)) (world : World)
    (mutation : Mutation) : World × List Notice :=
  match world.host with
  | .real catalog =>
    let round := catalog.perform world.react arrange mutation
    ({ world with host := .real round.catalog }.store round.results, round.notices)
  | _ => (world, [])

/-- Carries out a mutation of the catalog, visiting the watches in the order of their ids. -/
def perform (world : World) (mutation : Mutation) : World × List Notice :=
  world.performIn id mutation

/-- How much the steps of a relay may count in one turn. -/
def turnLimit : Nat := 128

/-- The relay of one watch leaves the line and has a turn. -/
def poll (world : World) (id : WatchId) : World × List Notice :=
  { world with line := world.line.erase id }.act id (Watch.poll (world.feeds id) turnLimit)

/-- The relays of watches have a turn one after another. -/
def pollAll : List WatchId → World → World × List Notice
  | [], world => (world, [])
  | id :: rest, world =>
    let (world, before) := world.poll id
    let (world, notices) := pollAll rest world
    (world, before ++ notices)

/-- The number of turns in one round. -/
def roundLimit : Nat := 61

/-- The first relays in line have a turn. Those that are cut short get in line again after all
others, the last of them first. -/
def round (world : World) : World × List Notice :=
  let others := world.line.drop roundLimit
  let (world, notices) := pollAll (world.line.take roundLimit) { world with line := [] }
  ({ world with line := others ++ world.line.reverse }, notices)

/-- A bound on the rounds until no relay in line can go further: a turn takes a relay out of the
line or leaves it less work. -/
def effort (world : World) : Nat :=
  world.line.foldr (fun id total => (world.watches[id]?.map Watch.work).getD 0 + 1 + total) 0

/-- Lets the relays in line run for at most the given number of rounds. -/
def settleWithin : Nat → World → World × List Notice
  | 0, world => (world, [])
  | bound + 1, world =>
    if world.line.isEmpty then (world, [])
    else
      let (world, before) := world.round
      let (world, notices) := settleWithin bound world
      (world, before ++ notices)

/-- Lets the relays in line run until none can go further. -/
def settle (world : World) : World × List Notice := settleWithin world.effort world

/-- The consumer of a watch takes an event. -/
def take (world : World) (id : WatchId) : Delivery × World :=
  match world.watches[id]? with
  | some watch =>
    let (delivery, watch) := watch.take
    (delivery, world.put id watch)
  | none => (.closed, world)

/-- A bound on the events that a consumer can still take when nobody hands its watch a change. -/
def backlog (world : World) (id : WatchId) : Nat :=
  match world.watches[id]? with
  | some watch => watch.outbox.length + watch.work
  | none => 0

/-- What a consumer got by taking as long as something came. -/
structure Drained where
  events : List Event
  /-- What it got last, which is no event. -/
  last : Delivery
  world : World
  notices : List Notice

/-- Settles and takes, until nothing more comes or the bound is reached. -/
def drainWithin : Nat → World → WatchId → Drained
  | 0, world, _ => ⟨[], .pending, world, []⟩
  | bound + 1, world, id =>
    let (settled, notices) := world.settle
    match settled.take id with
    | (.event event, world) =>
      let rest := drainWithin bound world id
      { rest with events := event :: rest.events, notices := notices ++ rest.notices }
    | (last, world) => ⟨[], last, world, notices⟩

/-- Settles and takes until nothing more comes. -/
def drain (world : World) (id : WatchId) : Drained := drainWithin (world.backlog id + 1) world id

/-- The catalog ceases to exist, and with it its hold on the watches. -/
def dropHost (world : World) : World :=
  world.watches.keys.foldl checkFeed { world with host := .gone }

end World

/-- A watch as diagnostics show it. -/
def Watch.shown (watch : Watch) : String :=
  "ProjectWatcher \x7b id: " ++ toString watch.id ++ ", user: UserInfo \x7b name: "
    ++ Text.quoted watch.subscriber.name ++ ", groups: ["
    ++ ", ".intercalate (watch.subscriber.groups.map Text.quoted)
    ++ "] \x7d, known_projects: Mutex \x7b data: " ++ watch.known.shown ++ " \x7d, .. \x7d"

end AccessFeed
