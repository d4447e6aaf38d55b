import AccessFeed.Access
import AccessFeed.Notice

/-! One watch: the part that a change is handed to, its bounded intake, and the outbox its consumer
reads. A change becomes at most one event. An event that meets a full intake leaves a terminal
error behind and takes the watch out of its catalog; a change of a namespace that cannot be
resolved is skipped.

The relay sleeps while it can go no further. What it waits for wakes it, and then it is due to
run. -/
namespace AccessFeed

/-- What handling or relaying does beyond the watch itself. -/
inductive Effect where
  /-- Something to tell. -/
  | note (notice : Notice)
  /-- Take the watch out of its catalog. -/
  | leave
  deriving DecidableEq

/-- Where the relay of a watch stands. -/
inductive Phase where
  /-- Projects of the snapshot are still to be sent. -/
  | replaying (rest : List Project)
  /-- A project of the snapshot waits for room in the outbox. -/
  | sendingReplay (held : Project) (rest : List Project)
  /-- The snapshot is sent and the intake is served. -/
  | live
  /-- An event of the intake waits for room in the outbox. -/
  | sendingLive (held : Event)
  /-- The terminal error waits for room in the outbox. -/
  | sendingFailure (cause : Overflow)
  | finished (exit : Exit)
  deriving DecidableEq, Inhabited

structure Watch where
  id : WatchId
  subscriber : Subscriber
  intakeLimit : Nat
  outboxLimit : Nat
  /-- The namespaces believed to be visible. -/
  known : NameSet
  /-- Accepted events that the relay has not taken, oldest first. -/
  intake : List Event
  /-- The terminal error, until the relay takes it. -/
  fault : Option Overflow
  phase : Phase
  /-- The relay has run. -/
  begun : Bool
  /-- Events that the consumer has not taken, oldest first. -/
  outbox : List Event
  /-- A stop was asked for. -/
  isStopped : Bool
  /-- The relay was woken and has not run since. -/
  isDue : Bool
  /-- The next event in the intake wakes the relay. -/
  heedsIntake : Bool
  /-- The next terminal error wakes the relay. -/
  heedsFault : Bool
  deriving DecidableEq

/-- What comes of asking for a name: its object, or why there is none. -/
abbrev Answer := Except LookupError Namespace

/-- How a name is resolved while a change is handled. -/
abbrev Lookup := String → Answer

/-- Names, each with what is answered for it. -/
def Lookup.answers (lookup : Lookup) (names : List String) : List (String × Answer) :=
  names.map fun name => (name, lookup name)

@[simp] theorem Lookup.answers_nil (lookup : Lookup) : lookup.answers [] = [] := rfl

@[simp] theorem Lookup.map_fst_answers (lookup : Lookup) (names : List String) :
    (lookup.answers names).map Prod.fst = names := by
  rw [answers, List.map_map]
  exact List.map_id names

/-- What a consumer gets when it asks for an event. -/
inductive Delivery where
  | event (event : Event)
  /-- There is no event yet. -/
  | pending
  /-- There will be no further event. -/
  | closed
  deriving DecidableEq, Inhabited

namespace Phase

def isFinished : Phase → Bool
  | .finished _ => true
  | _ => false

/-- The relay holds something that it sends as soon as there is room in the outbox. -/
def isSending : Phase → Bool
  | .sendingReplay .. | .sendingLive _ | .sendingFailure _ => true
  | _ => false

/-- What a step from here counts in a turn of the relay: one if it takes something or sends. -/
def cost : Phase → Nat
  | .live | .sendingReplay .. | .sendingLive _ | .sendingFailure _ => 1
  | .replaying _ | .finished _ => 0

end Phase

namespace Watch

/-- A watch whose relay has not run yet. -/
def start (id : WatchId) (subscriber : Subscriber) (options : WatchOptions) (known : NameSet)
    (snapshot : List Project) : Watch where
  id
  subscriber
  intakeLimit := options.bufferSize.toNat
  outboxLimit := options.outputBufferSize.toNat
  known
  intake := []
  fault := none
  phase := .replaying snapshot
  begun := false
  outbox := []
  isStopped := false
  isDue := true
  heedsIntake := false
  heedsFault := false

def wakeIf (watch : Watch) (condition : Bool) : Watch :=
  { watch with isDue := watch.isDue || condition }

/-- Nobody is left who could hand the watch a change, which a relay that waits for one heeds. -/
def starve (watch : Watch) : Watch :=
  { watch with heedsIntake := false, heedsFault := false }.wakeIf
    (watch.heedsIntake || watch.heedsFault)

/-- Hands an event to the relay. After the relay has ended the event is discarded; in a full intake
it is lost, and its kind becomes the terminal error unless one waits already. -/
def enqueue (watch : Watch) (event : Event) : Watch × List Effect :=
  if watch.phase.isFinished then (watch, [.note (.discarded watch.id event), .leave])
  else if watch.intake.length < watch.intakeLimit then
    let queued := { watch with intake := watch.intake ++ [event], heedsIntake := false }
    (queued.wakeIf watch.heedsIntake, [.note (.queued watch.id event)])
  else
    let overflowed := Notice.overflowed watch.id watch.subscriber.name event
    match watch.fault with
    | none =>
      let failed := { watch with fault := some event.overflow, heedsFault := false }
      (failed.wakeIf watch.heedsFault, [.note overflowed, .leave])
    | some _ => (watch, [.note overflowed, .leave, .note (.alreadyFailed watch.id)])

/-- The namespace is no longer visible. Only a known one is reported, and by its name alone. -/
def revoke (watch : Watch) (name : String) : Watch × List Effect :=
  if watch.known.contains name then
    { watch with known := watch.known.erase name }.enqueue (.deleted (.named name))
  else (watch, [])

/-- The namespace is visible. It is reported as added when it was not known and as modified when it
was, with the object the directory holds now. -/
def grant (watch : Watch) (lookup : Lookup) (name : String) : Watch × List Effect :=
  match lookup name with
  | .error cause => (watch, [.note (.asked name false), .note (.changeSkipped watch.id name cause)])
  | .ok object =>
    let event :=
      if watch.known.contains name then Event.modified object.project
      else Event.added object.project
    let (watch, effects) := { watch with known := watch.known.insert name }.enqueue event
    (watch, .note (.asked name true) :: effects)

def handle (watch : Watch) (lookup : Lookup) (change : AccessChange) : Watch × List Effect :=
  match change.bearing watch.subscriber with
  | .granted => watch.grant lookup change.name
  | .revoked => watch.revoke change.name
  | .unaffected => (watch, [])

/-- Asks the relay to end. Only the first time has an effect. -/
def stop (watch : Watch) : Watch × List Effect :=
  if watch.isStopped then (watch, [])
  else
    let stopped := { watch with isStopped := true }
    (stopped.wakeIf !watch.phase.isFinished, [.note (.stopped watch.id)])

/-- Takes the oldest event of the outbox, which makes room for a relay that waits for it. -/
def take (watch : Watch) : Delivery × Watch :=
  match watch.outbox with
  | event :: rest =>
    (.event event, { watch with outbox := rest }.wakeIf watch.phase.isSending)
  | [] => (if watch.phase.isFinished then .closed else .pending, watch)

end Watch

end AccessFeed
