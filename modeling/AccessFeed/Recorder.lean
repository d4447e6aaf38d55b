import AccessFeed.Catalog

/-! Watchers that only record. A recorder keeps every change it is handed, and may be scripted to
remove a watcher, add another recorder and look at the catalog from inside its notification, in
this order. -/
namespace AccessFeed

/-- What a recorder does when it is notified. -/
structure RecorderScript where
  /-- The id of a watcher to remove. -/
  removes : Option WatchId
  /-- The id of a plain recorder to add. -/
  adds : Option WatchId
  /-- The user whose namespaces are listed. -/
  lists : Option String
  deriving DecidableEq, Inhabited

/-- A recorder with the number that tells it from others of the same id. -/
structure Recorder where
  number : Nat
  script : RecorderScript
  deriving DecidableEq, Inhabited

/-- One recorded notification. -/
structure Recording where
  number : Nat
  change : AccessChange
  /-- What a scripted look at the catalog showed: the listed namespaces, and the access of the
  namespace that changed. -/
  look : Option (List String × Option Access)

namespace Recorder

/-- Added recorders are numbered this much above the one that adds them. -/
def generation : Nat := 1000

/-- A recorder that does nothing but record. -/
def plain (number : Nat) : Recorder := ⟨number, ⟨none, none, none⟩⟩

/-- The reaction of a recorder to a change. -/
def react (change : AccessChange) (_ : WatchId) (recorder : Recorder) :
    Reaction Recorder Recording :=
  removal <| addition <|
    match recorder.script.lists with
    | none => .done ⟨recorder.number, change, none⟩
    | some user =>
      .list ⟨user, []⟩ fun names =>
        .access change.name fun access => .done ⟨recorder.number, change, some (names, access)⟩
where
  removal (next : Reaction Recorder Recording) : Reaction Recorder Recording :=
    match recorder.script.removes with
    | none => next
    | some id => .remove id next
  addition (next : Reaction Recorder Recording) : Reaction Recorder Recording :=
    match recorder.script.adds with
    | none => next
    | some id => .register id (plain (recorder.number + generation)) next

end Recorder

/-- A catalog of recorders, with the number of recorders added to it from outside and the log. -/
structure Rehearsal where
  catalog : Catalog Recorder
  additions : Nat
  journal : List LogRecord

namespace Rehearsal

def fresh : Rehearsal := ⟨.empty, 0, []⟩

/-- Takes a new catalog and the notices that came with it. -/
def update (rehearsal : Rehearsal) (catalog : Catalog Recorder) (notices : List Notice) :
    Rehearsal :=
  { rehearsal with
    catalog, journal := rehearsal.journal ++ notices.filterMap Notice.record? }

/-- Adds a recorder; recorders added this way are numbered from one. -/
def add (rehearsal : Rehearsal) (id : WatchId) (script : RecorderScript) : Rehearsal :=
  let number := rehearsal.additions + 1
  let (catalog, notices) := rehearsal.catalog.register id ⟨number, script⟩
  { rehearsal.update catalog notices with additions := number }

def remove (rehearsal : Rehearsal) (id : WatchId) : Rehearsal :=
  let (catalog, notices) := rehearsal.catalog.remove id
  rehearsal.update catalog notices

/-- Carries out a mutation and gives what was recorded, in the order of the ids. -/
def perform (rehearsal : Rehearsal) (mutation : Mutation) :
    List (WatchId × Recording) × Rehearsal :=
  let round := rehearsal.catalog.perform Recorder.react id mutation
  (round.results, rehearsal.update round.catalog round.notices)

/-- Takes the log records since the last time. -/
def takeJournal (rehearsal : Rehearsal) : List LogRecord × Rehearsal :=
  (rehearsal.journal, { rehearsal with journal := [] })

end Rehearsal

end AccessFeed
