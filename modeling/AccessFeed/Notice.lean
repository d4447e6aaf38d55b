import AccessFeed.Event
import AccessFeed.WatchOptions

/-! What happens inside the program, told as it happens. A notice is the one source of the log, the
counters and the high-water mark; most notices have a log record, and `Notice.record?` gives its
text. -/
namespace AccessFeed

/-- The number a watch is registered under. It has no bound, so none is given twice. -/
abbrev WatchId := Nat

/-- Why a relay ended. That the consumer is gone is no reason of its own: a consumer that goes has
stopped the watch first. -/
inductive Exit where
  | stopped
  /-- Nobody is left who could hand the watch a change. -/
  | producerGone
  | failed (cause : Overflow)
  deriving DecidableEq, Inhabited

/-- Something that happened. -/
inductive Notice where
  /-- The directory was asked for a name, and could or could not resolve it. -/
  | asked (name : String) (resolved : Bool)
  /-- A change of an unresolvable namespace was skipped. -/
  | changeSkipped (id : WatchId) (name : String) (cause : LookupError)
  /-- An unresolvable namespace was left out of the projects a feed starts with. -/
  | snapshotSkipped (user name : String) (cause : LookupError)
  | largeBuffer (size : UInt64)
  | created (id : WatchId) (user : String) (known initial : Nat) (bufferSize : UInt64)
  | queued (id : WatchId) (event : Event)
  /-- An event met a full intake. -/
  | overflowed (id : WatchId) (user : String) (event : Event)
  /-- A terminal error was waiting already when another one arose. -/
  | alreadyFailed (id : WatchId)
  /-- An event arrived after the relay had ended. -/
  | discarded (id : WatchId) (event : Event)
  /-- A relay ran for the first time. -/
  | begun (id : WatchId)
  /-- A relay took an event from its intake, leaving `depth` events there. -/
  | taken (id : WatchId) (depth : Nat)
  /-- A relay passed an event on to the consumer. -/
  | pushed (id : WatchId) (event : Event)
  | finished (id : WatchId) (exit : Exit)
  | stopped (id : WatchId)
  | registered (id : WatchId)
  | removed (id : WatchId)
  /-- A watch wanted to leave a catalog that no longer exists. -/
  | catalogGone (id : WatchId)
  /-- A change was handed to the given number of watchers. -/
  | dispatched (name : String) (watchers : Nat)
  | stored (name : String)
  | loaded (options : WatchOptions)
  deriving DecidableEq

/-- The importance of a log record. -/
inductive Level where
  | warn
  | debug
  | trace
  deriving DecidableEq, Inhabited

/-- A value attached to a log record. -/
inductive Attribute where
  | text (value : String)
  | count (value : Nat)
  deriving DecidableEq, Inhabited

/-- A record of the log: its importance, its message and the values attached to it by name. -/
structure LogRecord where
  level : Level
  message : String
  attributes : List (String × Attribute)
  deriving DecidableEq, Inhabited

/-- The exit of a relay as records show it. -/
def Exit.label : Exit → String
  | .stopped => "Stopped"
  | .producerGone => "ProducerGone"
  | .failed .addition => "Failed(AddNotificationTimeout)"
  | .failed .deletion => "Failed(DeleteNotificationTimeout)"

namespace Notice

/-- The record that tells of a new greatest depth. -/
def depthRecord (depth : Nat) : LogRecord :=
  ⟨.debug, "watch: " ++ toString depth ++ " objects queued in project cache watching channel.", []⟩

/-- The record of a notice that is always told. -/
def record? : Notice → Option LogRecord
  | .asked .. | .begun _ | .taken .. | .pushed .. => none
  | .changeSkipped id name cause => some ⟨.warn, "skipping membership change",
      [("watcher_id", .count id), ("namespace", .text name), ("error", .text cause.message)]⟩
  | .snapshotSkipped user name cause => some ⟨.warn, "leaving namespace out of initial snapshot",
      [("user", .text user), ("namespace", .text name), ("error", .text cause.message)]⟩
  | .largeBuffer size => some ⟨.warn, "watch.buffer_size (" ++ toString size
      ++ ") is very large; every watcher reserves this many slots", []⟩
  | .created id user known initial bufferSize => some ⟨.debug, "project watcher created",
      [("watcher_id", .count id), ("user", .text user), ("known", .count known),
        ("initial", .count initial), ("buffer_size", .count bufferSize.toNat)]⟩
  | .queued id _ => some ⟨.trace, "event queued", [("watcher_id", .count id)]⟩
  | .overflowed id user event => some ⟨.warn, "intake buffer full, dropping watcher",
      [("watcher_id", .count id), ("user", .text user), ("event_type", .text event.kind.label),
        ("error", .text event.overflow.message)]⟩
  | .alreadyFailed id =>
    some ⟨.debug, "terminal error already recorded", [("watcher_id", .count id)]⟩
  | .discarded id _ => some ⟨.trace, "relay closed, discarding event", [("watcher_id", .count id)]⟩
  | .finished id exit => some ⟨.debug, "project watch finished",
      [("watcher_id", .count id), ("exit", .text exit.label)]⟩
  | .stopped id => some ⟨.debug, "project watch stopped", [("watcher_id", .count id)]⟩
  | .registered id => some ⟨.debug, "watcher registered", [("watcher_id", .count id)]⟩
  | .removed id => some ⟨.debug, "watcher removed", [("watcher_id", .count id)]⟩
  | .catalogGone id => some ⟨.trace, "cache already dropped", [("watcher_id", .count id)]⟩
  | .dispatched name watchers => some ⟨.trace, "membership change dispatched",
      [("namespace", .text name), ("watchers", .count watchers)]⟩
  | .stored name => some ⟨.trace, "namespace stored", [("namespace", .text name)]⟩
  | .loaded options => some ⟨.debug, "settings loaded",
      [("settings", .text ("Settings \x7b watch: " ++ options.shown ++ " \x7d"))]⟩

end Notice

/-- What checking options has to tell: possible but very large buffers are reported. -/
def WatchOptions.warnings (options : WatchOptions) : List Notice :=
  match options.check with
  | .ok () => if options.isLarge then [.largeBuffer options.bufferSize] else []
  | .error _ => []

end AccessFeed
