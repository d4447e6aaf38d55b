import AccessFeed.Notice

/-! The high-water mark, the metrics and the log, all kept by observing notices. -/
namespace AccessFeed

/-- The greatest depth seen so far, zero at first. -/
structure PeakDepth where
  depth : Nat
  deriving DecidableEq, Inhabited

namespace PeakDepth

def fresh : PeakDepth := ⟨0⟩

/-- Takes a depth into account; it is a new maximum when it is greater than all before it. -/
def update (peak : PeakDepth) (depth : Nat) : Bool × PeakDepth :=
  (peak.depth < depth, ⟨max peak.depth depth⟩)

end PeakDepth

/-- The counters and gauges that are exported. -/
structure Metrics where
  /-- Relays that have begun and not finished. -/
  activeWatchers : Int
  /-- The high-water mark as last exported. -/
  highWater : Nat
  lookupFailures : Nat
  additionOverflows : Nat
  deletionOverflows : Nat
  deriving DecidableEq, Inhabited

/-- One exported value: its family, its label if it has one, and the value. -/
structure Sample where
  family : String
  label : Option String
  value : Int
  deriving DecidableEq, Inhabited

/-- A family of exported values. -/
structure Family where
  name : String
  help : String
  kind : String
  samples : List Sample
  deriving DecidableEq, Inhabited

/-- The name of a sample with its label. -/
def Sample.title (sample : Sample) : String :=
  match sample.label with
  | none => sample.family
  | some label => sample.family ++ "\x7bkind=\"" ++ label ++ "\"\x7d"

/-- The lines of a family in the text format of the export. -/
def Family.text (family : Family) : String :=
  "# HELP " ++ family.name ++ " " ++ family.help ++ "\n"
    ++ "# TYPE " ++ family.name ++ " " ++ family.kind ++ "\n"
    ++ String.join (family.samples.map fun sample =>
      sample.title ++ " " ++ toString sample.value ++ "\n")

namespace Metrics

def fresh : Metrics := ⟨0, 0, 0, 0, 0⟩

/-- The samples of the overflow counter; a kind that never occurred has none. -/
def overflowSamples (metrics : Metrics) : List Sample :=
  [(Overflow.addition, metrics.additionOverflows), (.deletion, metrics.deletionOverflows)]
    |>.filterMap fun (kind, count) =>
      if count = 0 then none else some ⟨"watch_overflow_total", some kind.label, count⟩

/-- A family with a single sample. -/
def single (name help kind : String) (value : Int) : Family :=
  ⟨name, help, kind, [⟨name, none, value⟩]⟩

/-- The exported families in the order of their names; a family without samples is left out. -/
def families (metrics : Metrics) : List Family :=
  [single "watch_active_watchers" "Project watchers whose relay task is still running" "gauge"
      metrics.activeWatchers,
    single "watch_channel_high_water_mark"
      "Deepest intake buffer occupancy observed across all project watchers" "gauge"
      metrics.highWater,
    single "watch_lookup_failures_total"
      "Membership changes skipped because the namespace could not be resolved" "counter"
      metrics.lookupFailures,
    ⟨"watch_overflow_total", "Watchers torn down because their intake buffer was full", "counter",
      metrics.overflowSamples⟩]
    |>.filter fun family => !family.samples.isEmpty

def samples (metrics : Metrics) : List Sample := metrics.families.flatMap Family.samples

def text (metrics : Metrics) : String := String.join (metrics.families.map Family.text)

def countOverflow (metrics : Metrics) : Overflow → Metrics
  | .addition => { metrics with additionOverflows := metrics.additionOverflows + 1 }
  | .deletion => { metrics with deletionOverflows := metrics.deletionOverflows + 1 }

end Metrics

/-- All that is kept of what happened. -/
structure Monitor where
  peak : PeakDepth
  metrics : Metrics
  /-- The log, oldest record first. -/
  journal : List LogRecord
  /-- The names the directory was asked for, oldest first. -/
  questions : List String
  deriving DecidableEq, Inhabited

namespace Monitor

def fresh : Monitor := ⟨.fresh, .fresh, [], []⟩

def log (monitor : Monitor) (record : LogRecord) : Monitor :=
  { monitor with journal := monitor.journal ++ [record] }

def count (metrics : Metrics) : Notice → Metrics
  | .begun _ => { metrics with activeWatchers := metrics.activeWatchers + 1 }
  | .finished .. => { metrics with activeWatchers := metrics.activeWatchers - 1 }
  | .changeSkipped .. | .snapshotSkipped .. =>
    { metrics with lookupFailures := metrics.lookupFailures + 1 }
  | .overflowed _ _ event => metrics.countOverflow event.overflow
  | _ => metrics

/-- Takes the depth of an intake into account: a new maximum is exported and logged. -/
def measure (monitor : Monitor) (depth : Nat) : Monitor :=
  let (isNew, peak) := monitor.peak.update depth
  if isNew then
    { monitor with peak, metrics := { monitor.metrics with highWater := depth } }.log
      (Notice.depthRecord depth)
  else { monitor with peak }

/-- Takes one notice into account. -/
def observe (monitor : Monitor) (notice : Notice) : Monitor :=
  match notice with
  | .taken _ depth => monitor.measure depth
  | .asked name _ => { monitor with questions := monitor.questions ++ [name] }
  | _ =>
    let counted := { monitor with metrics := count monitor.metrics notice }
    match notice.record? with
    | some record => counted.log record
    | none => counted

def observeAll (monitor : Monitor) (notices : List Notice) : Monitor :=
  notices.foldl observe monitor

end Monitor

end AccessFeed
