import AccessFeed.Monitor

/-! What the log and the counters make of notices, whatever else is kept. -/
namespace AccessFeed

/-- The value that is exported for a family and a label. What has no sample was never counted. -/
def Metrics.reading (metrics : Metrics) (family : String) (label : Option String) : Int :=
  ((metrics.samples.find? fun sample => sample.family == family && sample.label == label).map
    Sample.value).getD 0

/-- Each counter is exported under a name of its own. -/
theorem Metrics.reading_eq (metrics : Metrics) :
    metrics.reading "watch_active_watchers" none = metrics.activeWatchers ∧
      metrics.reading "watch_lookup_failures_total" none = metrics.lookupFailures ∧
      metrics.reading "watch_overflow_total" (some Overflow.addition.label) =
        metrics.additionOverflows ∧
      metrics.reading "watch_overflow_total" (some Overflow.deletion.label) =
        metrics.deletionOverflows := by
  by_cases none : metrics.additionOverflows = 0 <;>
    by_cases none' : metrics.deletionOverflows = 0 <;>
    simp [reading, samples, families, overflowSamples, single, Overflow.label, none, none']

namespace Monitor

variable {notices : List Notice}

theorem observeAll_cons (monitor : Monitor) (notice : Notice) (rest : List Notice) :
    monitor.observeAll (notice :: rest) = (monitor.observe notice).observeAll rest := rfl

/-- What a notice adds to the counters. -/
def tally : Notice → Metrics
  | .begun _ => { Metrics.fresh with activeWatchers := 1 }
  | .finished .. => { Metrics.fresh with activeWatchers := -1 }
  | .changeSkipped .. | .snapshotSkipped .. => { Metrics.fresh with lookupFailures := 1 }
  | .overflowed _ _ event => Metrics.fresh.countOverflow event.overflow
  | _ => Metrics.fresh

theorem count_eq (metrics : Metrics) (notice : Notice) :
    count metrics notice =
      { metrics with
        activeWatchers := metrics.activeWatchers + (tally notice).activeWatchers
        lookupFailures := metrics.lookupFailures + (tally notice).lookupFailures
        additionOverflows := metrics.additionOverflows + (tally notice).additionOverflows
        deletionOverflows := metrics.deletionOverflows + (tally notice).deletionOverflows } := by
  cases notice with
  | overflowed id user event =>
    cases kind : event.overflow <;>
      simp [count, tally, kind, Metrics.countOverflow, Metrics.fresh]
  | finished id exit => simp [count, tally, Metrics.fresh, Int.sub_eq_add_neg]
  | _ => simp [count, tally, Metrics.fresh]

/-- The depth that a notice tells of. -/
def depth : Notice → Nat
  | .taken _ depth => depth
  | _ => 0

/-- What is exported after a notice. -/
def gauge (exported : PeakDepth × Metrics) (notice : Notice) : PeakDepth × Metrics :=
  (⟨max exported.1.depth (depth notice)⟩,
    { count exported.2 notice with
      highWater :=
        if exported.1.depth < depth notice then depth notice else exported.2.highWater })

theorem gauge_observe (monitor : Monitor) (notice : Notice) :
    gauge (monitor.peak, monitor.metrics) notice =
      ((monitor.observe notice).peak, (monitor.observe notice).metrics) := by
  cases notice with
  | taken id deep =>
    by_cases deeper : monitor.peak.depth < deep <;>
      simp [observe, measure, gauge, depth, count, PeakDepth.update, log, deeper]
  | overflowed id user event =>
    simp only [gauge, depth, Nat.max_zero, Nat.not_lt_zero, if_false, observe, Notice.record?, log,
      count]
    cases event.overflow <;> rfl
  | _ => simp [gauge, depth, count, observe, Notice.record?, log]

theorem gauge_observeAll (monitor : Monitor) (notices : List Notice) :
    notices.foldl gauge (monitor.peak, monitor.metrics) =
      ((monitor.observeAll notices).peak, (monitor.observeAll notices).metrics) := by
  induction notices generalizing monitor with
  | nil => rfl
  | cons notice rest ih =>
    rw [List.foldl_cons, gauge_observe, ih]
    rfl

/-- A depth is a new maximum or not whatever is counted, and counting is adding. -/
theorem gauge_gauge (exported : PeakDepth × Metrics) (first second : Notice) :
    gauge (gauge exported first) second = gauge (gauge exported second) first := by
  obtain ⟨⟨peak⟩, metrics⟩ := exported
  simp only [gauge, count_eq, Prod.mk.injEq, PeakDepth.mk.injEq, Metrics.mk.injEq]
  generalize depth first = deep
  generalize depth second = deeper
  refine ⟨?_, ?_, ?_, ?_, ?_, ?_⟩ <;> (repeat' split) <;> omega

/-- What is exported does not depend on the order in which things are told. -/
theorem exported_perm {more : List Notice} (h : notices.Perm more) (monitor : Monitor) :
    (monitor.observeAll notices).peak = (monitor.observeAll more).peak ∧
      (monitor.observeAll notices).metrics = (monitor.observeAll more).metrics := by
  have same := h.foldl_eq' (fun first _ second _ exported => gauge_gauge exported first second)
    (monitor.peak, monitor.metrics)
  rw [gauge_observeAll, gauge_observeAll] at same
  exact ⟨congrArg Prod.fst same, congrArg Prod.snd same⟩

/-- Every notice adds its own to the counters, and nothing else changes them. -/
theorem metrics_observe (monitor : Monitor) (notice : Notice) :
    (monitor.observe notice).metrics =
      { monitor.metrics with
        activeWatchers := monitor.metrics.activeWatchers + (tally notice).activeWatchers
        highWater := (monitor.observe notice).metrics.highWater
        lookupFailures := monitor.metrics.lookupFailures + (tally notice).lookupFailures
        additionOverflows := monitor.metrics.additionOverflows + (tally notice).additionOverflows
        deletionOverflows :=
          monitor.metrics.deletionOverflows + (tally notice).deletionOverflows } := by
  have gauged := congrArg Prod.snd (gauge_observe monitor notice)
  rw [gauge, count_eq] at gauged
  dsimp only at gauged ⊢
  rw [← gauged]

/-- What the log holds of records of some kind is what notices call for, in order, as long as new
greatest depths are of another kind. -/
theorem filter_journal_observe {p : LogRecord → Bool}
    (h : ∀ depth, p (Notice.depthRecord depth) = false) (monitor : Monitor) (notice : Notice) :
    (monitor.observe notice).journal.filter p =
      monitor.journal.filter p ++ notice.record?.toList.filter p := by
  cases notice with
  | taken id depth =>
    simp only [observe, measure, Notice.record?]
    split
    · simp [log, h]
    · simp
  | _ => simp [observe, Notice.record?, log]

theorem filter_journal_observeAll {p : LogRecord → Bool}
    (h : ∀ depth, p (Notice.depthRecord depth) = false) (monitor : Monitor)
    (notices : List Notice) :
    (monitor.observeAll notices).journal.filter p =
      monitor.journal.filter p ++ (notices.filterMap Notice.record?).filter p := by
  induction notices generalizing monitor with
  | nil => simp [observeAll]
  | cons notice rest ih =>
    rw [observeAll_cons, ih, filter_journal_observe h, List.append_assoc, ← List.filter_append]
    cases recorded : notice.record? <;> simp [recorded]

/-- The log holds a record as often as notices call for it. -/
theorem count_journal_observeAll {record : LogRecord}
    (h : ∀ depth, Notice.depthRecord depth ≠ record) (monitor : Monitor) (notices : List Notice) :
    (monitor.observeAll notices).journal.count record =
      monitor.journal.count record + notices.countP (·.record? == some record) := by
  have kept := @filter_journal_observeAll (· == record) (fun depth => by simp [h depth]) monitor
    notices
  have counted (records : List LogRecord) :
      (records.filter (· == record)).count record = records.count record :=
    List.count_filter (beq_self_eq_true record)
  rw [← counted, kept, List.count_append, counted, counted, List.count_filterMap]

end Monitor
end AccessFeed
