import AccessFeed.Proofs.History.Attendance
import AccessFeed.Proofs.Incident
import AccessFeed.Proofs.Monitor

/-! The counters and the log agree with what happened.

What happened is told without them: the incidents of a run are read off the states before its
actions, and where the relays stand is read off the state at its end. -/
namespace AccessFeed

namespace Incident

/-- The kind of the event that met a full intake. -/
def kind? : Incident → Option EventKind
  | .rejected _ _ event => some event.kind
  | _ => none

/-- What the log holds of an incident. -/
def record : Incident → LogRecord
  | .skipped id name cause => ⟨.warn, "skipping membership change",
      [("watcher_id", .count id), ("namespace", .text name), ("error", .text cause.message)]⟩
  | .leftOut user name cause => ⟨.warn, "leaving namespace out of initial snapshot",
      [("user", .text user), ("namespace", .text name), ("error", .text cause.message)]⟩
  | .rejected id user event => ⟨.warn, "intake buffer full, dropping watcher",
      [("watcher_id", .count id), ("user", .text user), ("event_type", .text event.kind.label),
        ("error", .text event.overflow.message)]⟩

end Incident

/-- What the log holds of the end of a relay. -/
def Exit.record (id : WatchId) (exit : Exit) : LogRecord :=
  ⟨.debug, "project watch finished", [("watcher_id", .count id), ("exit", .text exit.label)]⟩

/-- The record is a warning with the given text. -/
def LogRecord.warns (message : String) (record : LogRecord) : Bool :=
  record.level == .warn && record.message == message

/-- An event arrived after the relay had ended. -/
def Notice.isDiscard : Notice → Bool
  | .discarded .. => true
  | _ => false

namespace Incident

theorem length_warnings (incidents : List Incident) :
    ((incidents.map record).filter (·.warns "skipping membership change")).length +
        ((incidents.map record).filter
          (·.warns "leaving namespace out of initial snapshot")).length =
      incidents.countP isUnresolved := by
  induction incidents with
  | nil => rfl
  | cons incident rest ih =>
    rw [List.map_cons, List.countP_cons, ← ih]
    cases incident <;> simp [record, LogRecord.warns, isUnresolved] <;> omega

theorem filter_warns_rejected (incidents : List Incident) :
    (incidents.map record).filter (·.warns "intake buffer full, dropping watcher") =
      (incidents.filter (·.kind?.isSome)).map record := by
  rw [List.filter_map]
  congr 1
  apply List.filter_congr
  intro incident _
  cases incident <;> simp [record, LogRecord.warns, kind?]

end Incident

section Texts

/-! The texts of two records hold a number. Both begin with the same letter, which tells them from all
others. -/

variable {message : String} (other : message.toList.head? ≠ some 'w')

include other

theorem message_depthRecord_ne (depth : Nat) : (Notice.depthRecord depth).message ≠ message := by
  rintro rfl
  simp [Notice.depthRecord] at other

theorem message_largeBuffer_ne {size : UInt64} {record : LogRecord}
    (h : (Notice.largeBuffer size).record? = some record) : record.message ≠ message := by
  obtain rfl := Option.some.inj h
  rintro rfl
  simp at other

/-- Among the warnings with the given text are none but those of incidents. -/
theorem filter_warns_record (notices : List Notice) :
    (notices.filterMap Notice.record?).filter (·.warns message) =
      ((Notice.incidents notices).map Incident.record).filter (·.warns message) := by
  rw [Notice.incidents, List.map_filterMap, List.filter_filterMap, List.filter_filterMap]
  apply List.filterMap_congr
  intro notice _
  cases notice with
  | largeBuffer size =>
    have unlike := @message_largeBuffer_ne _ other size _ rfl
    simp_all [Notice.record?, Notice.incident?, Option.filter, LogRecord.warns]
  | _ => simp [Notice.record?, Notice.incident?, Incident.record, Option.filter, LogRecord.warns]

end Texts

/-- The records of ended relays are those that notices of their ends call for. -/
theorem filter_finished_record (notices : List Notice) :
    (notices.filterMap Notice.record?).filter (·.message == "project watch finished") =
      (notices.filterMap Notice.finished?).map fun ended => ended.2.record ended.1 := by
  have other : "project watch finished".toList.head? ≠ some 'w' := by decide
  rw [List.map_filterMap, List.filter_filterMap]
  apply List.filterMap_congr
  intro notice _
  cases notice with
  | largeBuffer size =>
    have unlike := @message_largeBuffer_ne _ other size _ rfl
    simp_all [Notice.record?, Notice.finished?, Option.filter]
  | _ => simp [Notice.record?, Notice.finished?, Exit.record, Option.filter]

theorem Notice.message_ne_of_isDiscard {notice : Notice} (h : notice.isDiscard = false)
    {record : LogRecord} (told : notice.record? = some record) :
    record.message ≠ "relay closed, discarding event" := by
  have other : "relay closed, discarding event".toList.head? ≠ some 'w' := by decide
  cases notice with
  | largeBuffer size => exact message_largeBuffer_ne other told
  | discarded => cases h
  | asked | begun | taken | pushed => cases told
  | _ =>
    obtain rfl := Option.some.inj told
    simp

namespace Monitor

/-- What is kept, but for the records of discarded events. -/
def withoutDiscards (monitor : Monitor) : Monitor :=
  { monitor with
    journal := monitor.journal.filter (·.message != "relay closed, discarding event") }

theorem withoutDiscards_log (monitor : Monitor) {record : LogRecord}
    (h : record.message ≠ "relay closed, discarding event") :
    (monitor.log record).withoutDiscards = monitor.withoutDiscards.log record := by
  simp [withoutDiscards, log, h]

theorem withoutDiscards_observe (monitor : Monitor) {notice : Notice}
    (h : notice.isDiscard = false) :
    (monitor.observe notice).withoutDiscards = monitor.withoutDiscards.observe notice := by
  have other : "relay closed, discarding event".toList.head? ≠ some 'w' := by decide
  cases notice with
  | taken id depth =>
    simp only [observe, measure]
    have peak : monitor.withoutDiscards.peak = monitor.peak := rfl
    rw [peak]
    split
    · exact withoutDiscards_log _ (message_depthRecord_ne other depth)
    · rfl
  | asked | begun | pushed => rfl
  | _ => exact withoutDiscards_log _ (Notice.message_ne_of_isDiscard h rfl)

/-- A discarded event leaves a record and nothing else behind. -/
theorem withoutDiscards_observe_discard (monitor : Monitor) {notice : Notice}
    (h : notice.isDiscard = true) :
    (monitor.observe notice).withoutDiscards = monitor.withoutDiscards := by
  cases notice with
  | discarded id event => simp [observe, withoutDiscards, Notice.record?, log, count]
  | _ => cases h

theorem withoutDiscards_observeAll (monitor : Monitor) (notices : List Notice) :
    (monitor.observeAll notices).withoutDiscards =
      monitor.withoutDiscards.observeAll (notices.filter (!·.isDiscard)) := by
  induction notices generalizing monitor with
  | nil => rfl
  | cons notice rest ih =>
    rw [observeAll_cons, ih]
    cases discard : notice.isDiscard with
    | true =>
      rw [withoutDiscards_observe_discard _ discard, List.filter_cons_of_neg (by simp [discard])]
    | false =>
      rw [withoutDiscards_observe _ discard, List.filter_cons_of_pos (by simp [discard])]
      rfl

/-- What a notice adds to the counters, by what it tells of. -/
theorem tally_eq (notice : Notice) :
    (tally notice).activeWatchers =
        (notice.begun?.toList.length : Int) - notice.finished?.toList.length ∧
      (tally notice).lookupFailures = notice.incident?.toList.countP Incident.isUnresolved ∧
      (tally notice).additionOverflows =
        notice.incident?.toList.countP (·.kind?.any (· != .deleted)) ∧
      (tally notice).deletionOverflows =
        notice.incident?.toList.countP (·.kind? == some .deleted) := by
  cases notice with
  | overflowed id user event =>
    cases event <;>
      simp [tally, Metrics.countOverflow, Metrics.fresh, Event.overflow, Event.kind, Notice.begun?,
        Notice.finished?, Notice.incident?, Incident.kind?, Incident.isUnresolved]
  | _ =>
    simp [tally, Metrics.fresh, Notice.begun?, Notice.finished?, Notice.incident?, Incident.kind?,
      Incident.isUnresolved]

theorem counters_observeAll (monitor : Monitor) (notices : List Notice) :
    let before := monitor.metrics
    let after := (monitor.observeAll notices).metrics
    after.activeWatchers = before.activeWatchers + (notices.filterMap Notice.begun?).length -
        (notices.filterMap Notice.finished?).length ∧
      after.lookupFailures =
        before.lookupFailures + (Notice.incidents notices).countP Incident.isUnresolved ∧
      after.additionOverflows = before.additionOverflows +
        (Notice.incidents notices).countP (·.kind?.any (· != .deleted)) ∧
      after.deletionOverflows = before.deletionOverflows +
        (Notice.incidents notices).countP (·.kind? == some .deleted) := by
  induction notices generalizing monitor with
  | nil => simp [observeAll, Notice.incidents]
  | cons notice rest ih =>
    have selected {α : Type} (select : Notice → Option α) :
        (notice :: rest).filterMap select = (select notice).toList ++ rest.filterMap select := by
      cases found : select notice <;> simp [found]
    have later := ih (monitor.observe notice)
    obtain ⟨active, lookups, additions, deletions⟩ := tally_eq notice
    rw [metrics_observe] at later
    unfold Notice.incidents at later ⊢
    simp only [observeAll_cons, selected, List.length_append, List.countP_append, active, lookups,
      additions, deletions] at later ⊢
    omega

/-- What is exported after notices that began with fresh counters. -/
theorem reading_observeAll (notices : List Notice) :
    let reading := (fresh.observeAll notices).metrics.reading
    reading "watch_active_watchers" none =
        ((notices.filterMap Notice.begun?).length : Int) -
          (notices.filterMap Notice.finished?).length ∧
      reading "watch_lookup_failures_total" none =
        (Notice.incidents notices).countP Incident.isUnresolved ∧
      reading "watch_overflow_total" (some "add") =
        (Notice.incidents notices).countP (·.kind?.any (· != .deleted)) ∧
      reading "watch_overflow_total" (some "delete") =
        (Notice.incidents notices).countP (·.kind? == some .deleted) := by
  intro reading
  obtain ⟨active, lookups, additions, deletions⟩ := (fresh.observeAll notices).metrics.reading_eq
  have counted := fresh.counters_observeAll notices
  simp only [fresh, Metrics.fresh, Nat.zero_add, Int.zero_add] at counted
  obtain ⟨active', lookups', additions', deletions'⟩ := counted
  exact ⟨active.trans active', lookups.trans (congrArg Nat.cast lookups'),
    additions.trans (congrArg Nat.cast additions'), deletions.trans (congrArg Nat.cast deletions')⟩

/-- The log holds the warnings of incidents in the order in which they happened. -/
theorem filter_warns_observeAll {message : String} (other : message.toList.head? ≠ some 'w')
    (notices : List Notice) :
    (fresh.observeAll notices).journal.filter (·.warns message) =
      ((Notice.incidents notices).map Incident.record).filter (·.warns message) := by
  rw [← filter_warns_record other]
  exact filter_journal_observeAll (fun depth => by simp [LogRecord.warns, Notice.depthRecord]) _ _

end Monitor

/-- No event that a watch makes of a change is an error. -/
theorem kind?_of_mem_incidents {watch : Watch} {lookup : Lookup} {change : AccessChange}
    {incident : Incident} (h : incident ∈ watch.incidents lookup change) :
    incident.kind? ≠ some .error := by
  simp only [Watch.incidents, List.mem_append, Option.mem_toList, Option.map_eq_some_iff] at h
  obtain ⟨cause, -, rfl⟩ | rejected := h
  · simp [Incident.kind?]
  · split at rejected
    · simp only [Option.mem_toList, Option.map_eq_some_iff, Watch.announced?, announcement?]
        at rejected
      obtain ⟨event, announced, rfl⟩ := rejected
      simp only [Incident.kind?, ne_eq, Option.some.injEq]
      split at announced
      · simp only [if_true, Option.map_eq_some_iff] at announced
        obtain ⟨object, -, rfl⟩ := announced
        split <;> simp [Event.kind]
      · simp only [Bool.false_eq_true, if_false] at announced
        split at announced
        · obtain rfl := Option.some.inj announced
          simp [Event.kind]
        · cases announced
      · cases announced
    · cases rejected

namespace World

theorem kind?_of_mem_incidentsOf {world : World} {action : Action} {incident : Incident}
    (h : incident ∈ world.incidentsOf action) : incident.kind? ≠ some .error := by
  simp only [incidentsOf, List.mem_append, List.mem_flatMap] at h
  obtain lost | ⟨⟨id, touch⟩, -, member⟩ := h
  · simp only [missing, List.mem_filterMap] at lost
    obtain ⟨name, -, same⟩ := lost
    split at same
    · cases same
    · obtain rfl := Option.some.inj same
      simp [Incident.kind?]
  · dsimp only at member
    unfold Glimpse.incidents at member
    split at member
    · cases held : (world.glimpse id).watch? with
      | none => simp [held] at member
      | some watch =>
        rw [held] at member
        exact kind?_of_mem_incidents member
    · cases member

theorem kind?_of_mem_incidents {world : World} {actions : List Action} {incident : Incident}
    (h : incident ∈ world.incidents actions) : incident.kind? ≠ some .error := by
  induction actions generalizing world with
  | nil => cases h
  | cons action rest ih =>
    obtain now | later := List.mem_append.mp h
    · exact kind?_of_mem_incidentsOf now
    · exact ih later

end World

namespace History

theorem incidents_fresh (host : Host) (actions : List Action) :
    let now := (start (.fresh host)).run actions
    let incidents := (World.fresh host).incidents actions
    Notice.incidents now.notices = incidents ∧
      now.notices.countP Notice.isMiss = incidents.countP Incident.isUnresolved := by
  intro now incidents
  obtain ⟨told, balanced⟩ := @incidents_run (start (.fresh host)) rfl actions
  have told : Notice.incidents now.notices = incidents := told
  exact ⟨told, balanced.trans (congrArg _ told)⟩

/-- The log holds one record of each relay that has ended, with its exit. -/
theorem perm_finished_record (host : Host) (actions : List Action) :
    let now := (start (.fresh host)).run actions
    ((Monitor.fresh.observeAll now.notices).journal.filter
        (·.message == "project watch finished")).Perm
      (now.world.watches.toList.filterMap fun (id, watch) =>
        watch.phase.exit?.map (Exit.record id)) := by
  intro now
  have unlike (depth : Nat) :
      ((Notice.depthRecord depth).message == "project watch finished") = false :=
    beq_eq_false_iff_ne.mpr (message_depthRecord_ne (by decide) depth)
  have told := @Monitor.filter_journal_observeAll (·.message == "project watch finished") unlike
    .fresh now.notices
  have ended := (perm_finished host actions).map fun ended => ended.2.record ended.1
  have fresh : Monitor.fresh.journal.filter (·.message == "project watch finished") = [] := rfl
  rw [told, fresh, List.nil_append, filter_finished_record]
  simpa only [List.map_filterMap, Option.map_map, Function.comp_def] using ended

/-- A run from any host on, with the counters and the log fresh at its beginning. -/
theorem accounting (host : Host) (actions : List Action) :
    let now := (start (.fresh host)).run actions
    let incidents := (World.fresh host).incidents actions
    let relays := now.world.watches.toList
    let monitor := Monitor.fresh.observeAll now.notices
    let warnings (message : String) := monitor.journal.filter (·.warns message)
    let reading := monitor.metrics.reading
    (reading "watch_lookup_failures_total" none = incidents.countP Incident.isUnresolved ∧
      reading "watch_lookup_failures_total" none = now.notices.countP Notice.isMiss ∧
      reading "watch_lookup_failures_total" none =
        (warnings "skipping membership change").length +
          (warnings "leaving namespace out of initial snapshot").length) ∧
    (reading "watch_overflow_total" (some "add") = incidents.countP (fun incident =>
        incident.kind? == some .added || incident.kind? == some .modified) ∧
      reading "watch_overflow_total" (some "delete") =
        incidents.countP (·.kind? == some .deleted) ∧
      warnings "intake buffer full, dropping watcher" =
        (incidents.filter (·.kind?.isSome)).map Incident.record) ∧
    (reading "watch_active_watchers" none =
        (relays.countP (·.2.begun) : Int) - relays.countP (·.2.phase.isFinished) ∧
      (∀ count, 0 ≤ (Monitor.fresh.observeAll (now.notices.take count)).metrics.reading
        "watch_active_watchers" none) ∧
      (monitor.journal.filter (·.message == "project watch finished")).Perm
        (relays.filterMap fun (id, watch) => watch.phase.exit?.map (Exit.record id))) ∧
    Monitor.fresh.observeAll (now.notices.filter (!·.isDiscard)) =
      { monitor with
        journal := monitor.journal.filter (·.message != "relay closed, discarding event") } := by
  intro now incidents relays monitor warnings reading
  obtain ⟨told, misses⟩ := incidents_fresh host actions
  obtain ⟨active, lookups, additions, deletions⟩ := Monitor.reading_observeAll now.notices
  have told : Notice.incidents now.notices = incidents := told
  rw [told] at lookups additions deletions
  have warned (message : String) (other : message.toList.head? ≠ some 'w') :
      warnings message = (incidents.map Incident.record).filter (·.warns message) :=
    told ▸ Monitor.filter_warns_observeAll other now.notices
  refine ⟨⟨lookups, ?_, ?_⟩, ⟨additions.trans ?_, deletions, ?_⟩, ⟨active.trans ?_, fun count => ?_,
    perm_finished_record host actions⟩, ?_⟩
  · exact lookups.trans (congrArg Nat.cast misses.symm)
  · rw [warned _ (by decide), warned _ (by decide), ← Int.natCast_add, Incident.length_warnings]
    exact lookups
  · congr 1
    apply List.countP_congr
    intro incident member
    have regular := World.kind?_of_mem_incidents member
    cases kind : incident.kind? with
    | none => simp
    | some kind' => cases kind' <;> simp_all
  · rw [warned _ (by decide), Incident.filter_warns_rejected]
  · rw [length_begun, length_finished]
  · rw [(Monitor.reading_observeAll _).1]
    have turn := inTurn_fresh host actions _ (List.take_prefix count now.notices)
    omega
  · exact (Monitor.withoutDiscards_observeAll .fresh now.notices).symm

end History

end AccessFeed
