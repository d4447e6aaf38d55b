import AccessFeed.Proofs.Course.Stopping
import AccessFeed.Proofs.History.Origin
import AccessFeed.Proofs.Monitor

/-! What a stop does to a watch in the midst of everything else: nothing is sent any more, the next
turn ends the relay, the consumer gets what was sent, and further stops do nothing. -/
namespace AccessFeed

namespace Notice

theorem count_about {id : WatchId} {notice : Notice} (own : notice.watch? = some id)
    (notices : List Notice) : (about id notices).count notice = notices.count notice := by
  rw [List.count, about, List.countP_filter]
  apply List.countP_congr
  intro other _
  simp only [Bool.and_eq_true, beq_iff_eq, and_iff_left_iff_imp]
  rintro rfl
  exact own

/-- The record that tells of a stop tells of nothing else. -/
theorem record?_eq_stopped {id : WatchId} {notice : Notice} :
    notice.record? =
        some ⟨.debug, "project watch stopped", [("watcher_id", .count id)]⟩ ↔
      notice = .stopped id := by
  cases notice <;> simp [record?]

end Notice

namespace World

variable {world : World} {id : WatchId} {watch : Watch}

theorem stop_of_active (found : world.watches[id]? = some watch)
    (active : watch.phase.isFinished = false) (running : watch.isStopped = false) :
    world.stop id =
      (world.put id { watch with isStopped := true, isDue := true }, [.stopped watch.id]) := by
  simp [stop, act, found, Watch.stop, running, active, carryOut, Watch.wakeIf]

theorem enact_stop {action : Action} (found : world.watches[id]? = some watch)
    (active : watch.phase.isFinished = false) (running : watch.isStopped = false)
    (stop : action = .stop id ∨ action = .dropConsumer id ∧ world.consumers.contains id = true) :
    ∃ consumers, (world.enact action).1 = ({ world with consumers } : World).put id
      { watch with isStopped := true, isDue := true } := by
  obtain rfl | ⟨rfl, reads⟩ := stop
  · exact ⟨world.consumers, congrArg Prod.fst (stop_of_active found active running)⟩
  · refine ⟨world.consumers.erase id, ?_⟩
    have dropped := @stop_of_active { world with consumers := world.consumers.erase id } id watch
      found active running
    rw [enact, dropConsumer, if_pos reads, dropped]

theorem stop_of_isStopped (queued : world.Queued) (found : world.watches[id]? = some watch)
    (stopped : watch.isStopped = true) : world.stop id = (world, []) := by
  rw [stop, act, found]
  simp only [Watch.stop, stopped, if_true, carryOut, put_self queued found]

theorem dropConsumer_of_isStopped (queued : world.Queued)
    (found : world.watches[id]? = some watch) (stopped : watch.isStopped = true) :
    world.dropConsumer id = ({ world with consumers := world.consumers.erase id }, []) := by
  unfold dropConsumer
  split
  · exact @stop_of_isStopped { world with consumers := world.consumers.erase id } id watch queued
      found stopped
  · rename_i absent
    have same : world.consumers.erase id = world.consumers := by
      apply Std.ExtTreeSet.ext_mem
      intro other
      simp only [Std.ExtTreeSet.contains_iff_mem] at absent
      simp only [Std.ExtTreeSet.mem_erase, Std.LawfulEqCmp.compare_eq_iff_eq, ne_eq,
        and_iff_right_iff_imp]
      rintro member rfl
      exact absent member
    rw [same]

theorem touch_eq_poll_iff (world : World) (id : WatchId) (action : Action) :
    world.touch id action = .poll ↔ action = .poll id := by
  cases action <;> simp only [touch] <;> (repeat' split) <;> simp_all

end World

/-- What has no turn of the relay in it. -/
theorem Touch.moves_ne_poll {touch : Touch} (h : touch ≠ .poll) (drops : Nat) :
    ∀ move ∈ touch.moves ++ List.replicate drops Move.drop, ∀ limit, move ≠ .poll limit := by
  intro move member limit
  obtain member | member := List.mem_append.mp member
  · cases touch <;> simp_all [Touch.moves]
  · simp [List.eq_of_mem_replicate member]

namespace Course

/-- While the relay has no turn it stays in its phase and sends nothing. -/
theorem run_unpolled {moves : List Move} (h : ∀ move ∈ moves, ∀ limit, move ≠ .poll limit)
    (course : Course) :
    (course.run moves).watch.phase = course.watch.phase ∧
      (course.run moves).sent = course.sent ∧ (course.run moves).pushed = course.pushed := by
  induction moves generalizing course with
  | nil => exact ⟨rfl, rfl, rfl⟩
  | cons move moves ih =>
    obtain ⟨first, others⟩ := List.forall_mem_cons.mp h
    obtain ⟨phase, sent, pushed⟩ := ih others (course.make move)
    obtain ⟨sent', pushed'⟩ := sent_make first course
    exact ⟨phase.trans (phase_make first course), sent.trans sent', pushed.trans pushed'⟩

end Course

namespace History

variable {history : History} {id : WatchId} {course : Course}

/-- The events that a watch told to have passed on to its consumer, oldest first. -/
def pushed (history : History) (id : WatchId) : List Event :=
  history.notices.filterMap (Notice.pushed? id)

theorem Tracks.pushed_eq (h : history.Tracks id course) : history.pushed id = course.pushed := by
  rw [pushed, h.filterMap_eq fun _ other => Notice.pushed?_of_ne other, Course.pushed, h.id_eq]

theorem Tracks.sent_eq (h : history.Tracks id course) :
    history.received id ++ course.watch.outbox = course.sent := by
  rw [h.received_eq, Course.sent]

/-- A watch that was asked to end in the given phase, when what it had sent was as given. -/
structure Halts (history : History) (id : WatchId) (phase : Phase) (sent pushed : List Event)
    (polled : Prop) (course : Course) : Prop where
  tracks : history.Tracks id course
  isStopped : course.watch.isStopped = true
  phase_of_polled : polled → course.watch.phase = .finished .stopped
  phase_of_not : ¬ polled → course.watch.phase = phase
  sent_eq : course.sent = sent
  pushed_eq : course.pushed = pushed

variable {phase : Phase} {sent pushed : List Event} {polled : Prop}

theorem Halts.next (h : history.Halts id phase sent pushed polled course)
    (active : phase.isFinished = false) (action : Action) :
    ∃ next, (history.next action).Halts id phase sent pushed (polled ∨ action = .poll id) next := by
  obtain ⟨drops, _, rfl, tracks, -⟩ := h.tracks.next action
  obtain ⟨kept, told⟩ := Course.sent_run_of_isStopped h.isStopped
    ((history.world.touch id action).moves ++ List.replicate drops Move.drop)
  refine ⟨_, tracks, (Course.isStopped_run _ _).mpr (.inl h.isStopped), ?_, ?_,
    kept.trans h.sent_eq, told.trans h.pushed_eq⟩
  · intro polled'
    by_cases before : polled
    · exact Course.phase_run_of_finished (h.phase_of_polled before) _
    · obtain rfl := polled'.resolve_left before
      have turn : history.world.touch id (.poll id) = .poll := (World.touch_eq_poll_iff ..).mpr rfl
      have ended := @Watch.phase_poll_of_isStopped course.watch course.isFed h.isStopped
        (by rw [h.phase_of_not before, active]) World.turnLimit (by decide)
      rw [turn, Course.run_append]
      exact @Course.phase_run_of_finished (course.make (.poll World.turnLimit)) _ ended _
  · intro unpolled
    obtain ⟨before, other⟩ := not_or.mp unpolled
    have still : history.world.touch id action ≠ .poll := mt (World.touch_eq_poll_iff ..).mp other
    exact (Course.run_unpolled (Touch.moves_ne_poll still drops) course).1.trans
      (h.phase_of_not before)

theorem Halts.run (h : history.Halts id phase sent pushed polled course)
    (active : phase.isFinished = false) (later : List Action) :
    ∃ next, (history.run later).Halts id phase sent pushed (polled ∨ .poll id ∈ later) next := by
  induction later generalizing history course polled with
  | nil => exact ⟨course, by simpa using h⟩
  | cons action later ih =>
    obtain ⟨next, h⟩ := h.next active action
    obtain ⟨last, h⟩ := ih h
    refine ⟨last, ?_⟩
    rw [run_cons]
    simpa only [List.mem_cons, or_assoc, @eq_comm _ (Action.poll id)] using h

/-- A stop makes a watch that was not asked to end before one that was. -/
theorem halts_stop (h : history.Tracks id course) {action : Action}
    (stop : history.world.touch id action = .stop) :
    ∃ next, (history.next action).Halts id course.watch.phase course.sent course.pushed False
      next := by
  obtain ⟨drops, _, rfl, tracks, -⟩ := h.next action
  have unpolled := @Touch.moves_ne_poll (history.world.touch id action) (by rw [stop]; simp) drops
  obtain ⟨phase, sent, pushed⟩ := Course.run_unpolled unpolled course
  refine ⟨_, tracks, ?_, False.elim, fun _ => phase, sent, pushed⟩
  exact (Course.isStopped_run _ _).mpr (.inr (by simp [stop, Touch.moves]))

/-- How often a watch told that it was asked to end, whatever has happened. -/
theorem stops_origin {actions : List Action} {watch : Watch}
    (found : (origin.run actions).world.watches[id]? = some watch) :
    (origin.run actions).notices.count (.stopped id) = if watch.isStopped then 1 else 0 := by
  obtain ⟨subscriber, options, known, snapshot, moves, tracks⟩ := exists_course found
  obtain rfl := Option.some.inj (tracks.watch_eq.symm.trans found)
  have once :=
    @Course.stopsOnce_run (.start (.start id subscriber options known snapshot)) rfl moves
  rw [← Notice.count_about rfl, tracks.about_eq, Notice.count_about rfl, ← once, Course.stops,
    tracks.id_eq]

/-- A consumer that keeps reading gets everything that waits for it. -/
theorem Tracks.received_takes (h : history.Tracks id course)
    (reads : history.world.consumers.contains id = true) {count : Nat}
    (enough : course.watch.outbox.length ≤ count) :
    (history.run (List.replicate count (.take id))).received id =
      history.received id ++ course.watch.outbox := by
  induction count generalizing history course with
  | zero =>
    have none : course.watch.outbox = [] := List.length_eq_zero_iff.mp (Nat.le_zero.mp enough)
    rw [none, List.append_nil]
    rfl
  | succ count ih =>
    obtain ⟨drops, _, rfl, tracks, on⟩ := h.next (.take id)
    have touch : history.world.touch id (.take id) = .take := by simp [World.touch, reads]
    have unpolled := @Touch.moves_ne_poll (history.world.touch id (.take id))
      (by rw [touch]; simp) drops
    obtain ⟨-, sent, -⟩ := Course.run_unpolled unpolled course
    have still : (history.next (.take id)).world.consumers.contains id = true := by
      have same : (history.world.take id).2.consumers = history.world.consumers := by
        unfold World.take
        split <;> rfl
      have enacted : (history.next (.take id)).world = (history.world.take id).2 := by
        rw [History.next, World.enact, if_pos reads]
      rw [enacted, same]
      exact reads
    have got := on.received_eq
    generalize course.run _ = last at sent tracks got
    have fewer : last.watch.outbox.length ≤ count := by
      have lengths := congrArg List.length sent
      rw [touch, Glimpse.delivered?, h.sight.watch_eq] at got
      simp only [Course.sent, got, List.length_append] at lengths
      cases outbox : course.watch.outbox with
      | nil => simp_all
      | cons event rest =>
        simp_all
        omega
    rw [List.replicate_succ, run_cons, ih tracks still fewer, tracks.sent_eq, sent, h.sent_eq]

/-- A stop at any point before the relay of a watch has ended, by whoever may ask for it. -/
theorem stop_final {earlier : List Action} {watch : Watch} {action : Action}
    (found : (origin.run earlier).world.watches[id]? = some watch)
    (active : watch.phase.isFinished = false) (running : watch.isStopped = false)
    (stop : action = .stop id ∨
      action = .dropConsumer id ∧ (origin.run earlier).world.consumers.contains id = true)
    (later : List Action) :
    let before := origin.run earlier
    let stopped := before.next action
    let now := stopped.run later
    let record : LogRecord := ⟨.debug, "project watch stopped", [("watcher_id", .count id)]⟩
    (stopped.world.watches[id]? = some { watch with isStopped := true, isDue := true } ∧
      stopped.world.host = before.world.host ∧
      ∀ other, other ≠ id → stopped.world.watches[other]? = before.world.watches[other]?) ∧
    ∃ last, now.world.watches[id]? = some last ∧
      now.pushed id = before.pushed id ∧
      now.received id ++ last.outbox = before.received id ++ watch.outbox ∧
      (.poll id ∈ later → last.phase = .finished .stopped) ∧
      (.poll id ∉ later → last.phase = watch.phase) ∧
      (now.world.consumers.contains id = true → ∀ count, last.outbox.length ≤ count →
        let drained := now.run (List.replicate count (.take id))
        drained.received id = before.received id ++ watch.outbox ∧
        (.poll id ∈ later → (drained.world.take id).1 = .closed) ∧
        (.poll id ∉ later → (drained.world.take id).1 = .pending)) ∧
      now.world.stop id = (now.world, []) ∧
      now.world.dropConsumer id =
        ({ now.world with consumers := now.world.consumers.erase id }, []) ∧
      (Monitor.fresh.observeAll now.notices).journal.count record = 1 := by
  intro before stopped now record
  obtain ⟨subscriber, options, known, snapshot, moves, tracks⟩ := exists_course found
  generalize (Course.start (.start id subscriber options known snapshot)).run moves = course
    at tracks
  obtain rfl := Option.some.inj (tracks.watch_eq.symm.trans found)
  have touch : before.world.touch id action = .stop := by
    obtain rfl | ⟨rfl, reads⟩ := stop
    · simp [World.touch]
    · simp [World.touch, reads, before]
  obtain ⟨first, halts⟩ := halts_stop tracks touch
  obtain ⟨last, halts⟩ := halts.run active later
  rw [false_or] at halts
  have held := halts.tracks.watch_eq
  have actions : now = origin.run (earlier ++ action :: later) := by simp [now, stopped, before]
  have queued : now.world.Queued := actions ▸ queued_origin _
  have sent : now.received id ++ last.watch.outbox = before.received id ++ course.watch.outbox := by
    rw [halts.tracks.sent_eq, halts.sent_eq, tracks.sent_eq]
  refine ⟨?_, last.watch, held, ?_, sent, halts.phase_of_polled, halts.phase_of_not, ?_,
    World.stop_of_isStopped queued held halts.isStopped,
    World.dropConsumer_of_isStopped queued held halts.isStopped, ?_⟩
  · obtain ⟨consumers, put⟩ := World.enact_stop found active running stop
    have put : stopped.world = _ := put
    rw [put]
    refine ⟨by simp [World.put], rfl, fun other ne => ?_⟩
    exact congrArg Glimpse.watch? (World.glimpse_put_of_ne (Ne.symm ne) _ _)
  · rw [halts.tracks.pushed_eq, halts.pushed_eq, tracks.pushed_eq]
  · intro reads count enough drained
    have got : drained.received id = before.received id ++ course.watch.outbox :=
      (halts.tracks.received_takes reads enough).trans sent
    obtain ⟨final, ended⟩ := halts.run active (List.replicate count (.take id))
    have rest : final.watch.outbox = [] := by
      have all : drained.received id ++ final.watch.outbox = final.sent := ended.tracks.sent_eq
      rw [ended.sent_eq, ← tracks.sent_eq, ← got] at all
      simpa using all
    have took : (drained.world.take id).1 =
        if final.watch.phase.isFinished then .closed else .pending := by
      have found : drained.world.watches[id]? = some final.watch := ended.tracks.watch_eq
      simp [World.take, found, Watch.take, rest]
    refine ⟨got, fun polled => ?_, fun unpolled => ?_⟩
    · rw [took, ended.phase_of_polled (.inl polled)]
      rfl
    · have still : ¬ (.poll id ∈ later ∨ .poll id ∈ List.replicate count (Action.take id)) := by
        simp [unpolled]
      rw [took, ended.phase_of_not still, active]
      rfl
  · have once : now.notices.count (.stopped id) = 1 := by
      have found : (origin.run (earlier ++ action :: later)).world.watches[id]? = some last.watch :=
        actions ▸ held
      rw [actions, stops_origin found, if_pos halts.isStopped]
    have unlike : ∀ depth, Notice.depthRecord depth ≠ record := by
      simp [Notice.depthRecord, record]
    have fresh : Monitor.fresh.journal.count record = 0 := rfl
    rw [Monitor.count_journal_observeAll unlike, fresh, Nat.zero_add, ← once, List.count]
    apply List.countP_congr
    intro notice _
    rw [beq_iff_eq, beq_iff_eq, Notice.record?_eq_stopped]

theorem stop_final_blocked :
    let inOrder : Visiting := ⟨fun visits => visits, fun _ => .refl _⟩
    let visible : Access := ⟨.ofNames ["u"], ∅⟩
    let grant (name : String) : Action := .perform inOrder (.setAccess name visible)
    let earlier : List Action := [.upsert (.active "a"), .upsert (.active "b"),
      .subscribe ⟨"u", []⟩ none ⟨1, 1, false⟩, grant "a", .poll 1, grant "b", .poll 1, grant "a",
      grant "b"]
    let before := origin.run earlier
    let later : List Action := [.take 1, .poll 1, .dropConsumer 1, .stop 1]
    let now := (before.next (.stop 1)).run later
    let project := (Namespace.active "b").project
    let record : LogRecord := ⟨.debug, "project watch stopped", [("watcher_id", .count 1)]⟩
    (before.world.watches[1]?.map fun watch => (watch.phase, watch.fault.isSome, watch.isStopped)) =
        some (.sendingLive (.added project), true, false) ∧
      (∃ last, now.world.watches[1]? = some last ∧ last.phase = .finished .stopped) ∧
      (now.pushed 1).map (·.kind) = [.added] ∧
      (Monitor.fresh.observeAll now.notices).journal.count record = 1 := by
  intro inOrder visible grant earlier before later now project record
  have state : (before.world.watches[1]?.map fun watch =>
      (watch.phase, watch.fault.isSome, watch.isStopped)) =
        some (.sendingLive (.added project), true, false) := by decide
  refine ⟨state, ?_⟩
  obtain ⟨watch, found, same⟩ := Option.map_eq_some_iff.mp state
  simp only [Prod.mk.injEq] at same
  obtain ⟨phase, -, running⟩ := same
  have active : watch.phase.isFinished = false := by rw [phase]; rfl
  obtain ⟨-, last, held, pushed, -, polled, -, -, -, -, once⟩ :=
    stop_final found active running (.inl rfl) later
  refine ⟨⟨last, held, polled (by simp [later])⟩, ?_, once⟩
  have same : now.pushed 1 = before.pushed 1 := pushed
  rw [same]
  decide

end History
end AccessFeed
