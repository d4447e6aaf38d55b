import AccessFeed.Proofs.Course.Ending
import AccessFeed.Proofs.Course.Replica
import AccessFeed.Proofs.History.Known

/-! A consumer that keeps up with a watch ends up with what its subscriber sees.

As long as nobody disturbs the watch, a replica that takes in all events on their way, those sent
and those not yet sent, is at any time the set of the visible namespaces. -/
namespace AccessFeed

/-- Makes the relay of a watch end. -/
def Action.stops (id : WatchId) : Action → Bool
  | .stop other | .dropConsumer other => other == id
  | _ => false

/-- A relay that can go no further while its outbox is empty has nothing left to do. -/
theorem Watch.idle_of_step {watch : Watch} {fed : Bool} (h : watch.step fed = none)
    (active : watch.phase.isFinished = false) (outbox : watch.outbox = [])
    (room : 0 < watch.outboxLimit) : watch.phase = .live ∧ watch.intake = [] := by
  have waits := watch.isNone_step fed
  rw [h, outbox] at waits
  cases phase : watch.phase with
  | live => simp_all
  | finished exit => simp [phase, Phase.isFinished] at active
  | replaying rest => simp [phase] at waits
  | _ =>
    simp only [phase, Option.isNone_none, List.length_nil] at waits
    have full : watch.outboxLimit ≤ 0 := by simp_all
    omega

namespace Course

variable {course : Course} {move : Move}

/-- The relay of a watch that is fed, not stopped and in time with its events goes on. -/
theorem active_make (blame : (course.make move).Blame)
    (fits : (course.make move).rejected = []) (running : course.watch.isStopped = false)
    (fed : course.isFed = true) (stop : move ≠ .stop) (drop : move ≠ .drop) :
    (course.make move).watch.phase.isFinished = false := by
  cases phase : (course.make move).watch.phase with
  | finished exit =>
    simp only [Blame, phase] at blame
    cases exit with
    | stopped =>
      obtain stopped | rfl := (isStopped_make course move).mp blame
      · rw [running] at stopped
        cases stopped
      · exact absurd rfl stop
    | producerGone =>
      obtain unfed | rfl := (isFed_make course move).mp blame.2
      · rw [fed] at unfed
        cases unfed
      · exact absurd rfl drop
    | failed cause => simp [Course.blame, fits] at blame
  | _ => rfl

end Course

namespace History

variable {history : History} {id : WatchId} {course : Course} {action : Action}

theorem touch_ne_stop {world : World} (h : action.stops id = false) :
    world.touch id action ≠ .stop := by
  intro touch
  cases action with
  | stop other =>
    simp only [Action.stops, beq_eq_false_iff_ne] at h
    simp [World.touch, h] at touch
  | dropConsumer other =>
    simp only [Action.stops, beq_eq_false_iff_ne] at h
    simp [World.touch, h] at touch
  | _ =>
    simp only [World.touch] at touch
    repeat' split at touch
    all_goals cases touch

/-- Some party can hand the watch changes, and its relay goes on and was not asked to end. -/
structure Runs (history : History) (id : WatchId) (course : Course) : Prop where
  tracks : history.Tracks id course
  isFed_eq : (history.world.glimpse id).isFed = true
  active : course.watch.phase.isFinished = false
  running : course.watch.isStopped = false

/-- What an action means to a watch that is not stopped and in time leaves its relay going. -/
theorem Runs.active_touch (h : history.Runs id course) (blame : ∀ moves, (course.run moves).Blame)
    (calm : action.stops id = false)
    (fits : (course.run (history.world.touch id action).moves).rejected = []) :
    (course.run (history.world.touch id action).moves).watch.phase.isFinished = false ∧
      (course.run (history.world.touch id action).moves).watch.isStopped = false := by
  have unstopped := @touch_ne_stop id action history.world calm
  have fed : course.isFed = true := h.tracks.sight.isFed_eq ▸ h.isFed_eq
  have made (move : Move) (fits : (course.make move).rejected = []) (stop : move ≠ .stop)
      (drop : move ≠ .drop) : (course.make move).watch.phase.isFinished = false ∧
        (course.make move).watch.isStopped = false := by
    refine ⟨Course.active_make (blame [move]) fits h.running fed stop drop, ?_⟩
    rw [← Bool.not_eq_true, Course.isStopped_make, h.running]
    simp [stop]
  generalize history.world.touch id action = touch at unstopped fits ⊢
  cases touch with
  | handle lookup change => exact made (.handle lookup change) fits (by simp) (by simp)
  | poll => exact made (.poll _) fits (by simp) (by simp)
  | take => exact made .take fits (by simp) (by simp)
  | stop => exact absurd rfl unstopped
  | _ => exact ⟨h.active, h.running⟩

section Next

variable {next : Course} {drops : Nat}
  (made : next = course.run
    ((history.world.touch id action).moves ++ List.replicate drops Move.drop))
  (tracks : (history.next action).Tracks id next)
  (on : course.GoesOn ((history.world.glimpse id).effects (history.world.touch id action))
    ((history.world.glimpse id).delivered? (history.world.touch id action)).toList next)

include made tracks in
theorem rejected_touch (fits : (history.next action).rejected id = []) :
    (course.run (history.world.touch id action).moves).rejected = [] := by
  obtain ⟨notices, same, -⟩ :=
    Course.run_drops (course.run (history.world.touch id action).moves) drops
  rw [← Course.run_append, ← made] at notices same
  rw [Course.rejected, ← notices, ← same]
  exact tracks.rejected_eq.symm.trans fits

include made tracks on in
/-- A watch that is not stopped and in time goes on, and does not leave of its own. -/
theorem Runs.active_next (h : history.Runs id course) (blame : ∀ moves, (course.run moves).Blame)
    (departs : ∀ moves, (course.run moves).Departs) (calm : action.stops id = false)
    (fits : (history.next action).rejected id = []) :
    next.watch.phase.isFinished = false ∧ next.watch.isStopped = false ∧
      .leave ∉ (history.world.glimpse id).effects (history.world.touch id action) := by
  have moved := h.active_touch blame calm (rejected_touch made tracks fits)
  obtain ⟨-, -, phase, stopped⟩ :=
    Course.run_drops (course.run (history.world.touch id action).moves) drops
  rw [← Course.run_append, ← made] at phase stopped
  rw [← phase, ← stopped] at moved
  refine ⟨moved.1, moved.2, fun leaves => ?_⟩
  -- a watch leaves of its own only when its relay ends or an event is rejected
  have left : next.hasLeft = true := by simp [on.hasLeft_eq, leaves]
  have departed : next.Departs := made ▸ departs _
  have gone := departed.mp left
  simp [moved.1, tracks.rejected_eq.symm.trans fits] at gone

include tracks on in
/-- A watch that skipped no change could resolve the one that it was handed. -/
theorem unskipped_touch (h : history.Tracks id course) {lookup : Lookup} {change : AccessChange}
    (handed : history.world.touch id action = .handle lookup change)
    (found : (history.next action).skipped id = []) (cause : LookupError) :
    .note (.changeSkipped course.watch.id change.name cause) ∉
      (course.watch.handle lookup change).2 := by
  intro member
  have told : Notice.changeSkipped id change.name cause ∈ next.notices := by
    rw [on.notices_eq, handed, Glimpse.effects, h.sight.watch_eq, ← h.id_eq]
    exact List.mem_append_right _ (List.mem_filterMap.mpr ⟨_, member, rfl⟩)
  rw [skipped, tracks.filterMap_eq fun _ other => Notice.skipped?_of_ne other,
    List.filterMap_eq_nil_iff] at found
  simpa [Notice.skipped?] using found _ told

end Next

/-- Nobody has disturbed the watch, and all events on their way lead a replica to what is visible. -/
structure Mirrors (history : History) (id : WatchId) (replica : NameSet) (snapshot : List Event)
    (course : Course) : Prop where
  follows : history.Follows id course
  registered : history.world.host.registers id = true
  active : course.watch.phase.isFinished = false
  running : course.watch.isStopped = false
  mem_known_iff : ∀ name, name ∈ course.watch.known ↔
    history.world.host.sees course.watch.subscriber name = true
  absorbed : replica.absorbAll? (snapshot ++ course.accepted) = some course.watch.known

variable {replica : NameSet} {snapshot : List Event}

theorem Mirrors.runs (h : history.Mirrors id replica snapshot course) : history.Runs id course :=
  ⟨h.follows.tracks, Bool.or_eq_true_iff.mpr (.inr h.registered), h.active, h.running⟩

theorem resolves_of_sees {world : World} {watch : Watch} {name : String}
    (seen : ∀ name, name ∈ watch.known ↔ world.host.sees watch.subscriber name = true)
    (keeps : action ≠ .dropHost)
    (found : ∀ change, world.handed? action = some change →
      ∀ cause, .note (.changeSkipped watch.id change.name cause) ∉
        (watch.handle world.lookup change).2)
    (sees : (world.enact action).1.host.sees watch.subscriber name = true) :
    name ∈ watch.known ∨ Resolves world name action := by
  by_cases concerned : ∃ change, world.handed? action = some change ∧ change.name = name
  · obtain ⟨change, handed, rfl⟩ := concerned
    have granted : change.bearing watch.subscriber = .granted := by
      rw [World.bearing_of_handed handed, if_pos sees]
    obtain ⟨object, resolved⟩ := Watch.resolved_of_granted granted (found change handed)
    exact .inr ⟨change, object, handed, rfl, resolved⟩
  · refine .inl ((seen name).mpr ?_)
    rw [← sees]
    exact (World.sees_enact keeps fun change handed same => concerned ⟨change, handed, same⟩).symm

/-- What an action makes of a course whose watch overflows no intake. -/
theorem Mirrors.absorbed_next (h : history.Mirrors id replica snapshot course) {next : Course}
    {drops : Nat}
    (made : next = course.run
      ((history.world.touch id action).moves ++ List.replicate drops Move.drop))
    (fits : (course.run (history.world.touch id action).moves).rejected = []) :
    replica.absorbAll? (snapshot ++ next.accepted) = some next.watch.known := by
  obtain ⟨notices, same, -⟩ :=
    Course.run_drops (course.run (history.world.touch id action).moves) drops
  rw [← Course.run_append, ← made] at notices same
  have accepted : next.accepted =
      (course.run (history.world.touch id action).moves).accepted := by
    rw [Course.accepted, notices, same, Course.accepted]
  have known := known_next made h.follows h.registered
  rw [accepted]
  cases handed : history.world.handed? action with
  | some change =>
    rw [touch_of_handed h.registered handed] at fits ⊢
    rw [handed] at known
    obtain ⟨events, accepted, absorbed⟩ := Course.absorb_make_handle h.active fits
      fun object found => name_of_lookup h.follows.coherent found
    have split : (course.run (Touch.handle history.world.lookup change).moves).accepted =
      course.accepted ++ events := accepted
    rw [split, ← List.append_assoc, NameSet.absorbAll?_append, h.absorbed, Option.bind_some,
      absorbed, known]
    rfl
  | none =>
    rw [handed] at known
    have other := touch_ne_handle h.follows.isHandled_eq handed
    have kept : (course.run (history.world.touch id action).moves).accepted = course.accepted :=
      Course.run_moves_eq (·.accepted) (fun unhandled => Course.accepted_make unhandled) other
        course
    rw [kept, h.absorbed, known]

/-- An action that does not disturb the watch keeps the replica at what is visible. -/
theorem Mirrors.next (h : history.Mirrors id replica snapshot course)
    (blame : ∀ moves, (course.run moves).Blame) (departs : ∀ moves, (course.run moves).Departs)
    (kept : action.dismisses id = false) (calm : action.stops id = false)
    (fits : (history.next action).rejected id = [])
    (found : (history.next action).skipped id = []) :
    ∃ moves, (history.next action).Mirrors id replica snapshot (course.run moves) := by
  obtain ⟨drops, next, made, follows, on⟩ := h.follows.next action
  have moved := rejected_touch made follows.tracks fits
  have subscriber : next.watch.subscriber = course.watch.subscriber := by
    rw [made, Course.subscriber_run]
  obtain ⟨active, running, stays⟩ := h.runs.active_next made follows.tracks on blame departs calm fits
  have keeps : action ≠ .dropHost := by
    rintro rfl
    cases kept
  have unskipped (change : AccessChange) (handed : history.world.handed? action = some change) :=
    unskipped_touch follows.tracks on h.follows.tracks (touch_of_handed h.registered handed) found
  refine ⟨(history.world.touch id action).moves ++ List.replicate drops Move.drop, ?_⟩
  rw [← made]
  refine ⟨follows, (h.follows.registers_next action).mpr ⟨h.registered, kept, stays⟩, active,
    running, fun name => ?_, h.absorbed_next made moved⟩
  rw [mem_known_next made h.follows h.registered keeps
    fun name member => (h.mem_known_iff name).mp member, subscriber]
  constructor
  · exact fun known => known.1
  · exact fun sees => ⟨sees, resolves_of_sees h.mem_known_iff keeps unskipped sees⟩

section Subscribed

variable {world opened : World} {catalog : Catalog Unit} {subscriber : Subscriber}
  {includeExisting : Option Bool} {options : WatchOptions} {told : List Notice}

/-- The names that a consumer starts from: none if they are announced to it, else all that are
listed when the watch is opened. -/
def startingReplica (catalog : Catalog Unit) (subscriber : Subscriber)
    (includeExisting : Option Bool) (options : WatchOptions) : NameSet :=
  if includeExisting.getD options.includeExisting then ∅
  else .ofNames (catalog.visible subscriber)

theorem absorbed_start (coherent : world.Coherent) (host : world.host = .real catalog)
    (hopen : world.subscribe subscriber includeExisting options = (.ok id, opened, told))
    (resolved : told.filterMap Notice.leftOut? = []) :
    (startingReplica catalog subscriber includeExisting options).absorbAll?
        (world.initialEvents includeExisting options (catalog.visible subscriber)) =
      some (.ofNames (catalog.visible subscriber)) := by
  obtain ⟨-, -, -, before, after, rfl⟩ := World.subscribe_eq_ok host hopen
  simp only [List.filterMap_append, List.append_eq_nil_iff] at resolved
  unfold startingReplica World.initialEvents
  split
  · rename_i existing
    rw [World.replay, if_pos existing] at resolved
    have found := resolved_of_snapshot resolved.1.2
    refine absorbAll?_announcements (fun name member => ?_) (catalog.nodup_visible subscriber)
      (by simp)
    obtain ⟨object, held⟩ := found _ (List.mem_map_of_mem member)
    exact ⟨object, held, name_of_lookup coherent held⟩
  · rfl

theorem mirrors_start (coherent : world.Coherent) (host : world.host = .real catalog)
    (hopen : world.subscribe subscriber includeExisting options = (.ok id, opened, told))
    (resolved : told.filterMap Notice.leftOut? = []) :
    (start opened).Mirrors id (startingReplica catalog subscriber includeExisting options)
      (world.initialEvents includeExisting options (catalog.visible subscriber))
      (.start (world.subscription catalog subscriber includeExisting options)) := by
  refine ⟨follows_start coherent host hopen, registers_start host hopen, rfl, rfl, ?_, ?_⟩
  · exact World.mem_known_subscription host hopen
  · exact (congrArg _ (List.append_nil _)).trans (absorbed_start coherent host hopen resolved)

/-- Every course of the watch is sound. -/
theorem sound_subscription (moves : List Move) :
    ((Course.start (world.subscription catalog subscriber includeExisting options)).run moves).Sound
      (world.initialEvents includeExisting options (catalog.visible subscriber))
      options.bufferSize.toNat options.outputBufferSize.toNat := by
  rw [← World.map_replay]
  exact Course.sound_run ..

theorem blame_subscription (moves more : List Move) :
    (((Course.start (world.subscription catalog subscriber includeExisting options)).run moves).run
      more).Blame := by
  rw [← Course.run_append]
  exact (sound_subscription _).blame

theorem departs_subscription (moves more : List Move) :
    (((Course.start (world.subscription catalog subscriber includeExisting options)).run moves).run
      more).Departs := by
  rw [← Course.run_append]
  exact Course.departs_run rfl _

theorem mirrors_run (coherent : world.Coherent) (host : world.host = .real catalog)
    (hopen : world.subscribe subscriber includeExisting options = (.ok id, opened, told))
    (resolved : told.filterMap Notice.leftOut? = []) {later : List Action}
    (calm : ∀ action ∈ later, action.dismisses id = false ∧ action.stops id = false)
    (fits : ((start opened).run later).rejected id = [])
    (found : ((start opened).run later).skipped id = []) :
    ∃ moves, ((start opened).run later).Mirrors id
      (startingReplica catalog subscriber includeExisting options)
      (world.initialEvents includeExisting options (catalog.visible subscriber))
      ((Course.start (world.subscription catalog subscriber includeExisting options)).run
        moves) := by
  induction later using List.reverseRecOn with
  | nil => exact ⟨[], mirrors_start coherent host hopen resolved⟩
  | append_singleton later action ih =>
    rw [run_append] at fits found ⊢
    obtain ⟨moves, mirrors⟩ := ih
      (fun action member => calm action (List.mem_append_left _ member)) (rejected_of_run fits)
      (skipped_of_run found)
    obtain ⟨kept, calm⟩ := calm action (by simp)
    obtain ⟨more, mirrors⟩ := mirrors.next (blame_subscription moves) (departs_subscription moves)
      kept calm fits found
    exact ⟨moves ++ more, by rw [Course.run_append]; exact mirrors⟩

theorem outputBufferSize_pos (h : options.check = .ok ()) : 0 < options.outputBufferSize.toNat :=
  (WatchOptions.check_eq_ok_iff.mp h).2.1

/-- As long as a watch is neither stopped nor removed, overflows no intake and can resolve every
name, a replica that takes in the events that were sent, the one that is held, the rest of the
snapshot and the intake is the set of the names that are listed now, and no event on the way adds
what is there or touches what is not. This is also what the watch knows. So a consumer that has
received everything while the relay has nothing left to do agrees with the list. -/
theorem converges (reachable : world.Reachable) (host : world.host = .real catalog)
    (hopen : world.subscribe subscriber includeExisting options = (.ok id, opened, told))
    (resolved : told.filterMap Notice.leftOut? = []) {later : List Action}
    (calm : ∀ action ∈ later, action.dismisses id = false ∧ action.stops id = false)
    (fits : ((start opened).run later).rejected id = [])
    (found : ((start opened).run later).skipped id = []) :
    let now := (start opened).run later
    let replica := startingReplica catalog subscriber includeExisting options
    ∃ watch names, now.world.watches[id]? = some watch ∧
      now.world.host.list subscriber = .ok names ∧ watch.known = .ofNames names ∧
      replica.absorbAll? (now.received id ++ watch.outbox ++ watch.phase.held ++
        watch.phase.unsent.map .added ++ watch.intake) = some (.ofNames names) ∧
      (watch.step (now.world.feeds id) = none → watch.outbox = [] →
        replica.absorbAll? (now.received id) = some (.ofNames names)) := by
  intro now replica
  obtain ⟨moves, mirrors⟩ := mirrors_run reachable.coherent host hopen resolved calm fits found
  have possible := (World.subscribe_eq_ok host hopen).1
  have sound := @sound_subscription world catalog subscriber includeExisting options moves
  have same : ((Course.start (world.subscription catalog subscriber includeExisting options)).run
      moves).watch.subscriber = subscriber := Course.subscriber_run _ moves
  generalize (Course.start (world.subscription catalog subscriber includeExisting options)).run
    moves = course at mirrors sound same
  obtain ⟨names, listed, -, visible⟩ := list_of_registers mirrors.registered
  have known : course.watch.known = .ofNames names := by
    apply Std.ExtTreeSet.ext_mem
    intro name
    rw [mirrors.mem_known_iff, same, ← visible, NameSet.mem_ofNames]
  have carrying : course.watch.phase.isCarrying = true := by
    have blame := sound.blame
    have active := mirrors.active
    have none : course.blame = none := by
      rw [Course.blame, ← mirrors.follows.rejected_eq, fits]
      rfl
    cases phase : course.watch.phase with
    | sendingFailure cause => simp [Course.Blame, phase, none] at blame
    | finished exit => simp [phase, Phase.isFinished] at active
    | _ => rfl
  have conserved := sound.flow.conserved carrying
  have absorbed := mirrors.absorbed
  rw [conserved, known, Course.sent, ← mirrors.follows.received_eq] at absorbed
  refine ⟨course.watch, names, mirrors.follows.watch_eq, listed, known, absorbed, ?_⟩
  intro waits outbox
  have room : 0 < course.watch.outboxLimit :=
    sound.fits.outboxLimit_eq ▸ outputBufferSize_pos possible
  obtain ⟨live, intake⟩ := Watch.idle_of_step waits mirrors.active outbox room
  simpa [outbox, live, intake, Phase.held, Phase.unsent] using absorbed

theorem converges_replaced :
    let inOrder : Visiting := ⟨fun visits => visits, fun _ => .refl _⟩
    let visible : Access := ⟨.ofNames ["u"], ∅⟩
    let catalog : Catalog Unit := (Catalog.empty.mutate (.setAccess "a" visible)).1
    let world := ((start (.fresh (.real .empty))).run
      [.upsert (.active "a"), .perform inOrder (.setAccess "a" visible)]).world
    let result := world.subscribe ⟨"u", []⟩ (some true) ⟨4, 1, false⟩
    let later : List Action := [.upsert (.active "b"), .perform inOrder (.setAccess "b" visible),
      .poll 1, .take 1, .poll 1, .perform inOrder (.forget "a"), .take 1, .poll 1, .take 1]
    let now := (start result.2.1).run later
    world.Reachable ∧ world.host = .real catalog ∧ result.1 = .ok 1 ∧
      result.2.2.filterMap Notice.leftOut? = [] ∧
      (∀ action ∈ later, action.dismisses 1 = false ∧ action.stops 1 = false) ∧
      now.rejected 1 = [] ∧ now.skipped 1 = [] ∧
      (∅ : NameSet).absorbAll? (now.received 1) = some (.ofNames ["b"]) := by
  intro inOrder visible catalog world result later now
  have reachable : world.Reachable := ⟨_, rfl⟩
  have host : world.host = .real catalog := rfl
  have hopen : world.subscribe ⟨"u", []⟩ (some true) ⟨4, 1, false⟩ =
    (.ok 1, result.2.1, result.2.2) := rfl
  have resolved : result.2.2.filterMap Notice.leftOut? = [] := by decide
  have calm : ∀ action ∈ later, action.dismisses 1 = false ∧ action.stops 1 = false := by decide
  have fits : now.rejected 1 = [] := by decide
  have found : now.skipped 1 = [] := by decide
  have idle : (now.world.watches[1]?.map fun watch =>
      ((watch.step (now.world.feeds 1)).isNone, watch.outbox.isEmpty)) = some (true, true) := by
    decide
  have listed : now.world.host.list ⟨"u", []⟩ = .ok ["b"] := by decide
  refine ⟨reachable, host, rfl, resolved, calm, fits, found, ?_⟩
  obtain ⟨watch, names, held, names_eq, -, -, caught⟩ :=
    converges reachable host hopen resolved calm fits found
  obtain rfl : names = ["b"] := Except.ok.inj (names_eq.symm.trans listed)
  have held : now.world.watches[1]? = some watch := held
  rw [held, Option.map_some, Option.some.injEq, Prod.mk.injEq] at idle
  exact caught (Option.isNone_iff_eq_none.mp idle.1) (List.isEmpty_iff.mp idle.2)

end Subscribed

end History
end AccessFeed
