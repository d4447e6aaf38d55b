import AccessFeed.Proofs.Course.Departure
import AccessFeed.Proofs.Course.Replica
import AccessFeed.Proofs.History.Known
import AccessFeed.Proofs.History.Origin

/-! How long a watch is registered.

`History.registered_iff` says that a watch is in the registry from its subscription until its relay
ends, an event of it meets a full intake, or somebody takes it out, and never again. -/
namespace AccessFeed

namespace Notice

theorem accepted?_of_ne {id : WatchId} {notice : Notice} (h : notice.watch? ≠ some id) :
    notice.accepted? id = none := by
  cases notice <;> simp_all [accepted?, watch?]

end Notice

namespace Course

variable {course : Course} {move : Move}

/-- What was accepted in time is told by the notices of the watch alone. -/
theorem timelyEvents_about (id : WatchId) (notices : List Notice) :
    timelyEvents id (Notice.about id notices) = timelyEvents id notices := by
  induction notices with
  | nil => rfl
  | cons notice rest ih =>
    by_cases own : notice.watch? = some id
    · have kept : Notice.about id (notice :: rest) = notice :: Notice.about id rest := by
        simp [Notice.about, own]
      rw [kept]
      unfold timelyEvents at ih ⊢
      simp only [List.takeWhile_cons]
      split
      · rw [List.filterMap_cons, List.filterMap_cons, ih]
      · rfl
    · have dropped : Notice.about id (notice :: rest) = Notice.about id rest := by
        simp [Notice.about, own]
      rw [dropped, ih]
      unfold timelyEvents
      rw [List.takeWhile_cons_of_pos (by simp [Notice.rejected?_of_ne own]),
        List.filterMap_cons_none (Notice.accepted?_of_ne own)]

/-- As long as nothing was rejected, everything was accepted in time. -/
theorem timely_of_rejected (h : course.rejected = []) : course.timely = course.accepted := by
  rw [timely, timelyEvents, takeWhile_eq_self_of_rejected h, accepted]

/-- An event that a watch hands to its relay is rejected, or nothing is. -/
theorem rejected_arrive {event : Event} {next : Watch} {effects : List Effect}
    (arrival : course.watch.Arrival event next effects) :
    (course.advance (next, effects)).rejected = course.rejected ∨
      (course.advance (next, effects)).accepted = course.accepted ∧
        (course.advance (next, effects)).rejected = course.rejected ++ [event] := by
  cases arrival with
  | discard | accept => exact .inl (by simp [rejected_advance, Notice.rejected?])
  | fail | failAgain =>
    refine .inr ⟨?_, ?_⟩
    · simp [accepted_advance, Notice.accepted?]
    · simp [rejected_advance, Notice.rejected?]

theorem rejected_handle (course : Course) (lookup : Lookup) (change : AccessChange) :
    (course.make (.handle lookup change)).rejected = course.rejected ∨
      (course.make (.handle lookup change)).accepted = course.accepted ∧
        ∃ event, (course.make (.handle lookup change)).rejected = course.rejected ++ [event] := by
  have handling := course.watch.handling_handle lookup change
  simp only [make]
  generalize course.watch.handle lookup change = result at handling ⊢
  obtain ⟨next, effects⟩ := result
  dsimp only at handling
  cases handling with
  | ignore => exact .inl (by rw [advance_nil])
  | skip => exact .inl (by simp [rejected_advance, Notice.rejected?])
  | revoke revoked known arrival =>
    obtain none | ⟨accepted, rejected⟩ := @rejected_arrive
      { course with watch := { course.watch with known := course.watch.known.erase change.name } }
      _ _ _ arrival
    · exact .inl none
    · exact .inr ⟨accepted, _, rejected⟩
  | @grant object granted resolved _ effects arrival =>
    let informed : Course := { course with
      watch := { course.watch with known := course.watch.known.insert change.name }
      notices := course.notices ++ [.asked change.name true] }
    have same : informed.advance (next, effects) =
        course.advance (next, .note (.asked change.name true) :: effects) := by
      simp [informed, advance]
    have accepted : informed.accepted = course.accepted := by
      simp [informed, Course.accepted, Notice.accepted?]
    have rejected : informed.rejected = course.rejected := by
      simp [informed, Course.rejected, Notice.rejected?]
    have arrived := @rejected_arrive informed _ next effects arrival
    rw [same, accepted, rejected] at arrived
    obtain same | ⟨accepted, rejected⟩ := arrived
    · exact .inl same
    · exact .inr ⟨accepted, _, rejected⟩

/-- Only a change that is handed to a watch makes its intake reject an event. -/
theorem rejected_make (h : ∀ lookup change, move ≠ .handle lookup change) (course : Course) :
    (course.make move).rejected = course.rejected := by
  refine make_eq (·.rejected) ?_ course
  intro before after change
  cases change with
  | aside known begun isDue heedsIntake heedsFault told asides =>
    have none := Notice.filterMap_rejected_of_isAside asides before.watch.id
    simp [rejected, none]
  | arrive kind regular arrival => exact absurd kind (h _ _)
  | relay kind advance => exact rejected_relay advance
  | _ => rfl

theorem timely_make (h : ∀ lookup change, move ≠ .handle lookup change) (course : Course) :
    (course.make move).timely = course.timely := by
  refine make_eq (·.timely) ?_ course
  intro before after change
  cases change with
  | aside known begun isDue heedsIntake heedsFault told asides =>
    exact timelyEvents_append_of_accepted
      (Notice.filterMap_accepted_of_isAside asides before.watch.id) _
  | arrive kind regular arrival => exact absurd kind (h _ _)
  | relay kind advance => exact timely_relay advance
  | _ => rfl

/-- The first event that is rejected comes after all that were accepted. -/
theorem timely_handle (h : course.rejected = []) (lookup : Lookup) (change : AccessChange) :
    (course.make (.handle lookup change)).timely =
      (course.make (.handle lookup change)).accepted := by
  obtain none | ⟨accepted, -⟩ := rejected_handle course lookup change
  · exact timely_of_rejected (none.trans h)
  · have id := World.id_handle course.watch lookup change
    rw [make, accepted_advance id, List.append_right_eq_self] at accepted
    rw [make, accepted_advance id, accepted, List.append_nil, ← timely_of_rejected h, timely,
      watch_advance, id]
    exact timelyEvents_append_of_accepted accepted _

/-- No event was accepted after one was rejected, and at most one was rejected. -/
structure OverflowsOnce (course : Course) : Prop where
  rejected_le : course.rejected.length ≤ 1
  timely_eq : course.timely = course.accepted

theorem OverflowsOnce.run_moves (h : course.OverflowsOnce) {touch : Touch}
    (fits : ∀ lookup change, touch = .handle lookup change → course.rejected = []) :
    (course.run touch.moves).OverflowsOnce := by
  by_cases handled : ∃ lookup change, touch = .handle lookup change
  · obtain ⟨lookup, change, rfl⟩ := handled
    have fits := fits lookup change rfl
    refine ⟨?_, timely_handle fits lookup change⟩
    obtain same | ⟨-, event, rejected⟩ := rejected_handle course lookup change
    · exact (congrArg List.length (same.trans fits)).trans_le (Nat.zero_le 1)
    · rw [fits] at rejected
      exact (congrArg List.length rejected).le
  · have unhandled (lookup : Lookup) (change : AccessChange) : touch ≠ .handle lookup change :=
      fun same => handled ⟨lookup, change, same⟩
    refine ⟨?_, ?_⟩
    · rw [run_moves_eq (·.rejected) rejected_make unhandled]
      exact h.rejected_le
    · rw [run_moves_eq (·.timely) timely_make unhandled,
        run_moves_eq (·.accepted) accepted_make unhandled]
      exact h.timely_eq

theorem OverflowsOnce.congr {next : Course} (h : course.OverflowsOnce)
    (notices : next.notices = course.notices) (id : next.watch.id = course.watch.id) :
    next.OverflowsOnce := by
  refine ⟨?_, ?_⟩
  · rw [rejected, notices, id]
    exact h.rejected_le
  · rw [timely, accepted, notices, id]
    exact h.timely_eq

end Course

namespace World

variable {world : World} {id : WatchId}

/-- The watches that a mutation hands its change to, in the order of the visits. -/
def handedTo (world : World) (visiting : Visiting) (mutation : Mutation) : List WatchId :=
  match world.host with
  | .real catalog => (catalog.perform world.react visiting.arrange mutation).results.map Prod.fst
  | _ => []

/-- A change is handed to the registered watches. -/
theorem mem_handedTo_iff (visiting : Visiting) (mutation : Mutation) :
    id ∈ world.handedTo visiting mutation ↔
      world.host.registers id = true ∧ (world.change? mutation).isSome = true := by
  unfold handedTo change?
  cases host : world.host with
  | real catalog =>
    have registers := Catalog.registers_mutate catalog mutation id
    have visits := @Catalog.visits_of_perm (catalog.mutate mutation).1 _ (visiting.perm _) id
    simp only [Catalog.perform, Host.registers]
    rw [registers] at visits
    generalize catalog.mutate mutation = mutated at visits ⊢
    obtain ⟨after, _ | change⟩ := mutated
    · simp
    · simp only [Catalog.dispatch, results_notify, List.map_map, List.mem_map, Function.comp_apply]
      have found : (∃ visit ∈ visiting.arrange after.watchers.toList, visit.1 = id) ↔
          (visiting.arrange after.watchers.toList).filter (·.1 == id) ≠ [] := by
        simp [List.filter_eq_nil_iff]
      rw [found, visits]
      cases catalog.registers id <;> simp
  | _ => simp [Host.registers]

end World

namespace History

variable {history : History} {id : WatchId} {course : Course}

/-- The events of a watch that its intake accepted, oldest first. -/
def accepted (history : History) (id : WatchId) : List Event :=
  history.notices.filterMap (Notice.accepted? id)

theorem Tracks.accepted_eq (h : history.Tracks id course) :
    history.accepted id = course.accepted := by
  rw [accepted, h.filterMap_eq fun _ other => Notice.accepted?_of_ne other, Course.accepted,
    h.id_eq]

theorem Tracks.timelyEvents_eq (h : history.Tracks id course) :
    Course.timelyEvents id history.notices = course.timely := by
  rw [← Course.timelyEvents_about, h.about_eq, Course.timelyEvents_about, Course.timely, h.id_eq]

theorem registers_of_touch {world : World} {action : Action} {lookup : Lookup}
    {change : AccessChange} (unhandled : (world.glimpse id).isHandled = false)
    (h : world.touch id action = .handle lookup change) : world.host.registers id = true := by
  obtain ⟨registered, -⟩ | ⟨handled, -⟩ := cases_of_touch_handle h
  · exact registered
  · rw [unhandled] at handled
    cases handled

/-- A watch is registered until somebody dismisses it or it leaves of its own, which it does when
its relay ends or an event is rejected. -/
structure Enrols (history : History) (id : WatchId) (kept : Prop) (course : Course) : Prop where
  follows : history.Follows id course
  registers_iff : history.world.host.registers id = true ↔ kept ∧ course.hasLeft = false
  departs : course.Departs
  once : course.OverflowsOnce

variable {kept : Prop}

theorem Enrols.registers_iff_active (h : history.Enrols id kept course) :
    history.world.host.registers id = true ↔
      kept ∧ course.watch.phase.isFinished = false ∧ course.rejected = [] := by
  have left : course.hasLeft = true ↔ _ := h.departs
  rw [h.registers_iff, ← Bool.not_eq_true, left, not_or, Bool.not_eq_true, Classical.not_not]

theorem Enrols.next (h : history.Enrols id kept course) (action : Action) :
    ∃ moves, (history.next action).Enrols id (kept ∧ action.dismisses id = false)
      (course.run moves) := by
  obtain ⟨drops, _, rfl, follows, on⟩ := h.follows.next action
  refine ⟨_, follows, ?_, Course.run_induction Course.Departs.change h.departs _, ?_⟩
  · rw [h.follows.registers_next action, h.registers_iff, on.hasLeft_eq]
    simp only [Bool.or_eq_false_iff, decide_eq_false_iff_not]
    constructor
    · rintro ⟨⟨kept, stays⟩, free, leaves⟩
      exact ⟨⟨kept, free⟩, stays, leaves⟩
    · rintro ⟨⟨kept, free⟩, stays, leaves⟩
      exact ⟨⟨kept, stays⟩, free, leaves⟩
  · rw [Course.run_append]
    have fits (lookup : Lookup) (change : AccessChange)
        (touch : history.world.touch id action = .handle lookup change) : course.rejected = [] :=
      (h.registers_iff_active.mp (registers_of_touch h.follows.isHandled_eq touch)).2.2
    have moved := h.once.run_moves fits
    obtain ⟨notices, same, -⟩ :=
      Course.run_drops (course.run (history.world.touch id action).moves) drops
    exact moved.congr notices same

/-- A watch that is not registered never is again, and nothing is handed to it. -/
theorem Follows.unregistered (h : history.Follows id course)
    (gone : history.world.host.registers id = false) (more : List Action) :
    ∃ next, (history.run more).Follows id next ∧
      (history.run more).world.host.registers id = false ∧
      next.watch.known = course.watch.known ∧ next.accepted = course.accepted ∧
      next.rejected = course.rejected := by
  induction more generalizing history course with
  | nil => exact ⟨course, h, gone, rfl, rfl, rfl⟩
  | cons action more ih =>
    obtain ⟨drops, _, rfl, follows, -⟩ := h.next action
    have still : (history.next action).world.host.registers id = false := by
      rw [← Bool.not_eq_true, h.registers_next action, gone]
      simp
    have unhandled (lookup : Lookup) (change : AccessChange) :
        history.world.touch id action ≠ .handle lookup change := by
      intro touch
      have registered := registers_of_touch h.isHandled_eq touch
      rw [gone] at registered
      cases registered
    have dropped := Course.run_drops (course.run (history.world.touch id action).moves) drops
    obtain ⟨next, follows, gone, known, accepted, rejected⟩ := ih follows still
    rw [Course.run_append] at known accepted rejected
    refine ⟨next, follows, gone, ?_, ?_, ?_⟩
    · rw [known, known_drops, Course.run_moves_eq (·.watch.known) Course.known_make unhandled]
    · rw [accepted, Course.accepted, dropped.1, dropped.2.1, ← Course.accepted,
        Course.run_moves_eq (·.accepted) Course.accepted_make unhandled]
    · rw [rejected, Course.rejected, dropped.1, dropped.2.1, ← Course.rejected,
        Course.run_moves_eq (·.rejected) Course.rejected_make unhandled]

section Subscribed

variable {earlier : List Action} {catalog : Catalog Unit} {subscriber : Subscriber}
  {includeExisting : Option Bool} {options : WatchOptions} {opened : World} {told : List Notice}

theorem enrols_subscribed (host : (origin.run earlier).world.host = .real catalog)
    (hopen : (origin.run earlier).world.subscribe subscriber includeExisting options =
      (.ok id, opened, told)) :
    ((origin.run earlier).next (.subscribe subscriber includeExisting options)).Enrols id True
      (.start ((origin.run earlier).world.subscription catalog subscriber includeExisting
        options)) := by
  have same : ((origin.run earlier).next (.subscribe subscriber includeExisting options)).world =
      opened := by
    rw [next, World.enact, hopen]
  have glimpse := World.glimpse_subscribed host hopen
  obtain ⟨-, rfl, -⟩ := World.subscribe_eq_ok host hopen
  have fresh := unopened_origin (Nat.le_refl (origin.run earlier).world.nextId)
  have tracks : ((origin.run earlier).next
      (.subscribe subscriber includeExisting options)).Tracks (origin.run earlier).world.nextId
      (.start ((origin.run earlier).world.subscription catalog subscriber includeExisting
        options)) := by
    refine fresh.tracks (coherent_origin earlier) ?_ rfl rfl
    rw [same, glimpse]
    exact ⟨rfl, rfl⟩
  refine ⟨⟨tracks.sight, ?_, tracks.about_eq, tracks.received_eq, tracks.coherent⟩, ?_, ?_, ?_⟩
  · rw [same, glimpse]
  · have registered : opened.host.registers (origin.run earlier).world.nextId = true :=
      congrArg Glimpse.isRegistered glimpse
    rw [same]
    simp [registered, Course.start]
  · exact Course.departs_run rfl []
  · exact ⟨Nat.zero_le 1, rfl⟩

theorem enrols_run (host : (origin.run earlier).world.host = .real catalog)
    (hopen : (origin.run earlier).world.subscribe subscriber includeExisting options =
      (.ok id, opened, told)) (later : List Action) :
    ∃ course, (((origin.run earlier).next
        (.subscribe subscriber includeExisting options)).run later).Enrols id
      (∀ action ∈ later, action.dismisses id = false) course := by
  induction later using List.reverseRecOn with
  | nil => exact ⟨_, by simpa using enrols_subscribed host hopen⟩
  | append_singleton later action ih =>
    obtain ⟨course, enrols⟩ := ih
    obtain ⟨moves, enrols⟩ := enrols.next action
    rw [run_append, run_cons, run_nil]
    refine ⟨course.run moves, ?_⟩
    simpa only [List.forall_mem_append, List.forall_mem_singleton] using enrols

/-- From a subscription on, a watch is in the registry exactly as long as its relay has not ended,
no event of it met a full intake, and it was not taken out; before, and if the subscription fails,
it is not. Once it is out it never comes back, and no change is handed to it, so it knows, accepts
and rejects what it did. At most one event is ever rejected, and none is accepted after it. -/
theorem registered_iff {earlier : List Action} {catalog : Catalog Unit}
    (host : (origin.run earlier).world.host = .real catalog) (subscriber : Subscriber)
    (includeExisting : Option Bool) (options : WatchOptions) (later : List Action) :
    let before := origin.run earlier
    let opened := before.next (.subscribe subscriber includeExisting options)
    let now := opened.run later
    match (before.world.subscribe subscriber includeExisting options).1 with
    | .error _ => opened.world = before.world
    | .ok id =>
      (∀ past, past <+: earlier → (origin.run past).world.host.registers id = false) ∧
      ∃ watch, now.world.watches[id]? = some watch ∧
        (now.world.host.registers id = true ↔
          watch.phase.isFinished = false ∧ now.rejected id = [] ∧
            ∀ action ∈ later, action.dismisses id = false) ∧
        (now.world.host.registers id = false → ∀ more,
          (now.run more).world.host.registers id = false ∧
          (∀ visiting mutation, id ∉ (now.run more).world.handedTo visiting mutation) ∧
          (now.run more).accepted id = now.accepted id ∧
          (now.run more).rejected id = now.rejected id ∧
          ∃ after, (now.run more).world.watches[id]? = some after ∧ after.known = watch.known) ∧
        (now.rejected id).length ≤ 1 ∧
        Course.timelyEvents id now.notices = now.accepted id := by
  intro before opened now
  obtain ⟨names, told, success⟩ | ⟨cause, told, failed⟩ :=
    before.world.openWatch_cases subscriber includeExisting options
  · obtain ⟨open', told, hopen⟩ : ∃ open' told,
        before.world.subscribe subscriber includeExisting options =
          (.ok before.world.nextId, open', told) := by
      rw [World.subscribe, success]
      exact ⟨_, _, rfl⟩
    rw [hopen]
    obtain ⟨course, enrols⟩ := enrols_run host hopen later
    have tracks := enrols.follows.tracks
    refine ⟨fun past within => ?_, course.watch, tracks.watch_eq, ?_, ?_, ?_, ?_⟩
    · obtain ⟨rest, rfl⟩ := within
      have bound := nextId_le_run (origin.run past) rest
      rw [← run_append] at bound
      exact congrArg Glimpse.isRegistered (unopened_origin bound).glimpse_eq
    · rw [enrols.registers_iff_active, tracks.rejected_eq]
      constructor
      · rintro ⟨kept, active, fits⟩
        exact ⟨active, fits, kept⟩
      · rintro ⟨active, fits, kept⟩
        exact ⟨kept, active, fits⟩
    · intro gone more
      obtain ⟨next, follows, still, known, accepted, rejected⟩ :=
        enrols.follows.unregistered gone more
      refine ⟨still, fun visiting mutation member => ?_, ?_, ?_, next.watch, follows.watch_eq,
        known⟩
      · have registered := (World.mem_handedTo_iff visiting mutation).mp member |>.1
        rw [still] at registered
        cases registered
      · rw [follows.tracks.accepted_eq, accepted, tracks.accepted_eq]
      · rw [follows.tracks.rejected_eq, rejected, tracks.rejected_eq]
    · rw [tracks.rejected_eq]
      exact enrols.once.rejected_le
    · rw [tracks.timelyEvents_eq, enrols.once.timely_eq, tracks.accepted_eq]
  · have refused : before.world.subscribe subscriber includeExisting options =
        (.error cause, before.world, told) := by
      rw [World.subscribe, failed]
    rw [refused]
    simp only [opened, next, World.enact, refused]

theorem registered_iff_overflowed :
    let inOrder : Visiting := ⟨fun visits => visits, fun _ => .refl _⟩
    let visible : Access := ⟨.ofNames ["u", "v"], ∅⟩
    let before := origin.run [.upsert (.active "a"), .upsert (.active "b"),
      .subscribe ⟨"v", []⟩ none ⟨4, 1, false⟩]
    let now := (before.next (.subscribe ⟨"u", []⟩ none ⟨1, 1, false⟩)).run
      [.perform inOrder (.setAccess "a" visible), .perform inOrder (.setAccess "b" visible)]
    let more : List Action := [.poll 2, .take 2, .perform inOrder (.touch "a")]
    (∃ catalog, before.world.host = .real catalog) ∧
      (before.world.subscribe ⟨"u", []⟩ none ⟨1, 1, false⟩).1 = .ok 2 ∧
      now.world.host.registers 1 = true ∧ (now.rejected 2).map (·.kind) = [.added] ∧
      (now.run more).world.host.registers 2 = false ∧
      (now.run more).accepted 2 = now.accepted 2 := by
  intro inOrder visible before now more
  have host : ∃ catalog, before.world.host = .real catalog := ⟨_, rfl⟩
  have opened : (before.world.subscribe ⟨"u", []⟩ none ⟨1, 1, false⟩).1 = .ok 2 := rfl
  have rejected : (now.rejected 2).map (·.kind) = [.added] := by decide +kernel
  refine ⟨host, opened, by decide +kernel, rejected, ?_⟩
  obtain ⟨catalog, host⟩ := host
  have held := registered_iff host ⟨"u", []⟩ none ⟨1, 1, false⟩
    [.perform inOrder (.setAccess "a" visible), .perform inOrder (.setAccess "b" visible)]
  dsimp only at held
  rw [opened] at held
  obtain ⟨-, watch, -, registered, gone, -⟩ := held
  dsimp only [now, before] at rejected ⊢
  have out := Bool.eq_false_iff.mpr fun still => by
    rw [(registered.mp still).2.1] at rejected
    cases rejected
  obtain ⟨still, -, accepted, -⟩ := gone out more
  exact ⟨still, accepted⟩

end Subscribed

end History
end AccessFeed
