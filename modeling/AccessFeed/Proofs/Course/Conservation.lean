import AccessFeed.Proofs.Course.Flow
import AccessFeed.Proofs.Opening

/-! No event of a watch is lost, repeated or reordered on its way to the consumer, and no buffer
holds more than it may.

`Course.conservation` says so of a watch that was just opened, after any moves. -/
namespace AccessFeed

namespace Phase

/-- The relay has neither ended nor taken the terminal error. -/
def isCarrying : Phase → Bool
  | .sendingFailure _ | .finished _ => false
  | _ => true

/-- The event that waits for room in the outbox. -/
def held : Phase → List Event
  | .sendingReplay project _ => [.added project]
  | .sendingLive event => [event]
  | .sendingFailure cause => [.ofOverflow cause]
  | _ => []

/-- The projects of the snapshot after the one that is being sent. -/
def unsent : Phase → List Project
  | .replaying rest | .sendingReplay _ rest => rest
  | _ => []

end Phase

namespace Course

variable {move : Move} {course next : Course} {snapshot : List Event}

/-- While events are carried, each is where it should be. -/
theorem Flow.conserved (h : course.Flow snapshot) (carrying : course.watch.phase.isCarrying = true) :
    snapshot ++ course.accepted = course.sent ++ course.watch.phase.held ++
      course.watch.phase.unsent.map .added ++ course.watch.intake := by
  cases phase : course.watch.phase with
  | replaying rest =>
    simp only [Flow, phase] at h
    simp [Phase.held, Phase.unsent, h.1, h.2]
  | sendingReplay project rest =>
    simp only [Flow, phase] at h
    simp [Phase.held, Phase.unsent, h.1, h.2]
  | live =>
    simp only [Flow, phase] at h
    obtain ⟨live, all, accepted⟩ := h
    simp [Phase.held, Phase.unsent, all, accepted]
  | sendingLive event =>
    simp only [Flow, phase] at h
    obtain ⟨live, all, accepted⟩ := h
    simp [Phase.held, Phase.unsent, all, accepted]
  | sendingFailure cause => simp [phase, Phase.isCarrying] at carrying
  | finished exit => simp [phase, Phase.isCarrying] at carrying

/-- What was sent is a first part of what there was to send, and after a failure the error. -/
theorem Flow.sent (h : course.Flow snapshot) :
    ∃ regular, regular <+: snapshot ++ course.accepted ∧
      (course.sent = regular ∨ ∃ cause, course.watch.phase = .finished (.failed cause) ∧
        course.sent = regular ++ [.ofOverflow cause]) := by
  cases finished : course.watch.phase.isFinished with
  | false => exact ⟨course.sent, h.prefix finished, .inl rfl⟩
  | true =>
    cases phase : course.watch.phase with
    | finished exit =>
      simp only [Flow, phase] at h
      cases exit with
      | stopped => exact ⟨course.sent, h, .inl rfl⟩
      | producerGone => exact ⟨course.sent, h ▸ List.prefix_rfl, .inl rfl⟩
      | failed cause =>
        obtain ⟨sent, all, cut⟩ := h
        exact ⟨sent, cut.prefix, .inr ⟨cause, rfl, all⟩⟩
    | _ => simp [phase, Phase.isFinished] at finished

/-- No buffer holds more than it may. -/
structure Fits (intakeLimit outboxLimit : Nat) (course : Course) : Prop where
  intakeLimit_eq : course.watch.intakeLimit = intakeLimit
  outboxLimit_eq : course.watch.outboxLimit = outboxLimit
  intake_le : course.watch.intake.length ≤ intakeLimit
  outbox_le : course.watch.outbox.length ≤ outboxLimit

variable {intakeLimit outboxLimit : Nat}

theorem Fits.relay {watch : Watch} {effects : List Effect}
    (advance : course.watch.Advance course.isFed watch effects)
    (h : course.Fits intakeLimit outboxLimit) :
    (course.advance (watch, effects)).Fits intakeLimit outboxLimit := by
  obtain ⟨rfl, rfl, hi, ho⟩ := h
  cases advance with
  | takeEvent phase running intake =>
    rw [intake, List.length_cons] at hi
    exact ⟨rfl, rfl, Nat.le_of_succ_le hi, ho⟩
  | sendReplay phase running room => exact ⟨rfl, rfl, hi, by simp [Watch.push]; omega⟩
  | sendLive phase running room => exact ⟨rfl, rfl, hi, by simp [Watch.push]; omega⟩
  | sendFailure phase running room =>
    exact ⟨rfl, rfl, Nat.zero_le _, by simp [Watch.finish, Watch.push]; omega⟩
  | quit phase stopped => exact ⟨rfl, rfl, Nat.zero_le _, ho⟩
  | starve phase running intake fault unfed => exact ⟨rfl, rfl, Nat.zero_le _, ho⟩
  | _ => exact ⟨rfl, rfl, hi, ho⟩

theorem Fits.change (change : Change move course next) (h : course.Fits intakeLimit outboxLimit) :
    next.Fits intakeLimit outboxLimit := by
  cases change with
  | relay kind advance => exact h.relay advance
  | arrive kind regular arrival =>
    obtain ⟨rfl, rfl, hi, ho⟩ := h
    cases arrival with
    | accept active room => exact ⟨rfl, rfl, by simp; omega, ho⟩
    | _ => exact ⟨rfl, rfl, hi, ho⟩
  | take kind outbox =>
    obtain ⟨rfl, rfl, hi, ho⟩ := h
    rw [outbox, List.length_cons] at ho
    exact ⟨rfl, rfl, hi, Nat.le_of_succ_le ho⟩
  | _ => exact ⟨h.1, h.2, h.3, h.4⟩

/-- Only a relay makes errors of its own. -/
def Regular (course : Course) : Prop := ∀ event ∈ course.accepted, event.kind ≠ .error

theorem Regular.change (change : Change move course next) (h : course.Regular) : next.Regular := by
  cases change with
  | aside known begun isDue heedsIntake heedsFault told asides =>
    have none := Notice.filterMap_accepted_of_isAside asides course.watch.id
    simpa [Regular, accepted, none] using h
  | @arrive _ _ event _ _ kind regular arrival =>
    intro other member
    cases arrival with
    | accept active room =>
      rw [accepted_queued (by rfl), List.mem_append, List.mem_singleton] at member
      obtain member | rfl := member
      · exact h other member
      · exact regular
    | _ => exact h other (by simpa [accepted_advance, Notice.accepted?] using member)
  | relay kind advance =>
    intro other member
    rw [accepted_relay advance] at member
    exact h other member
  | _ => exact h

theorem flow_start (id : WatchId) (subscriber : Subscriber) (options : WatchOptions)
    (known : NameSet) (projects : List Project) :
    (start (.start id subscriber options known projects)).Flow (projects.map .added) := by
  simp [Flow, start, Watch.start, Course.sent, accepted]

theorem blame_start (id : WatchId) (subscriber : Subscriber) (options : WatchOptions)
    (known : NameSet) (projects : List Project) :
    (start (.start id subscriber options known projects)).Blame := by
  simp [Blame, start, Watch.start, blame, rejected]

/-- All that holds of a new watch after any moves. -/
structure Sound (snapshot : List Event) (intakeLimit outboxLimit : Nat) (course : Course) :
    Prop where
  blame : course.Blame
  flow : course.Flow snapshot
  fits : course.Fits intakeLimit outboxLimit
  regular : course.Regular

theorem sound_run (id : WatchId) (subscriber : Subscriber) (options : WatchOptions)
    (known : NameSet) (projects : List Project) (moves : List Move) :
    ((start (.start id subscriber options known projects)).run moves).Sound
      (projects.map .added) options.bufferSize.toNat options.outputBufferSize.toNat := by
  refine run_induction ?_ ?_ moves
  · intro move course next change h
    exact ⟨h.blame.change change, h.flow.change change h.blame, h.fits.change change,
      h.regular.change change⟩
  · refine ⟨blame_start .., flow_start .., ⟨rfl, rfl, Nat.zero_le _, Nat.zero_le _⟩, ?_⟩
    simp [Regular, start, accepted]

section Opened

variable {world opened : World} {subscriber : Subscriber} {includeExisting : Option Bool}
  {options : WatchOptions} {id : WatchId} {notices : List Notice} {names : List String}
  {watch : Watch}

theorem start_of_openWatch
    (hopen : world.openWatch subscriber includeExisting options = (.ok id, opened, notices))
    (hwatch : opened.watches[id]? = some watch) :
    ∃ known snapshot, watch = .start id subscriber options known snapshot := by
  obtain ⟨names, -, -, -, rfl, rfl, -⟩ := World.openWatch_eq_ok_iff.mp hopen
  rw [World.watch_opening, Option.some.injEq] at hwatch
  exact ⟨_, _, hwatch.symm⟩

theorem sound_of_openWatch
    (hopen : world.openWatch subscriber includeExisting options = (.ok id, opened, notices))
    (hlist : world.host.list subscriber = .ok names)
    (hwatch : opened.watches[id]? = some watch) (moves : List Move) :
    ((start watch).run moves).Sound (world.initialEvents includeExisting options names)
      options.bufferSize.toNat options.outputBufferSize.toNat := by
  obtain ⟨names', -, -, hlist', rfl, rfl, -⟩ := World.openWatch_eq_ok_iff.mp hopen
  obtain rfl := Except.ok.inj (hlist'.symm.trans hlist)
  rw [World.watch_opening, Option.some.injEq] at hwatch
  subst hwatch
  rw [← World.map_replay]
  exact sound_run ..

theorem Sound.kind_ne_error {intakeLimit outboxLimit : Nat}
    (h : course.Sound (world.initialEvents includeExisting options names) intakeLimit outboxLimit)
    {event : Event}
    (member : event ∈ world.initialEvents includeExisting options names ++ course.accepted) :
    event.kind ≠ .error := by
  obtain member | member := List.mem_append.mp member
  · exact World.kind_ne_error_of_mem_initialEvents member
  · exact h.regular event member

/-- Every event a new watch starts with or accepts is, after any moves, sent, held, still to be
sent, or in the intake, in this order and nowhere twice, as long as the relay has neither ended nor
taken the terminal error. The buffers keep within their limits at any time, and at any time what was
sent is a first part of these events, after a failure followed by the error. -/
theorem conservation
    (hopen : world.openWatch subscriber includeExisting options = (.ok id, opened, notices))
    (hlist : world.host.list subscriber = .ok names)
    (hwatch : opened.watches[id]? = some watch) (moves : List Move) :
    let snapshot := world.initialEvents includeExisting options names
    let course := (start watch).run moves
    (course.watch.phase.isCarrying = true →
      snapshot ++ course.accepted = course.sent ++ course.watch.phase.held ++
        course.watch.phase.unsent.map .added ++ course.watch.intake) ∧
    course.watch.intake.length ≤ options.bufferSize.toNat ∧
    course.watch.outbox.length ≤ options.outputBufferSize.toNat ∧
    course.watch.phase.held.length ≤ 1 ∧ course.watch.fault.toList.length ≤ 1 ∧
    (∀ event ∈ snapshot ++ course.accepted, event.kind ≠ .error) ∧
    ∃ regular, regular <+: snapshot ++ course.accepted ∧
      (course.sent = regular ∨ ∃ cause, course.watch.phase = .finished (.failed cause) ∧
        course.sent = regular ++ [.ofOverflow cause]) := by
  intro snapshot course
  have sound : course.Sound snapshot _ _ := sound_of_openWatch hopen hlist hwatch moves
  refine ⟨sound.flow.conserved, sound.fits.intake_le, sound.fits.outbox_le, ?_, ?_, ?_,
    sound.flow.sent⟩
  · cases course.watch.phase <;> simp [Phase.held]
  · cases course.watch.fault <;> simp
  · intro event member
    exact sound.kind_ne_error member

end Opened

theorem conservation_stalled :
    let world := { World.fresh (.double ⟨.ok ["b", "a"], [], []⟩) with
      directory := (Directory.empty.upsert (.active "a")).2 }
    let options : WatchOptions := ⟨1, 1, true⟩
    let opened := (world.openWatch ⟨"u", []⟩ none options).2.1
    let watch := Watch.start 1 ⟨"u", []⟩ options (.ofNames ["b", "a"])
      [(Namespace.active "a").project]
    let grant (name : String) : Move := .handle (fun name => .ok (.active name))
      ⟨name, ⟨.ofNames ["u"], ∅⟩, .nobody, ⟨.ofNames ["u"], ∅⟩⟩
    let course := (start watch).run
      [.poll 128, grant "a", .poll 128, grant "c", grant "d", .poll 128]
    (world.openWatch ⟨"u", []⟩ none options).1 = .ok 1 ∧
    world.host.list ⟨"u", []⟩ = .ok ["b", "a"] ∧ opened.watches[1]? = some watch ∧
    course.watch.phase.isCarrying = true ∧
    world.initialEvents none options ["b", "a"] ++ course.accepted =
      course.sent ++ course.watch.phase.held ++ course.watch.phase.unsent.map .added ++
        course.watch.intake := by
  intro world options opened watch grant course
  have hopen : world.openWatch ⟨"u", []⟩ none options = (.ok 1, opened, _) := rfl
  have hlist : world.host.list ⟨"u", []⟩ = .ok ["b", "a"] := rfl
  have hwatch : opened.watches[1]? = some watch := by decide
  have carrying : course.watch.phase.isCarrying = true := by decide
  exact ⟨rfl, hlist, hwatch, carrying, (conservation hopen hlist hwatch _).1 carrying⟩

end Course
end AccessFeed
