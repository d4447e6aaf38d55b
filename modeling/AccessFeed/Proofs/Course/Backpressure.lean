import AccessFeed.Proofs.Course.Intake
import AccessFeed.Proofs.Progress

/-! How far a consumer may fall behind before its watch overflows.

What counts against the intake is what was accepted and not yet taken by the relay, and nothing
else. A consumer that never reads is borne with until the outbox, the hand of the relay and the
intake are full; the snapshot takes its share of the first two alone. -/
namespace AccessFeed
namespace Course

variable {course next : Course} {lookup : Lookup} {change : AccessChange} {event : Event}
  {snapshot events : List Event} {intakeLimit outboxLimit : Nat}

/-- What the relay and the consumer of a watch have, apart from the intake and the error. -/
def downstream (course : Course) : Phase × List Event × Nat × Bool × Bool × List Event :=
  (course.watch.phase, course.watch.outbox, course.watch.outboxLimit, course.watch.isStopped,
    course.isFed, course.received)

/-- Handing a watch a change does not reach what is downstream of the intake. -/
theorem downstream_make_handle (course : Course) (lookup : Lookup) (change : AccessChange) :
    (course.make (.handle lookup change)).downstream = course.downstream := by
  refine make_eq downstream (fun {before after} small => ?_) course
  cases small with
  | aside => rfl
  | arrive kind regular arrival => cases arrival <;> rfl
  | relay kind | take kind | stop kind | drop kind => cases kind

/-- The relay runs for the first time or runs on until it can go no further. -/
def Settles (course next : Course) : Prop :=
  ∃ limits : List Nat, next = course.run (limits.map .poll) ∧
    next.watch.step next.isFed = none

theorem settles_make {limit : Nat} (waits : (course.make (.poll limit)).watch.step
    (course.make (.poll limit)).isFed = none) : course.Settles (course.make (.poll limit)) :=
  ⟨[limit], rfl, waits⟩

/-- A watch is handed changes one after another, and nothing else is done to it but what may be done
before the first of them and after each. The events are those that it makes of the changes. -/
inductive Handed (between : Course → Course → Prop) (first : Course) :
    List Event → Course → Prop
  | start {course : Course} (ready : between first course) : Handed between first [] course
  | next {events : List Event} {course next : Course} {lookup : Lookup} {change : AccessChange}
      (before : Handed between first events course)
      (ready : between (course.make (.handle lookup change)) next) :
      Handed between first
        (events ++ (course.watch.announced? lookup change).toList) next

/-- The intake is full exactly when as many events have been accepted as there is room for on the
whole. -/
structure Gauge (capacity : Nat) (course : Course) : Prop where
  active : course.watch.phase.isFinished = false
  accepted_le : course.accepted.length ≤ capacity
  full_iff : course.watch.intakeLimit ≤ course.watch.intake.length ↔
    course.accepted.length = capacity

variable {between : Course → Course → Prop} {first : Course} {capacity : Nat}

/-- As long as an intake is full exactly at the capacity, the events up to there are accepted and
all that follow are rejected. -/
theorem Handed.split
    (keeps : ∀ {course next}, between course next →
      next.accepted = course.accepted ∧ next.rejected = course.rejected)
    (gauge : ∀ {events course}, Handed between first events course → course.Gauge capacity)
    (fresh : first.notices = []) (h : Handed between first events course) :
    course.accepted = events.take capacity ∧ course.rejected = events.drop capacity := by
  induction h with
  | start ready =>
    obtain ⟨accepted, rejected⟩ := keeps ready
    rw [accepted, rejected]
    simp [Course.accepted, Course.rejected, fresh]
  | @next events course next lookup change before ready ih =>
    obtain ⟨accepted, rejected⟩ := keeps ready
    rw [accepted, rejected]
    cases announced : course.watch.announced? lookup change with
    | none =>
      obtain ⟨-, same, same'⟩ := make_handle_of_unannounced announced
      simpa [same, same'] using ih
    | some event =>
      obtain ⟨active, within, full_iff⟩ := gauge before
      rw [ih.1, List.length_take] at within full_iff
      obtain ⟨room, kept, none, -⟩ | ⟨full, none, lost, -⟩ :=
        make_handle_of_announced active announced
      · have short : events.length < capacity := by
          have := full_iff.mpr.mt (Nat.not_le.mpr room)
          omega
        have fits : (events ++ [event]).length ≤ capacity := by
          rw [List.length_append]
          exact short
        rw [kept, none, ih.1, ih.2, List.take_of_length_le short.le,
          List.drop_of_length_le short.le]
        exact ⟨(List.take_of_length_le fits).symm, (List.drop_of_length_le fits).symm⟩
      · have long : capacity ≤ events.length := by
          have := full_iff.mp full
          omega
        rw [none, lost, ih.1, ih.2]
        simp [List.take_append_of_le_length long, List.drop_append_of_le_length long]

theorem Handed.follow (before : Handed between first events course) (lookup : Lookup)
    (change : AccessChange) (announced : course.watch.announced? lookup change = some event)
    (ready : between (course.make (.handle lookup change)) next) :
    Handed between first (events ++ [event]) next := by
  have more := before.next ready
  rwa [announced] at more

theorem Handed.exists_run
    (moves : ∀ {course next}, between course next → ∃ moves, next = course.run moves)
    (h : Handed between first events course) : ∃ moves, course = first.run moves := by
  induction h with
  | start ready => exact moves ready
  | @next events course next lookup change before ready ih =>
    obtain ⟨earlier, rfl⟩ := ih
    obtain ⟨later, rfl⟩ := moves ready
    exact ⟨earlier ++ .handle lookup change :: later, by simp⟩

theorem accepted_polls (course : Course) (limits : List Nat) :
    (course.run (limits.map .poll)).accepted = course.accepted ∧
      (course.run (limits.map .poll)).rejected = course.rejected := by
  have unhandled : ∀ move ∈ limits.map Move.poll, ∀ lookup change,
      move ≠ .handle lookup change := by
    simp
  exact ⟨run_eq_of_unhandled (·.accepted) accepted_make unhandled course,
    run_eq_of_unhandled (·.rejected) rejected_make unhandled course⟩

/-- Nobody reads what the relay sends, stops the relay or drops the watch, and the relay has not
come to a terminal error: there is none, or it can go no further. -/
structure Unread (course : Course) : Prop where
  carrying : course.watch.phase.isCarrying = true
  running : course.watch.isStopped = false
  fed : course.isFed = true
  received : course.received = []
  calm : course.watch.fault = none ∨ course.watch.step course.isFed = none

theorem Unread.poll (h : course.Unread) (limit : Nat) : (course.make (.poll limit)).Unread := by
  refine make_induction (fun {before after} small h => ?_) h
  obtain ⟨carrying, running, fed, received, calm⟩ := h
  cases small with
  | aside known begun isDue heedsIntake heedsFault told asides =>
    refine ⟨carrying, running, fed, received, calm.imp_right fun waits => ?_⟩
    rw [← Option.isNone_iff_eq_none, Watch.isNone_step] at waits ⊢
    exact waits
  | relay kind advance =>
    have fault : before.watch.fault = none :=
      calm.resolve_right (by simp [Watch.step_of_advance advance])
    cases advance with
    | catchUp phase | replay phase | sendReplay phase | takeEvent phase | sendLive phase =>
      exact ⟨rfl, running, fed, received, .inl fault⟩
    | findFault phase found | takeFault phase _ _ found => rw [fault] at found; cases found
    | quit phase stopped => rw [running] at stopped; cases stopped
    | starve phase _ _ _ unfed => rw [fed] at unfed; cases unfed
    | sendFailure phase => simp [phase, Phase.isCarrying] at carrying
  | arrive kind | take kind | stop kind | drop kind => cases kind

theorem Unread.polls (h : course.Unread) (limits : List Nat) :
    (course.run (limits.map .poll)).Unread := by
  induction limits generalizing course with
  | nil => exact h
  | cons limit limits ih => exact ih (h.poll limit)

/-- A relay that nobody reads from stands still with everything sent or with a full outbox. -/
theorem Unread.standstill (h : course.Unread) (waits : course.watch.step course.isFed = none) :
    (course.watch.phase = .live ∧ course.watch.intake = [] ∧ course.watch.fault = none) ∨
      course.watch.phase.isSending = true ∧
        course.watch.outboxLimit ≤ course.watch.outbox.length := by
  have possible := course.watch.isNone_step course.isFed
  rw [waits, Option.isNone_none] at possible
  have carrying := h.carrying
  cases phase : course.watch.phase with
  | live =>
    simp only [phase, h.running, h.fed] at possible
    refine .inl ⟨rfl, ?_⟩
    simpa using possible.symm
  | sendingReplay | sendingLive =>
    simp only [phase, h.running] at possible
    exact .inr ⟨rfl, by simpa using possible.symm⟩
  | replaying => simp [phase] at possible
  | sendingFailure | finished => simp [phase, Phase.isCarrying] at carrying

theorem Unread.handle (h : course.Unread) (waits : course.watch.step course.isFed = none)
    (room : 0 < course.watch.intakeLimit) (lookup : Lookup) (change : AccessChange) :
    (course.make (.handle lookup change)).Unread := by
  have same := downstream_make_handle course lookup change
  simp only [downstream, Prod.mk.injEq] at same
  obtain ⟨phase, outbox, outboxLimit, isStopped, isFed, received⟩ := same
  refine ⟨phase ▸ h.carrying, isStopped.trans h.running, isFed.trans h.fed,
    received.trans h.received, ?_⟩
  obtain ⟨live, intake, fault⟩ | ⟨sending, full⟩ := h.standstill waits
  · -- an empty intake has room, so there is no error
    refine .inl ?_
    cases announced : course.watch.announced? lookup change with
    | none => rw [(make_handle_of_unannounced announced).1, fault]
    | some event =>
      obtain ⟨-, -, -, -, kept⟩ | ⟨full, -⟩ :=
        make_handle_of_announced (by rw [live]; rfl) announced
      · exact kept.trans fault
      · rw [intake, List.length_nil] at full
        omega
  · -- a full outbox keeps the relay from finding an error
    refine .inr ?_
    rw [← Option.isNone_iff_eq_none, Watch.isNone_step, phase, isStopped, outboxLimit, outbox]
    cases phase : course.watch.phase <;> simp_all [Phase.isSending, h.running]

/-- How much a watch takes in whose consumer does not read: what its intake holds, and what the
outbox and the hand of the relay hold beyond the snapshot. -/
theorem Unread.gauge (h : course.Unread) (waits : course.watch.step course.isFed = none)
    (sound : course.Sound snapshot intakeLimit outboxLimit) (room : 0 < intakeLimit) :
    course.Gauge (intakeLimit + (outboxLimit + 1 - snapshot.length)) := by
  have carrying := h.carrying
  have flow := sound.flow
  have sent : course.sent = course.watch.outbox := by rw [Course.sent, h.received, List.nil_append]
  obtain ⟨limit, outboxLimit_eq, intake_le, outbox_le⟩ := sound.fits
  obtain ⟨phase, intake, -⟩ | ⟨sending, full⟩ := h.standstill waits
  · simp only [Flow, phase, sent] at flow
    obtain ⟨live, all, accepted⟩ := flow
    rw [intake, List.append_nil] at accepted
    rw [all, ← accepted, List.length_append] at outbox_le
    refine ⟨by rw [phase]; rfl, by omega, ?_⟩
    rw [limit, intake, List.length_nil]
    omega
  · rw [outboxLimit_eq] at full
    cases phase : course.watch.phase with
    | sendingReplay project rest =>
      simp only [Flow, phase, sent] at flow
      have lengths := congrArg List.length flow.1
      rw [List.length_append, List.length_cons] at lengths
      refine ⟨by rw [phase]; rfl, by rw [flow.2]; omega, ?_⟩
      rw [limit, flow.2]
      omega
    | sendingLive event =>
      simp only [Flow, phase, sent] at flow
      obtain ⟨live, all, accepted⟩ := flow
      have lengths := congrArg List.length all
      have count := congrArg List.length accepted
      rw [List.length_append] at lengths
      rw [List.length_append, List.length_cons] at count
      refine ⟨by rw [phase]; rfl, by omega, ?_⟩
      rw [limit]
      omega
    | sendingFailure => simp [phase, Phase.isCarrying] at carrying
    | replaying | live | finished => simp [phase, Phase.isSending] at sending

/-- A relay that has not run has nothing, and its watch takes in what its intake holds. -/
theorem gauge_of_replaying {rest : List Project} (phase : course.watch.phase = .replaying rest)
    (sound : course.Sound snapshot intakeLimit outboxLimit) : course.Gauge intakeLimit := by
  have flow := sound.flow
  simp only [Flow, phase] at flow
  obtain ⟨limit, -, intake_le, -⟩ := sound.fits
  refine ⟨by rw [phase]; rfl, by rw [flow.2]; omega, ?_⟩
  rw [limit, flow.2]
  omega

section Fresh

variable (sound : ∀ moves, (first.run moves).Sound snapshot intakeLimit outboxLimit)

include sound

theorem Handed.unread (room : 0 < intakeLimit) (fresh : first.Unread)
    (h : Handed Settles first events course) :
    course.Unread ∧ course.watch.step course.isFed = none := by
  induction h with
  | start ready =>
    obtain ⟨limits, rfl, waits⟩ := ready
    exact ⟨fresh.polls limits, waits⟩
  | @next events course next lookup change before ready ih =>
    obtain ⟨limits, rfl, waits⟩ := ready
    obtain ⟨moves, same⟩ := before.exists_run fun ⟨limits, reached, _⟩ => ⟨_, reached⟩
    have limit : course.watch.intakeLimit = intakeLimit :=
      same ▸ (sound moves).fits.intakeLimit_eq
    exact ⟨(ih.1.handle ih.2 (limit ▸ room) lookup change).polls limits, waits⟩

/-- What is handed to a watch that nobody reads, while its relay goes as far as it can. -/
theorem Handed.split_settles (room : 0 < intakeLimit) (fresh : first.Unread)
    (silent : first.notices = []) (h : Handed Settles first events course) :
    let capacity := intakeLimit + (outboxLimit + 1 - snapshot.length)
    course.accepted = events.take capacity ∧ course.rejected = events.drop capacity := by
  refine h.split ?_ (fun {_ course} before => ?_) silent
  · rintro course next ⟨limits, rfl, -⟩
    exact accepted_polls course limits
  · obtain ⟨unread, waits⟩ := before.unread sound room fresh
    obtain ⟨moves, same⟩ := before.exists_run fun ⟨limits, reached, _⟩ => ⟨_, reached⟩
    exact unread.gauge waits (same ▸ sound moves) room

/-- What is handed to a watch whose relay never runs. -/
theorem Handed.split_idle {rest : List Project} (phase : first.watch.phase = .replaying rest)
    (silent : first.notices = []) (h : Handed Eq first events course) :
    course.accepted = events.take intakeLimit ∧ course.rejected = events.drop intakeLimit := by
  have still {events : List Event} {course : Course} (h : Handed Eq first events course) :
      course.downstream = first.downstream := by
    induction h with
    | start ready => rw [← ready]
    | next before ready ih => rw [← ready, downstream_make_handle, ih]
  refine h.split ?_ (fun {_ course} before => ?_) silent
  · rintro course next rfl
    exact ⟨rfl, rfl⟩
  · obtain ⟨moves, same⟩ := before.exists_run fun {course next} same => ⟨[], same.symm⟩
    have phase : course.watch.phase = .replaying rest :=
      (congrArg Prod.fst (still before)).trans phase
    exact gauge_of_replaying phase (same ▸ sound moves)

end Fresh

/-- An event that a watch makes of a change overflows exactly if as many accepted events as the
intake may hold have not been taken by the relay, which are never more. So a watch whose consumer
never reads accepts a fixed number of events and rejects all that follow. If the relay goes as far
as it can before the first change and after each one, this is what the intake, the outbox and the
hand of the relay hold together, less the snapshot, which takes its share of the last two alone. If
the relay never runs it is what the intake holds. -/
theorem backpressure {world opened : World} {subscriber : Subscriber}
    {includeExisting : Option Bool} {options : WatchOptions} {id : WatchId}
    {notices : List Notice} {names : List String} {watch : Watch}
    (hopen : world.openWatch subscriber includeExisting options = (.ok id, opened, notices))
    (hlist : world.host.list subscriber = .ok names)
    (hwatch : opened.watches[id]? = some watch) :
    let snapshot := world.initialEvents includeExisting options names
    let intakeLimit := options.bufferSize.toNat
    let capacity := intakeLimit + (options.outputBufferSize.toNat + 1 - snapshot.length)
    (∀ moves lookup change event,
      let course := (start watch).run moves
      let next := course.make (.handle lookup change)
      course.watch.phase.isFinished = false →
      course.watch.announced? lookup change = some event →
      course.untaken.length ≤ intakeLimit ∧
      (next.accepted, next.rejected) =
        if course.untaken.length = intakeLimit
        then (course.accepted, course.rejected ++ [event])
        else (course.accepted ++ [event], course.rejected)) ∧
    (∀ events course, Handed Settles (start watch) events course →
      course.accepted = events.take capacity ∧ course.rejected = events.drop capacity) ∧
    ∀ events course, Handed Eq (start watch) events course →
      course.accepted = events.take intakeLimit ∧
        course.rejected = events.drop intakeLimit := by
  intro snapshot intakeLimit capacity
  have sound (moves : List Move) : ((start watch).run moves).Sound snapshot intakeLimit _ :=
    sound_of_openWatch hopen hlist hwatch moves
  obtain ⟨known, projects, fresh⟩ := start_of_openWatch hopen hwatch
  obtain ⟨-, possible, -⟩ := World.openWatch_eq_ok_iff.mp hopen
  have room : 0 < intakeLimit := (WatchOptions.check_eq_ok_iff.mp possible).1.1
  refine ⟨?_, ?_, ?_⟩
  · intro moves lookup change event course next active announced
    have untaken : course.untaken = course.watch.intake :=
      untaken_eq_intake (by rw [fresh]; rfl) moves active
    obtain ⟨limit, -, within, -⟩ := (sound moves).fits
    rw [untaken]
    refine ⟨within, ?_⟩
    obtain ⟨room, accepted, rejected, -⟩ | ⟨full, accepted, rejected, -⟩ :=
      make_handle_of_announced active announced
    · rw [limit] at room
      rw [if_neg room.ne]
      exact Prod.ext accepted rejected
    · rw [limit] at full
      rw [if_pos (le_antisymm within full)]
      exact Prod.ext accepted rejected
  · intro events course handed
    have unread : (start watch).Unread := by
      rw [fresh]
      exact ⟨rfl, rfl, rfl, rfl, .inl rfl⟩
    exact handed.split_settles sound room unread rfl
  · intro events course handed
    have phase : (start watch).watch.phase = .replaying projects := by
      rw [fresh]
      rfl
    exact handed.split_idle sound phase rfl

theorem backpressure_unread :
    let world := { World.fresh (.double ⟨.ok ["b", "a"], [], []⟩) with
      directory := (Directory.empty.upsert (.active "a")).2 }
    let options : WatchOptions := ⟨1, 1, true⟩
    let opened := (world.openWatch ⟨"u", []⟩ none options).2.1
    let watch := Watch.start 1 ⟨"u", []⟩ options (.ofNames ["b", "a"])
      [(Namespace.active "a").project]
    let lookup : Lookup := fun name => .ok (.active name)
    let visible (name : String) : AccessChange :=
      ⟨name, ⟨.ofNames ["u"], ∅⟩, .nobody, ⟨.ofNames ["u"], ∅⟩⟩
    let grant (name : String) : Move := .handle lookup (visible name)
    let events : List Event := [.modified (Namespace.active "a").project,
      .added (Namespace.active "c").project, .added (Namespace.active "d").project]
    let first := (start watch).make (.poll 9)
    let second := (first.make (grant "a")).make (.poll 9)
    let third := (second.make (grant "c")).make (.poll 9)
    let course := (third.make (grant "d")).make (.poll 9)
    let still := (start watch).run [grant "a", grant "c"]
    let room := options.bufferSize.toNat
    let capacity := room +
      (options.outputBufferSize.toNat + 1 - (world.initialEvents none options ["b", "a"]).length)
    (world.openWatch ⟨"u", []⟩ none options).1 = .ok 1 ∧
    world.host.list ⟨"u", []⟩ = .ok ["b", "a"] ∧ opened.watches[1]? = some watch ∧
    (still.untaken.length = room ∧
      still.watch.announced? lookup (visible "d") = some events[2] ∧
      (still.make (grant "d")).rejected = still.rejected ++ [events[2]]) ∧
    (capacity = 2 ∧ Handed Settles (start watch) events course ∧
      course.accepted = events.take capacity ∧ course.rejected = events.drop capacity) ∧
    room = 1 ∧ Handed Eq (start watch) (events.take 2) still ∧
      still.accepted = (events.take 2).take room ∧
      still.rejected = (events.take 2).drop room := by
  intro world options opened watch lookup visible grant events first second third course still
    room capacity
  have hopen : world.openWatch ⟨"u", []⟩ none options = (.ok 1, opened, _) := rfl
  have hlist : world.host.list ⟨"u", []⟩ = .ok ["b", "a"] := rfl
  have hwatch : opened.watches[1]? = some watch := by decide
  obtain ⟨overflow, settled, idle⟩ := backpressure hopen hlist hwatch
  have announced : still.watch.announced? lookup (visible "d") = some events[2] := by decide
  have lost := (overflow [grant "a", grant "c"] lookup (visible "d") _ (by decide) announced).2
  have full : still.untaken.length = room := by decide
  rw [if_pos full, Prod.mk.injEq] at lost
  have handed : Handed Settles (start watch) events course := by
    have none : Handed Settles (start watch) [] first := .start (settles_make (by decide))
    have one : Handed Settles (start watch) (events.take 1) second :=
      none.follow lookup (visible "a") (by decide) (settles_make (by decide))
    have two : Handed Settles (start watch) (events.take 2) third :=
      one.follow lookup (visible "c") (by decide) (settles_make (by decide))
    exact two.follow lookup (visible "d") (by decide) (settles_make (by decide))
  have waiting : Handed Eq (start watch) (events.take 2) still := by
    have one : Handed Eq (start watch) [events[0]] ((start watch).run [grant "a"]) :=
      Handed.follow (.start rfl) lookup (visible "a") (by decide) rfl
    exact one.follow lookup (visible "c") (by decide) rfl
  exact ⟨rfl, hlist, hwatch, ⟨full, announced, lost.2⟩,
    ⟨by decide, handed, settled events course handed⟩, rfl, waiting, idle _ still waiting⟩

end Course
end AccessFeed
