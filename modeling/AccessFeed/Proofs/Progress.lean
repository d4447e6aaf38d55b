import AccessFeed.Proofs.Course.Stopping
import AccessFeed.Proofs.History.Convergence
import AccessFeed.Proofs.History.Registration

/-! A relay is never stuck with work to do.

With turns enough it goes as far as it can, and then it has ended, waits for its consumer, or has
nothing left to send. So a consumer that keeps asking gets everything. -/
namespace AccessFeed

namespace Watch

variable {fed : Bool} {watch next : Watch} {effects : List Effect}

theorem step_of_work (h : watch.work = 0) : watch.step fed = none := by
  cases step : watch.step fed with
  | none => rfl
  | some result =>
    have less := work_step step
    omega

/-- How many events a relay has yet to send if it is handed no more: the rest of the snapshot, the
intake, the event that it holds and the terminal error. -/
def owed (watch : Watch) : Nat :=
  watch.phase.unsent.length + watch.intake.length + watch.phase.held.length +
    watch.fault.toList.length

end Watch

namespace Course

variable {course next last : Course} {limit : Nat} {more others : List Event}

/-- The relay alone went on from one course to another and sent the given events. -/
structure Sends (course next : Course) (more : List Event) : Prop where
  sent_eq : next.sent = course.sent ++ more
  pushed_eq : next.pushed = course.pushed ++ more
  received_eq : next.received = course.received
  owed_le : more.length + next.watch.owed ≤ course.watch.owed
  work_le : next.watch.work ≤ course.watch.work

theorem Sends.refl (course : Course) : course.Sends course [] :=
  ⟨by simp, by simp, rfl, by simp, Nat.le_refl _⟩

theorem Sends.trans (first : course.Sends next more) (second : next.Sends last others) :
    course.Sends last (more ++ others) := by
  refine ⟨?_, ?_, second.received_eq.trans first.received_eq, ?_,
    second.work_le.trans first.work_le⟩
  · rw [second.sent_eq, first.sent_eq, List.append_assoc]
  · rw [second.pushed_eq, first.pushed_eq, List.append_assoc]
  · have before := first.owed_le
    have after := second.owed_le
    rw [List.length_append]
    omega

theorem Sends.outbox_eq (h : course.Sends next more) :
    next.watch.outbox = course.watch.outbox ++ more := by
  have all := h.sent_eq
  rwa [sent, sent, h.received_eq, List.append_assoc, List.append_right_inj] at all

theorem Change.sends (change : Change (.poll limit) course next) :
    ∃ more, course.Sends next more := by
  cases change with
  | aside known begun isDue heedsIntake heedsFault told asides =>
    refine ⟨[], by simp [sent], ?_, rfl, ?_, Nat.le_refl _⟩
    · simp [pushed, Notice.filterMap_pushed_of_isAside asides]
    · exact (Nat.zero_add _).le
  | @relay _ watch effects kind advance =>
    have work : watch.work ≤ course.watch.work := (Watch.work_of_advance advance).le
    refine ⟨(Effect.notices effects).filterMap (Notice.pushed? course.watch.id), ?_, ?_, rfl, ?_,
      work⟩
    · cases advance <;> simp [sent, Watch.push, Watch.finish, Notice.pushed?]
    · simp [pushed, Course.advance, id_of_advance advance]
    · cases advance <;>
        simp_all [Watch.owed, Watch.push, Watch.finish, List.filterMap_cons, Notice.pushed?,
          Phase.unsent, Phase.held] <;>
        omega
  | arrive kind | take kind | stop kind | drop kind => cases kind

theorem sends_make (course : Course) (limit : Nat) :
    ∃ more, course.Sends (course.make (.poll limit)) more := by
  refine @make_induction (fun next => ∃ more, course.Sends next more) (.poll limit) ?_ course
    ⟨[], .refl course⟩
  rintro before after change ⟨more, sends⟩
  obtain ⟨others, then'⟩ := change.sends
  exact ⟨more ++ others, sends.trans then'⟩

/-- A relay that can go no further does nothing in its turns. -/
theorem step_make (h : course.watch.step course.isFed = none) :
    (course.make (.poll limit)).watch.step (course.make (.poll limit)).isFed = none := by
  refine @make_induction (fun next => next.watch.step next.isFed = none) (.poll limit) ?_ course h
  intro before after change waits
  cases change with
  | aside known begun isDue heedsIntake heedsFault told asides =>
    rw [← Option.isNone_iff_eq_none, Watch.isNone_step] at waits ⊢
    exact waits
  | relay kind advance =>
    rw [Watch.step_of_advance advance] at waits
    cases waits
  | arrive kind | take kind | stop kind | drop kind => cases kind

/-- The relay has turns of one length, one after another. -/
def settling (limit turns : Nat) : List Move := List.replicate turns (.poll limit)

theorem sends_settling (course : Course) (limit turns : Nat) :
    ∃ more, course.Sends (course.run (settling limit turns)) more := by
  induction turns generalizing course with
  | zero => exact ⟨[], .refl course⟩
  | succ turns ih =>
    obtain ⟨more, first⟩ := course.sends_make limit
    obtain ⟨others, then'⟩ := ih (course.make (.poll limit))
    exact ⟨more ++ others, first.trans then'⟩

theorem step_settling_of_step (h : course.watch.step course.isFed = none) (limit turns : Nat) :
    (course.run (settling limit turns)).watch.step (course.run (settling limit turns)).isFed =
      none := by
  induction turns generalizing course with
  | zero => exact h
  | succ turns ih => exact ih (step_make h)

/-- With as many turns as it has work, however short they are, a relay goes as far as it can. -/
theorem step_settling {turns : Nat} (room : 0 < limit) (enough : course.watch.work ≤ turns) :
    (course.run (settling limit turns)).watch.step (course.run (settling limit turns)).isFed =
      none := by
  induction turns generalizing course with
  | zero => exact Watch.step_of_work (Nat.le_zero.mp enough)
  | succ turns ih =>
    obtain ⟨-, less⟩ | ⟨-, waits⟩ := Watch.poll_cases course.isFed limit course.watch
    · have fewer : (course.make (.poll limit)).watch.work ≤ turns := by
        rw [make, watch_advance]
        omega
      exact ih fewer
    · exact step_settling_of_step waits limit turns

end Course

/-- How a relay stands that can go no further. -/
inductive Standstill where
  | ended
  /-- It waits for room in the outbox. -/
  | blocked
  /-- It waits for something to send. -/
  | idle

/-- What holds of a watch whose relay stands so. -/
def Standstill.describes (snapshot : List Event) (course : Course) : Standstill → Prop
  | .ended => course.watch.phase.isFinished = true
  | .blocked =>
    course.watch.isStopped = false ∧ course.watch.outbox.length = course.watch.outboxLimit ∧
      course.watch.phase.held.length = 1
  | .idle =>
    course.watch.isStopped = false ∧ course.watch.phase = .live ∧
      course.sent = snapshot ++ course.accepted ∧ course.watch.intake = [] ∧
      course.watch.fault = none ∧ course.isFed = true

namespace Course

variable {course : Course} {snapshot : List Event} {intakeLimit outboxLimit limit turns : Nat}

/-- A relay that can go no further stands in exactly one way. -/
theorem Sound.existsUnique_standstill (h : course.Sound snapshot intakeLimit outboxLimit)
    (waits : course.watch.step course.isFed = none) :
    ∃! standstill, Standstill.describes snapshot course standstill := by
  have possible := course.watch.isNone_step course.isFed
  rw [waits] at possible
  have flow := h.flow
  have full : course.watch.outboxLimit ≤ course.watch.outbox.length →
      course.watch.outbox.length = course.watch.outboxLimit := by
    intro full
    have fits := h.fits.outbox_le
    rw [h.fits.outboxLimit_eq] at full ⊢
    omega
  cases phase : course.watch.phase with
  | replaying rest => simp [phase] at possible
  | sendingReplay project rest | sendingLive event | sendingFailure cause =>
    simp only [phase, Option.isNone_none] at possible
    refine ⟨.blocked, ?_, ?_⟩
    · have possible : course.watch.isStopped = false ∧
          course.watch.outboxLimit ≤ course.watch.outbox.length := by simpa using possible.symm
      exact ⟨possible.1, full possible.2, by simp [phase, Phase.held]⟩
    · rintro (_ | _ | _) other
      · simp [Standstill.describes, phase, Phase.isFinished] at other
      · rfl
      · simp [Standstill.describes, phase] at other
  | live =>
    simp only [phase, Option.isNone_none] at possible
    simp only [Flow, phase] at flow
    obtain ⟨live, sent, accepted⟩ := flow
    refine ⟨.idle, ?_, ?_⟩
    · have possible : ((course.watch.isStopped = false ∧ course.watch.intake = []) ∧
          course.watch.fault = none) ∧ course.isFed = true := by simpa using possible.symm
      obtain ⟨⟨⟨running, intake⟩, fault⟩, fed⟩ := possible
      rw [intake, List.append_nil] at accepted
      exact ⟨running, phase, accepted ▸ sent, intake, fault, fed⟩
    · rintro (_ | _ | _) other
      · simp [Standstill.describes, phase, Phase.isFinished] at other
      · simp [Standstill.describes, phase, Phase.held] at other
      · rfl
  | finished exit =>
    refine ⟨.ended, by simp [Standstill.describes, phase, Phase.isFinished], ?_⟩
    rintro (_ | _ | _) other
    · rfl
    · simp [Standstill.describes, phase, Phase.held] at other
    · simp [Standstill.describes, phase] at other

/-- The relay goes as far as it can and then the consumer asks for an event, the given number of
times, and then the relay goes as far as it can once more. -/
def draining (limit turns : Nat) : Nat → List Move
  | 0 => settling limit turns
  | count + 1 => settling limit turns ++ .take :: draining limit turns count

theorem mem_draining {count : Nat} {move : Move} (member : move ∈ draining limit turns count) :
    move = .poll limit ∨ move = .take := by
  induction count with
  | zero => exact .inl (List.eq_of_mem_replicate member)
  | succ count ih =>
    simp only [draining, List.mem_append, List.mem_cons] at member
    obtain member | rfl | member := member
    · exact .inl (List.eq_of_mem_replicate member)
    · exact .inr rfl
    · exact ih member

theorem make_take_of_outbox {event : Event} {rest : List Event}
    (h : course.watch.outbox = event :: rest) :
    (course.make .take).watch.outbox = rest ∧
      (course.make .take).watch.owed = course.watch.owed ∧
      (course.make .take).watch.work = course.watch.work := by
  simp [make, Watch.take, h, Watch.wakeIf, Watch.owed, Watch.work]

theorem work_make_take (course : Course) : (course.make .take).watch.work = course.watch.work := by
  cases outbox : course.watch.outbox with
  | nil =>
    simp only [make, Watch.take, outbox]
    split <;> simp_all
  | cons event rest => exact (make_take_of_outbox outbox).2.2

theorem step_draining (room : 0 < limit) (enough : course.watch.work ≤ turns) (count : Nat) :
    let drained := course.run (draining limit turns count)
    drained.watch.step drained.isFed = none := by
  intro drained
  induction count generalizing course with
  | zero => exact step_settling room enough
  | succ count ih =>
    obtain ⟨more, sends⟩ := course.sends_settling limit turns
    have less : ((course.run (settling limit turns)).make .take).watch.work ≤ turns := by
      rw [work_make_take]
      exact sends.work_le.trans enough
    have last := ih less
    rw [← run_cons, ← run_append] at last
    exact last

/-- A consumer that asks again and again sooner or later gets nothing. -/
theorem exists_outbox_nil (course : Course) (limit turns : Nat) :
    ∃ count ≤ course.watch.outbox.length + course.watch.owed,
      (course.run (draining limit turns count)).watch.outbox = [] := by
  generalize bound : course.watch.outbox.length + course.watch.owed = total
  induction total using Nat.strongRecOn generalizing course with
  | ind total ih =>
    obtain ⟨more, sends⟩ := course.sends_settling limit turns
    cases outbox : (course.run (settling limit turns)).watch.outbox with
    | nil => exact ⟨0, Nat.zero_le _, outbox⟩
    | cons event rest =>
      obtain ⟨taken, owed, -⟩ := make_take_of_outbox outbox
      have lengths := congrArg List.length (outbox.symm.trans sends.outbox_eq)
      have owed_le := sends.owed_le
      simp only [List.length_cons, List.length_append] at lengths
      obtain ⟨count, fewer, last⟩ :=
        ih _ (by rw [taken, owed]; omega) ((course.run (settling limit turns)).make .take) rfl
      refine ⟨count + 1, ?_, ?_⟩
      · rw [taken, owed] at fewer
        omega
      · rw [draining, run_append, run_cons]
        exact last

/-- Where the consumer stands that has taken all events while the relay can go no further. -/
theorem Sound.caughtUp (h : course.Sound snapshot intakeLimit outboxLimit)
    (waits : course.watch.step course.isFed = none) (outbox : course.watch.outbox = [])
    (room : 0 < outboxLimit) :
    (course.watch.isStopped = false → course.rejected = [] →
      course.received = snapshot ++ course.accepted) ∧
    (course.watch.take.1 = .closed ↔
      course.watch.isStopped = true ∨ course.isFed = false ∨ course.rejected ≠ []) := by
  have all : course.sent = course.received := by rw [sent, outbox, List.append_nil]
  have blame := h.blame
  have flow := h.flow
  obtain ⟨standstill, stands, -⟩ := h.existsUnique_standstill waits
  cases standstill with
  | ended =>
    have closed : course.watch.take.1 = .closed := by
      have finished : course.watch.phase.isFinished = true := stands
      simp [Watch.take, outbox, finished]
    obtain ⟨exit, phase⟩ : ∃ exit, course.watch.phase = .finished exit := by
      cases phase : course.watch.phase <;> simp_all [Standstill.describes, Phase.isFinished]
    simp only [Blame, phase] at blame
    simp only [Flow, phase] at flow
    cases exit with
    | stopped => exact ⟨fun running => by simp [blame] at running, by simp [closed, blame]⟩
    | producerGone => exact ⟨fun _ _ => all ▸ flow, by simp [closed, blame.2]⟩
    | failed cause =>
      have late : course.rejected ≠ [] := by
        intro none
        simp [Course.blame, none] at blame
      exact ⟨fun _ fits => absurd fits late, by simp [closed, late]⟩
  | blocked =>
    obtain ⟨-, full, -⟩ := stands
    rw [outbox, h.fits.outboxLimit_eq, List.length_nil] at full
    omega
  | idle =>
    obtain ⟨running, phase, sent, -, fault, fed⟩ := stands
    have fits : course.rejected = [] := by
      simp only [Blame, phase, fault, Course.blame] at blame
      simpa using blame.symm
    refine ⟨fun _ _ => all ▸ sent, ?_⟩
    simp [Watch.take, outbox, phase, Phase.isFinished, running, fed, fits]

/-- From wherever a watch has got to, its relay goes as far as it can in turns of any length, if
there are enough of them. It sends at most the rest of the snapshot, the intake, the event that it
holds and the terminal error, and then it has ended, waits for room in the full outbox with one
event in hand, or has sent everything and is fed. So a consumer that asks each time the relay has
gone as far as it can is told before long that there is nothing. Whenever it is told so, it has got
the snapshot and all accepted events, unless there was a stop or an event was rejected, and the
stream is closed exactly if there was one of these or the watch was dropped. -/
theorem progress {world opened : World} {subscriber : Subscriber} {includeExisting : Option Bool}
    {options : WatchOptions} {id : WatchId} {notices : List Notice} {names : List String}
    {watch : Watch}
    (hopen : world.openWatch subscriber includeExisting options = (.ok id, opened, notices))
    (hlist : world.host.list subscriber = .ok names)
    (hwatch : opened.watches[id]? = some watch) (moves : List Move) (room : 0 < limit)
    (enough : ((start watch).run moves).watch.work ≤ turns) :
    let snapshot := world.initialEvents includeExisting options names
    let course := (start watch).run moves
    let settled := course.run (settling limit turns)
    let drained (count : Nat) := course.run (draining limit turns count)
    (settled.watch.step settled.isFed = none ∧
      (∃ more, settled.pushed = course.pushed ++ more ∧ settled.sent = course.sent ++ more ∧
        more.length ≤ course.watch.phase.unsent.length + course.watch.intake.length +
          course.watch.phase.held.length + course.watch.fault.toList.length) ∧
      ∃! standstill, Standstill.describes snapshot settled standstill) ∧
    (∃ count ≤ course.watch.outbox.length + course.watch.owed,
      ∀ event, (drained count).watch.take.1 ≠ .event event) ∧
    ∀ count, (∀ event, (drained count).watch.take.1 ≠ .event event) →
      (.stop ∉ moves → course.rejected = [] →
        (drained count).received = snapshot ++ course.accepted) ∧
      ((drained count).watch.take.1 = .closed ↔
        .stop ∈ moves ∨ .drop ∈ moves ∨ course.rejected ≠ []) := by
  intro snapshot course settled drained
  have sound (more : List Move) : (course.run more).Sound snapshot options.bufferSize.toNat
      options.outputBufferSize.toNat := by
    rw [← run_append]
    exact sound_of_openWatch hopen hlist hwatch (moves ++ more)
  obtain ⟨known, projects, fresh⟩ := start_of_openWatch hopen hwatch
  refine ⟨⟨step_settling room enough, ?_, ?_⟩, ?_, ?_⟩
  · obtain ⟨more, sends⟩ := course.sends_settling limit turns
    exact ⟨more, sends.pushed_eq, sends.sent_eq,
      (Nat.le_add_right _ _).trans sends.owed_le⟩
  · exact (sound _).existsUnique_standstill (step_settling room enough)
  · obtain ⟨count, within, outbox⟩ := course.exists_outbox_nil limit turns
    refine ⟨count, within, fun event => ?_⟩
    simp only [drained, Watch.take, outbox]
    split <;> simp
  · intro count nothing
    have outbox : (drained count).watch.outbox = [] := by
      cases outbox : (drained count).watch.outbox with
      | nil => rfl
      | cons event rest => exact absurd (by simp [Watch.take, outbox]) (nothing event)
    obtain ⟨-, possible, -⟩ := World.openWatch_eq_ok_iff.mp hopen
    have caughtUp := (sound (draining limit turns count)).caughtUp
      (step_draining room enough count) outbox (History.outputBufferSize_pos possible)
    have unhandled (move : Move) (member : move ∈ draining limit turns count)
        (lookup : Lookup) (change : AccessChange) : move ≠ .handle lookup change := by
      obtain rfl | rfl := mem_draining member <;> simp
    have accepted : (drained count).accepted = course.accepted :=
      run_eq_of_unhandled (·.accepted) accepted_make unhandled course
    have rejected : (drained count).rejected = course.rejected :=
      run_eq_of_unhandled (·.rejected) rejected_make unhandled course
    have stopped : (drained count).watch.isStopped = true ↔ .stop ∈ moves := by
      have other : Move.stop ∉ draining limit turns count := fun member => by
        cases mem_draining member <;> contradiction
      have running : (start watch).watch.isStopped = false := by simp [start, fresh, Watch.start]
      simp [drained, course, isStopped_run, running, other]
    have dropped : (drained count).isFed = false ↔ .drop ∈ moves := by
      have other : Move.drop ∉ draining limit turns count := fun member => by
        cases mem_draining member <;> contradiction
      have fed : (start watch).isFed = true := rfl
      simp [drained, course, isFed_run, fed, other]
    rw [stopped, dropped, accepted, rejected, ← Bool.not_eq_true, stopped] at caughtUp
    exact caughtUp

theorem progress_blocked :
    let world := { World.fresh (.double ⟨.ok ["b", "a"], [], []⟩) with
      directory := (Directory.empty.upsert (.active "a")).2 }
    let options : WatchOptions := ⟨2, 1, true⟩
    let opened := (world.openWatch ⟨"u", []⟩ none options).2.1
    let watch := Watch.start 1 ⟨"u", []⟩ options (.ofNames ["b", "a"])
      [(Namespace.active "a").project]
    let grant (name : String) : Move := .handle (fun name => .ok (.active name))
      ⟨name, ⟨.ofNames ["u"], ∅⟩, .nobody, ⟨.ofNames ["u"], ∅⟩⟩
    let course := (start watch).run [grant "a", .poll 1, grant "c", .drop]
    let settled := course.run (settling 1 9)
    let drained := course.run (draining 1 9 3)
    (world.openWatch ⟨"u", []⟩ none options).1 = .ok 1 ∧
    world.host.list ⟨"u", []⟩ = .ok ["b", "a"] ∧ opened.watches[1]? = some watch ∧
    course.watch.work ≤ 9 ∧ settled.watch.step settled.isFed = none ∧
    settled.watch.phase.isSending = true ∧ drained.watch.take.1 = .closed ∧
    drained.received = world.initialEvents none options ["b", "a"] ++ course.accepted := by
  intro world options opened watch grant course settled drained
  have hopen : world.openWatch ⟨"u", []⟩ none options = (.ok 1, opened, _) := rfl
  have hlist : world.host.list ⟨"u", []⟩ = .ok ["b", "a"] := rfl
  have hwatch : opened.watches[1]? = some watch := by decide
  have enough : course.watch.work ≤ 9 := by decide
  have nothing : drained.watch.take.1 = .closed := by decide +kernel
  obtain ⟨⟨waits, -, -⟩, -, caughtUp⟩ :=
    progress hopen hlist hwatch [grant "a", .poll 1, grant "c", .drop] Nat.one_pos enough
  obtain ⟨received, -⟩ := caughtUp 3 fun event other => by cases nothing.symm.trans other
  exact ⟨rfl, hlist, hwatch, enough, waits, by decide, nothing,
    received (by simp [grant]) (by decide)⟩

end Course
end AccessFeed
