import AccessFeed.Proofs.Course.Conservation

/-! How the relay of a watch ends, and what the consumer has got by then.

A stop ends it without an error. Otherwise it ends because nobody is left to hand the watch a
change, with nothing lost, or with the error that the first rejected event calls for. -/
namespace AccessFeed
namespace Course

variable {move : Move} {course next : Course} {snapshot : List Event}

theorem Change.isStopped_eq (change : Change move course next) (h : move ≠ .stop) :
    next.watch.isStopped = course.watch.isStopped := by
  cases change with
  | arrive kind regular arrival => cases arrival <;> rfl
  | relay kind advance => cases advance <;> rfl
  | stop kind => exact absurd kind h
  | _ => rfl

theorem Change.isFed_eq (change : Change move course next) (h : move ≠ .drop) :
    next.isFed = course.isFed := by
  cases change with
  | drop kind => exact absurd kind h
  | _ => rfl

theorem Change.phase_eq (change : Change move course next) (h : ∀ limit, move ≠ .poll limit) :
    next.watch.phase = course.watch.phase := by
  cases change with
  | arrive kind regular arrival => cases arrival <;> rfl
  | relay kind advance => exact absurd kind (h _)
  | _ => rfl

theorem isStopped_make (course : Course) (move : Move) :
    (course.make move).watch.isStopped = true ↔ course.watch.isStopped = true ∨ move = .stop := by
  by_cases h : move = .stop
  · subst h
    have stopped : course.watch.stop.1.isStopped = true := by
      unfold Watch.stop
      split
      · assumption
      · rfl
    simpa [make] using stopped
  · have same : (course.make move).watch.isStopped = course.watch.isStopped :=
      make_eq (·.watch.isStopped) (fun change => change.isStopped_eq h) course
    simp [same, h]

/-- What comes about by a move of one kind alone holds if it held before or the move was made. -/
theorem run_iff (holds : Course → Prop) {kind : Move}
    (make_iff : ∀ course move, holds (course.make move) ↔ holds course ∨ move = kind)
    (course : Course) (moves : List Move) :
    holds (course.run moves) ↔ holds course ∨ kind ∈ moves := by
  induction moves generalizing course with
  | nil => simp
  | cons move moves ih =>
    rw [run_cons, ih, make_iff, List.mem_cons, or_assoc, @eq_comm _ move]

theorem isStopped_run (course : Course) (moves : List Move) :
    (course.run moves).watch.isStopped = true ↔
      course.watch.isStopped = true ∨ .stop ∈ moves :=
  run_iff (·.watch.isStopped = true) isStopped_make course moves

theorem isFed_make (course : Course) (move : Move) :
    (course.make move).isFed = false ↔ course.isFed = false ∨ move = .drop := by
  by_cases h : move = .drop
  · subst h
    simp [make]
  · have same : (course.make move).isFed = course.isFed :=
      make_eq (·.isFed) (fun change => change.isFed_eq h) course
    simp [same, h]

theorem isFed_run (course : Course) (moves : List Move) :
    (course.run moves).isFed = false ↔ course.isFed = false ∨ .drop ∈ moves :=
  run_iff (·.isFed = false) isFed_make course moves

/-- Only a turn of the relay changes its phase. -/
theorem phase_make (h : ∀ limit, move ≠ .poll limit) (course : Course) :
    (course.make move).watch.phase = course.watch.phase :=
  make_eq (·.watch.phase) (fun change => change.phase_eq h) course

/-- A relay that has ended stays so. -/
theorem Change.phase_of_finished {exit : Exit} (change : Change move course next)
    (h : course.watch.phase = .finished exit) : next.watch.phase = .finished exit := by
  cases change with
  | arrive kind regular arrival => cases arrival <;> exact h
  | relay kind advance => cases advance <;> simp_all [Phase.isSending]
  | _ => exact h

theorem phase_run_of_finished {exit : Exit} (h : course.watch.phase = .finished exit)
    (moves : List Move) : (course.run moves).watch.phase = .finished exit :=
  run_induction Change.phase_of_finished h moves

/-- A relay ends in one of its turns. -/
theorem exists_last_turn {moves : List Move} {exit : Exit}
    (active : course.watch.phase.isFinished = false)
    (h : (course.run moves).watch.phase = .finished exit) :
    ∃ before limit after, moves = before ++ .poll limit :: after ∧
      (course.run before).watch.phase.isFinished = false ∧
      (course.run (before ++ [.poll limit])).watch.phase = .finished exit := by
  induction moves generalizing course with
  | nil =>
    rw [run_nil] at h
    simp [h, Phase.isFinished] at active
  | cons move moves ih =>
    cases finished : (course.make move).watch.phase.isFinished with
    | false =>
      obtain ⟨before, limit, after, rfl, running, ended⟩ := ih finished h
      exact ⟨move :: before, limit, after, rfl, running, ended⟩
    | true =>
      cases phase : (course.make move).watch.phase with
      | finished other =>
        have same : other = exit := by
          rw [run_cons, phase_run_of_finished phase] at h
          exact Phase.finished.inj h
        cases move with
        | poll limit => exact ⟨[], limit, moves, rfl, active, same ▸ phase⟩
        | _ =>
          rw [phase_make (by simp)] at finished
          rw [finished] at active
          cases active
      | _ => simp [phase, Phase.isFinished] at finished

/-- After a stop the relay ends in no other way. -/
theorem exit_of_isStopped {exit : Exit} (stopped : course.watch.isStopped = true)
    (active : course.watch.phase.isFinished = false) (moves : List Move)
    (h : (course.run moves).watch.phase = .finished exit) : exit = .stopped := by
  -- the flag has to go with the phase: it is what rules out the other ends at each small change
  have keep {move : Move} {course next : Course} (change : Change move course next)
      (h : course.watch.isStopped = true ∧
        ∀ exit, course.watch.phase = .finished exit → exit = .stopped) :
      next.watch.isStopped = true ∧
        ∀ exit, next.watch.phase = .finished exit → exit = .stopped := by
    cases change with
    | arrive kind regular arrival => cases arrival <;> exact h
    | relay kind advance => cases advance <;> simp_all [Watch.finish]
    | stop kind => exact ⟨rfl, h.2⟩
    | _ => exact h
  refine (@run_induction (fun course => course.watch.isStopped = true ∧
    ∀ exit, course.watch.phase = .finished exit → exit = .stopped) keep course
    ⟨stopped, ?_⟩ moves).2 exit h
  intro other phase
  simp [phase, Phase.isFinished] at active

theorem rejected_of_blame {cause : Overflow} (h : course.blame = some cause) :
    ∃ event, course.rejected.head? = some event ∧
      cause = if event.kind = .deleted then .deletion else .addition := by
  obtain ⟨event, first, rfl⟩ := Option.map_eq_some_iff.mp h
  refine ⟨event, first, ?_⟩
  cases event <;> rfl

/-- A relay that was not stopped ends in one of two ways. If no event was ever rejected, it ends
because the watch was dropped, and all events of the snapshot and of the intake were sent.
Otherwise it ends with the error that the first rejected event calls for. The error is the last
event sent, after a strict part of the snapshot, or after the whole snapshot and at least all that
was accepted before the first rejection. A relay that was stopped ends without an error. -/
theorem outcome {world opened : World} {subscriber : Subscriber}
    {includeExisting : Option Bool} {options : WatchOptions} {id : WatchId}
    {notices : List Notice} {names : List String} {watch : Watch}
    (hopen : world.openWatch subscriber includeExisting options = (.ok id, opened, notices))
    (hlist : world.host.list subscriber = .ok names)
    (hwatch : opened.watches[id]? = some watch) {moves : List Move} {exit : Exit}
    (hexit : ((start watch).run moves).watch.phase = .finished exit) :
    let snapshot := world.initialEvents includeExisting options names
    let course := (start watch).run moves
    (∀ event ∈ snapshot ++ course.accepted, event.kind ≠ .error) ∧
    ∃ before limit after, moves = before ++ .poll limit :: after ∧
      ((start watch).run before).watch.phase.isFinished = false ∧
      ((start watch).run (before ++ [.poll limit])).watch.phase = .finished exit ∧
      (Move.stop ∉ before →
        (course.rejected = [] ∧ exit = .producerGone ∧ Move.drop ∈ before ∧
          course.sent = snapshot ++ course.accepted) ∨
        ∃ event cause sent, course.rejected.head? = some event ∧
          cause = (if event.kind = .deleted then .deletion else .addition) ∧
          exit = .failed cause ∧ course.sent = sent ++ [.error ⟨.failure, cause.message⟩] ∧
          ((sent <+: snapshot ∧ sent ≠ snapshot) ∨
            ∃ live, sent = snapshot ++ live ∧ live <+: course.accepted ∧
              course.timely <+: live)) ∧
      (Move.stop ∈ before → exit = .stopped ∧ course.sent <+: snapshot ++ course.accepted) := by
  intro snapshot course
  have sound (moves : List Move) : ((start watch).run moves).Sound snapshot _ _ :=
    sound_of_openWatch hopen hlist hwatch moves
  obtain ⟨known, projects, fresh⟩ := start_of_openWatch hopen hwatch
  have ⟨before, limit, after, split, active, ended⟩ :=
    exists_last_turn (by subst fresh; rfl) hexit
  have flow := (sound moves).flow
  have blame := (sound moves).blame
  simp only [Flow, hexit] at flow
  simp only [Blame, hexit] at blame
  refine ⟨fun event member => (sound moves).kind_ne_error member,
    before, limit, after, split, active, ended, ?_, ?_⟩
  · intro free
    have last := (sound (before ++ [.poll limit])).blame
    simp only [Blame, ended] at last
    cases exit with
    | stopped =>
      obtain stopped | member := (isStopped_run _ _).mp last
      · subst fresh
        cases stopped
      · simp [free] at member
    | producerGone =>
      have dropped := (isFed_run _ _).mp last.2
      refine .inl ⟨blame.1, rfl, by simpa [start] using dropped, flow⟩
    | failed cause =>
      obtain ⟨event, first, kind⟩ := rejected_of_blame blame
      obtain ⟨sent, all, cut⟩ := flow
      exact .inr ⟨event, cause, sent, first, kind, rfl, all, cut⟩
  · intro stop
    have stopped := (isStopped_run (start watch) before).mpr (.inr stop)
    have last : exit = .stopped := by
      rw [run_append] at ended
      exact exit_of_isStopped stopped active _ ended
    subst last
    exact ⟨rfl, flow⟩

theorem outcome_overflow_then_drop :
    let world := { World.fresh (.double ⟨.ok ["b", "a"], [], []⟩) with
      directory := (Directory.empty.upsert (.active "a")).2 }
    let options : WatchOptions := ⟨1, 1, true⟩
    let opened := (world.openWatch ⟨"u", []⟩ none options).2.1
    let watch := Watch.start 1 ⟨"u", []⟩ options (.ofNames ["b", "a"])
      [(Namespace.active "a").project]
    let visible : Access := ⟨.ofNames ["u"], ∅⟩
    let grant (name : String) : Move := .handle (fun name => .ok (.active name))
      ⟨name, visible, .nobody, visible⟩
    let revokeB : Move := .handle (fun name => .ok (.active name)) ⟨"b", .nobody, visible, .nobody⟩
    let moves : List Move := [.poll 128, grant "a", revokeB, grant "c", .drop, .poll 128, .take,
      .poll 128, .take, .poll 128]
    let course := (start watch).run moves
    (world.openWatch ⟨"u", []⟩ none options).1 = .ok 1 ∧
    world.host.list ⟨"u", []⟩ = .ok ["b", "a"] ∧ opened.watches[1]? = some watch ∧
    course.watch.phase = .finished (.failed .deletion) ∧
    course.sent.getLast? = some (.error ⟨.failure, Overflow.deletion.message⟩) := by
  intro world options opened watch visible grant revokeB moves course
  have hopen : world.openWatch ⟨"u", []⟩ none options = (.ok 1, opened, _) := rfl
  have hlist : world.host.list ⟨"u", []⟩ = .ok ["b", "a"] := rfl
  have hwatch : opened.watches[1]? = some watch := by decide
  have hexit : course.watch.phase = .finished (.failed .deletion) := by decide
  obtain ⟨-, before, limit, after, split, -, -, unstopped, -⟩ := outcome hopen hlist hwatch hexit
  have free : Move.stop ∉ before := by
    intro member
    have : Move.stop ∈ moves := split ▸ List.mem_append_left _ member
    simp [moves, grant, revokeB] at this
  refine ⟨rfl, hlist, hwatch, hexit, ?_⟩
  obtain ⟨-, kind, -⟩ | ⟨event, cause, sent, -, -, exit, all, -⟩ := unstopped free
  · cases kind
  · cases exit
    rw [all, List.getLast?_append]
    rfl

end Course
end AccessFeed
