import AccessFeed.Proofs.Course.Ending

/-! What a stop does to a watch: its relay sends nothing more and ends in its next turn, wherever it
stands. -/
namespace AccessFeed

namespace Notice

/-- The event that the relay of a watch passed on. -/
def pushed? (id : WatchId) : Notice → Option Event
  | .pushed other event => if other = id then some event else none
  | _ => none

theorem pushed?_of_ne {id : WatchId} {notice : Notice} (h : notice.watch? ≠ some id) :
    notice.pushed? id = none := by
  cases notice <;> simp_all [pushed?, watch?]

theorem filterMap_pushed_of_isAside {notices : List Notice}
    (h : ∀ notice ∈ notices, notice.isAside = true) (id : WatchId) :
    notices.filterMap (pushed? id) = [] := by
  rw [List.filterMap_eq_nil_iff]
  intro notice member
  have aside := h notice member
  cases notice <;> simp_all [isAside, pushed?]

/-- Tells that a watch was asked to end. -/
def isStop : Notice → Bool
  | .stopped _ => true
  | _ => false

end Notice

namespace Watch

variable {watch : Watch} {fed : Bool}

theorem run_of_finished {exit : Exit} (phase : watch.phase = .finished exit) (fuel limit : Nat) :
    (watch.run fed fuel limit).watch = watch := by
  cases fuel with
  | zero => rfl
  | succ fuel => simp [run, step, phase, Phase.cost]

theorem phase_run_of_step {fuel limit : Nat} (room : 0 < limit)
    (step : watch.step fed = some (watch.finish .stopped)) :
    (watch.run fed (fuel + 1) limit).watch.phase = .finished .stopped := by
  have cost : ¬ limit < watch.phase.cost := by
    cases watch.phase <;> simp [Phase.cost] <;> omega
  rw [run, if_neg cost, step]
  have finished : (watch.finish .stopped).1.phase = .finished .stopped := rfl
  exact (congrArg phase (run_of_finished finished _ _)).trans finished

/-- A relay that was asked to end does so in its next turn, after at most one step more. -/
theorem phase_run_of_isStopped (stopped : watch.isStopped = true)
    (active : watch.phase.isFinished = false) {fuel limit : Nat} (room : 0 < limit)
    (enough : watch.work ≤ fuel) :
    (watch.run fed fuel limit).watch.phase = .finished .stopped := by
  by_cases past : watch.phase = .live ∨ watch.phase.isSending = true
  · have quit := @step_of_isStopped watch fed stopped past
    have work : 0 < watch.work := Nat.lt_of_le_of_lt (Nat.zero_le _) (work_step quit)
    obtain ⟨fuel, rfl⟩ := Nat.exists_eq_add_one_of_ne_zero (by omega : fuel ≠ 0)
    exact phase_run_of_step room quit
  · obtain ⟨rest, replaying⟩ : ∃ rest, watch.phase = .replaying rest := by
      cases phase : watch.phase <;> simp_all [Phase.isSending, Phase.isFinished]
    have work : 4 ≤ watch.work := by
      simp only [Watch.work, replaying]
      omega
    obtain ⟨fuel, rfl⟩ := Nat.exists_eq_add_of_le' (by omega : 2 ≤ fuel)
    -- the one step looks for the next project, and leaves the relay where it heeds the stop
    obtain ⟨next, step, kept, live⟩ : ∃ next, watch.step fed = some (next, []) ∧
        next.isStopped = true ∧ (next.phase = .live ∨ next.phase.isSending = true) := by
      cases rest with
      | nil =>
        exact ⟨{ watch with phase := .live }, by simp [Watch.step, replaying], stopped, .inl rfl⟩
      | cons project rest =>
        cases fault : watch.fault with
        | none =>
          exact ⟨{ watch with fault := none, phase := .sendingReplay project rest },
            by simp [Watch.step, replaying, fault], stopped, .inr rfl⟩
        | some cause =>
          exact ⟨{ watch with fault := none, phase := .sendingFailure cause },
            by simp [Watch.step, replaying, fault], stopped, .inr rfl⟩
    have free : ¬ limit < watch.phase.cost := by simp [replaying, Phase.cost]
    have rest := @phase_run_of_step next fed fuel (limit - watch.phase.cost)
      (by simpa [replaying, Phase.cost] using room) (step_of_isStopped kept live)
    rw [run, if_neg free, step]
    exact rest

theorem phase_poll_of_isStopped (stopped : watch.isStopped = true)
    (active : watch.phase.isFinished = false) {limit : Nat} (room : 0 < limit) :
    (watch.poll fed limit).1.phase = .finished .stopped := by
  have begun : watch.begin.1.isStopped = watch.isStopped ∧ watch.begin.1.phase = watch.phase := by
    unfold begin
    split <;> exact ⟨rfl, rfl⟩
  have ended := @phase_run_of_isStopped watch.begin.1 fed (begun.1.trans stopped)
    (by rw [begun.2]; exact active) _ _ room (Nat.le_refl _)
  simp only [poll]
  split <;> exact ended

/-- A watch tells of a stop only when it is asked to end. -/
theorem isStop_of_mem_poll {limit : Nat} {notice : Notice}
    (member : notice ∈ Effect.notices (watch.poll fed limit).2) : notice.isStop = false := by
  refine @forall_mem_poll fed (·.isStop = false) (fun advance => ?_) (fun _ => rfl) watch limit
    notice member
  cases advance <;> simp [finish, push, Notice.isStop]

theorem isStop_of_mem_handle {lookup : Lookup} {change : AccessChange} {notice : Notice}
    (member : notice ∈ Effect.notices (watch.handle lookup change).2) : notice.isStop = false := by
  have arrived {watch next : Watch} {event : Event} {effects : List Effect}
      (arrival : watch.Arrival event next effects) (told : notice ∈ Effect.notices effects) :
      notice.isStop = false := by
    cases arrival <;> simp_all [Notice.isStop]
    rcases told with rfl | rfl <;> rfl
  have handling := watch.handling_handle lookup change
  generalize watch.handle lookup change = result at handling member
  obtain ⟨next, effects⟩ := result
  dsimp only at handling member
  cases handling with
  | ignore => cases member
  | skip =>
    simp only [Effect.notices_note, Effect.notices_nil, List.mem_cons, List.not_mem_nil,
      or_false] at member
    rcases member with rfl | rfl <;> rfl
  | revoke revoked known arrival => exact arrived arrival member
  | grant granted resolved arrival =>
    obtain rfl | told := List.mem_cons.mp member
    · rfl
    · exact arrived arrival told

end Watch

namespace Course

variable {move : Move} {course next : Course}

/-- The events that the relay told to have passed on. -/
def pushed (course : Course) : List Event :=
  course.notices.filterMap (Notice.pushed? course.watch.id)

theorem Change.sent_eq (change : Change move course next)
    (h : course.watch.isStopped = true ∨ ∀ limit, move ≠ .poll limit) :
    next.sent = course.sent ∧ next.pushed = course.pushed := by
  cases change with
  | aside known begun isDue heedsIntake heedsFault told asides =>
    exact ⟨rfl, by simp [pushed, Notice.filterMap_pushed_of_isAside asides]⟩
  | arrive kind regular arrival =>
    cases arrival <;> exact ⟨rfl, by simp [pushed, advance, Notice.pushed?]⟩
  | relay kind advance =>
    obtain stopped | still := h
    · cases advance with
      | quit => exact ⟨rfl, by simp [pushed, Course.advance, Watch.finish, Notice.pushed?]⟩
      | catchUp | findFault | replay => exact ⟨rfl, by simp [pushed, Course.advance]⟩
      | _ => simp_all
    · exact absurd kind (still _)
  | take kind outbox => exact ⟨by simp [sent, outbox], rfl⟩
  | _ => exact ⟨rfl, rfl⟩

theorem Change.pushed_eq_sent (change : Change move course next) (h : course.pushed = course.sent) :
    next.pushed = next.sent := by
  by_cases turn : ∀ limit, move ≠ .poll limit
  · obtain ⟨sent, pushed⟩ := change.sent_eq (.inr turn)
    rw [pushed, h, sent]
  · simp only [pushed, sent] at h
    cases change with
    | aside known begun isDue heedsIntake heedsFault told asides =>
      simp [pushed, sent, Notice.filterMap_pushed_of_isAside asides, h]
    | relay kind advance =>
      cases advance <;>
        simp [pushed, sent, Course.advance, Watch.finish, Watch.push, Notice.pushed?, h]
    | arrive kind | take kind | stop kind | drop kind => simp [kind] at turn

/-- What the relay told to have passed on is what was sent. -/
theorem pushed_run (h : course.pushed = course.sent) (moves : List Move) :
    (course.run moves).pushed = (course.run moves).sent :=
  run_induction Change.pushed_eq_sent h moves

/-- Only a turn of the relay sends anything. -/
theorem sent_make (h : ∀ limit, move ≠ .poll limit) (course : Course) :
    (course.make move).sent = course.sent ∧ (course.make move).pushed = course.pushed :=
  ⟨make_eq sent (fun change => (change.sent_eq (.inr h)).1) course,
    make_eq pushed (fun change => (change.sent_eq (.inr h)).2) course⟩

/-- After a stop nothing is sent. -/
theorem sent_run_of_isStopped (stopped : course.watch.isStopped = true) (moves : List Move) :
    (course.run moves).sent = course.sent ∧ (course.run moves).pushed = course.pushed := by
  have keep {move : Move} {before after : Course} (change : Change move before after)
      (h : before.watch.isStopped = true ∧ before.sent = course.sent ∧
        before.pushed = course.pushed) :
      after.watch.isStopped = true ∧ after.sent = course.sent ∧ after.pushed = course.pushed := by
    obtain ⟨stopped, sent, pushed⟩ := h
    obtain ⟨sent', pushed'⟩ := change.sent_eq (.inl stopped)
    refine ⟨?_, sent'.trans sent, pushed'.trans pushed⟩
    by_cases kind : move = .stop
    · cases change <;> first | exact stopped | rfl | simp_all
    · exact (change.isStopped_eq kind).trans stopped
  exact (@run_induction (fun next => next.watch.isStopped = true ∧ next.sent = course.sent ∧
    next.pushed = course.pushed) keep course ⟨stopped, rfl, rfl⟩ moves).2

/-- How often the watch told that it was asked to end. -/
def stops (course : Course) : Nat := course.notices.count (.stopped course.watch.id)

theorem stops_make {told : List Notice} (made : (course.make move).notices = course.notices ++ told)
    (h : ∀ notice ∈ told, notice.isStop = false) : (course.make move).stops = course.stops := by
  have none : told.count (.stopped course.watch.id) = 0 := by
    rw [List.count_eq_zero]
    intro member
    cases h _ member
  rw [stops, id_make, made, List.count_append, none, stops, Nat.add_zero]

/-- A watch tells once that it was asked to end, when it is asked for the first time. -/
def StopsOnce (course : Course) : Prop :=
  course.stops = if course.watch.isStopped then 1 else 0

theorem StopsOnce.make (h : course.StopsOnce) (move : Move) : (course.make move).StopsOnce := by
  have congr (kind : move ≠ .stop) (stops : (course.make move).stops = course.stops) :
      (course.make move).StopsOnce := by
    have same : (course.make move).watch.isStopped = course.watch.isStopped :=
      make_eq (·.watch.isStopped) (fun change => change.isStopped_eq kind) course
    rw [StopsOnce, same, stops]
    exact h
  cases move with
  | handle lookup change =>
    exact congr (by simp) (stops_make rfl fun _ => Watch.isStop_of_mem_handle)
  | poll limit => exact congr (by simp) (stops_make rfl fun _ => Watch.isStop_of_mem_poll)
  | take =>
    have silent : (course.make .take).notices = course.notices ++ [] := by simp [make_take]
    exact congr (by simp) (stops_make silent (by simp))
  | stop =>
    simp only [StopsOnce, stops, Course.make, Watch.stop] at h ⊢
    split
    · simpa [advance] using h
    · simp_all [advance, Watch.wakeIf]
  | drop => exact congr (by simp) rfl

theorem stopsOnce_run (h : course.StopsOnce) (moves : List Move) :
    (course.run moves).StopsOnce := by
  induction moves generalizing course with
  | nil => exact h
  | cons move moves ih => exact ih (h.make move)

end Course
end AccessFeed
