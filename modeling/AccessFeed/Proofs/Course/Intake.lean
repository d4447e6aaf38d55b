import AccessFeed.Proofs.Incident
import AccessFeed.Proofs.Turn

/-! What the intake of a watch holds: the accepted events that the relay has not taken.

`Watch.Stocks` reads this off what was told, and every move keeps it. An event that a watch makes of
a change is accepted or rejected by how many of them there are. -/
namespace AccessFeed

namespace Notice

/-- Tells that the relay of a watch took an event from its intake. -/
def isTake (id : WatchId) : Notice → Bool
  | .taken other _ => other == id
  | _ => false

/-- Tells of an event that came to an intake or was taken from one. -/
def isStock : Notice → Bool
  | .queued .. | .taken .. => true
  | _ => false

theorem filterMap_accepted_of_isStock {notices : List Notice}
    (h : ∀ notice ∈ notices, notice.isStock = false) (id : WatchId) :
    notices.filterMap (accepted? id) = [] := by
  rw [List.filterMap_eq_nil_iff]
  intro notice member
  have other := h notice member
  cases notice <;> simp_all [isStock, accepted?]

theorem countP_isTake_of_isStock {notices : List Notice}
    (h : ∀ notice ∈ notices, notice.isStock = false) (id : WatchId) :
    notices.countP (isTake id) = 0 := by
  rw [List.countP_eq_zero]
  intro notice member
  have other := h notice member
  cases notice <;> simp_all [isStock, isTake]

end Notice

namespace Watch

/-- What the intake holds is what was told to be accepted and not to be taken. -/
structure Stocks (watch : Watch) (told : List Notice) : Prop where
  taken_le : told.countP (Notice.isTake watch.id) ≤
    (told.filterMap (Notice.accepted? watch.id)).length
  intake_eq : watch.phase.isFinished = false → watch.intake =
    (told.filterMap (Notice.accepted? watch.id)).drop (told.countP (Notice.isTake watch.id))

variable {watch next : Watch} {told : List Notice} {effects : List Effect} {lookup : Lookup}
  {change : AccessChange} {event : Event}

/-- Notices of other things leave the account of the intake as it is. -/
theorem Stocks.tell (h : watch.Stocks told) {more : List Notice}
    (other : ∀ notice ∈ more, notice.isStock = false) (id : next.id = watch.id)
    (intake : next.phase.isFinished = false →
      watch.phase.isFinished = false ∧ next.intake = watch.intake) :
    next.Stocks (told ++ more) := by
  have same : (told ++ more).filterMap (Notice.accepted? watch.id) =
        told.filterMap (Notice.accepted? watch.id) ∧
      (told ++ more).countP (Notice.isTake watch.id) =
        told.countP (Notice.isTake watch.id) := by
    simp [Notice.filterMap_accepted_of_isStock other, Notice.countP_isTake_of_isStock other]
  refine ⟨?_, fun active => ?_⟩
  · rw [id, same.1, same.2]
    exact h.taken_le
  · obtain ⟨before, kept⟩ := intake active
    rw [id, same.1, same.2, kept]
    exact h.intake_eq before

theorem Stocks.arrive (h : watch.Stocks told) (arrival : watch.Arrival event next effects) :
    next.Stocks (told ++ Effect.notices effects) := by
  cases arrival with
  | accept active room =>
    have all : (told ++ [Notice.queued watch.id event]).filterMap (Notice.accepted? watch.id) =
        told.filterMap (Notice.accepted? watch.id) ++ [event] := by
      simp [Notice.accepted?]
    have taken : (told ++ [Notice.queued watch.id event]).countP (Notice.isTake watch.id) =
        told.countP (Notice.isTake watch.id) := by
      simp [Notice.isTake]
    refine ⟨?_, fun _ => ?_⟩
    · simp only [Effect.notices_note, Effect.notices_nil, all, taken, List.length_append]
      exact Nat.le_add_right_of_le h.taken_le
    · simp only [Effect.notices_note, Effect.notices_nil, all, taken]
      rw [List.drop_append_of_le_length h.taken_le, ← h.intake_eq active]
  | discard finished =>
    exact h.tell (by simp [Notice.isStock]) rfl fun active => ⟨active, rfl⟩
  | fail active full fault =>
    exact h.tell (by simp [Notice.isStock]) rfl fun active => ⟨active, rfl⟩
  | failAgain active full fault =>
    exact h.tell (by simp [Notice.isStock]) rfl fun active => ⟨active, rfl⟩

theorem Stocks.advance {fed : Bool} (advance : watch.Advance fed next effects)
    (h : watch.Stocks told) : next.Stocks (told ++ Effect.notices effects) := by
  cases advance with
  | @takeEvent event rest phase running intake =>
    have held := h.intake_eq (by rw [phase]; rfl)
    rw [intake] at held
    have all : (told ++ [Notice.taken watch.id rest.length]).filterMap (Notice.accepted? watch.id) =
        told.filterMap (Notice.accepted? watch.id) := by
      simp [Notice.accepted?]
    have taken : (told ++ [Notice.taken watch.id rest.length]).countP (Notice.isTake watch.id) =
        told.countP (Notice.isTake watch.id) + 1 := by
      simp [Notice.isTake]
    have more := congrArg List.length held
    rw [List.length_cons, List.length_drop] at more
    refine ⟨?_, fun _ => ?_⟩
    · simp only [Effect.notices_note, Effect.notices_nil, all, taken]
      omega
    · simp only [Effect.notices_note, Effect.notices_nil, all, taken]
      rw [← List.drop_drop, ← held]
      rfl
  | catchUp phase | findFault phase | replay phase | sendReplay phase | sendLive phase
  | takeFault phase =>
    exact h.tell (by simp [Notice.isStock]) rfl fun _ =>
      ⟨by rw [phase]; rfl, rfl⟩
  | quit | starve | sendFailure =>
    exact h.tell (by simp [finish, Notice.isStock]) rfl fun active =>
       by simp [finish, Phase.isFinished] at active

theorem Stocks.handle (h : watch.Stocks told) (lookup : Lookup) (change : AccessChange) :
    (watch.handle lookup change).1.Stocks
      (told ++ Effect.notices (watch.handle lookup change).2) := by
  have handling := watch.handling_handle lookup change
  generalize watch.handle lookup change = result at handling ⊢
  obtain ⟨next, effects⟩ := result
  dsimp only at handling ⊢
  cases handling with
  | ignore => simpa using h
  | skip =>
    exact h.tell (by simp [Notice.isStock]) rfl fun active => ⟨active, rfl⟩
  | revoke revoked known arrival =>
    exact @Stocks.arrive { watch with known := watch.known.erase change.name } _ _ _ _
      ⟨h.taken_le, h.intake_eq⟩ arrival
  | @grant object granted resolved _ effects arrival =>
    have asked : ({ watch with known := watch.known.insert change.name } : Watch).Stocks
        (told ++ [.asked change.name true]) :=
      h.tell (by simp [Notice.isStock]) rfl fun active => ⟨active, rfl⟩
    simpa using asked.arrive arrival

theorem Stocks.poll (h : watch.Stocks told) (fed : Bool) (limit : Nat) :
    (watch.poll fed limit).1.Stocks (told ++ Effect.notices (watch.poll fed limit).2) := by
  refine poll_induction Stocks.advance (fun h => ?_) (fun _ _ _ h => ⟨h.taken_le, h.intake_eq⟩) h
    limit
  exact h.tell (by simp [Notice.isStock]) rfl fun active => ⟨active, rfl⟩

/-- A change that the watch makes an event of brings that event to its intake. -/
theorem arrival_of_announced (h : watch.announced? lookup change = some event) :
    ∃ known asked effects, asked.filterMap (Notice.accepted? watch.id) = [] ∧
      asked.filterMap (Notice.rejected? watch.id) = [] ∧
      Arrival { watch with known } event (watch.handle lookup change).1 effects ∧
      Effect.notices (watch.handle lookup change).2 = asked ++ Effect.notices effects := by
  have handling := watch.handling_handle lookup change
  generalize watch.handle lookup change = result at handling ⊢
  obtain ⟨next, effects⟩ := result
  dsimp only at handling ⊢
  cases handling with
  | ignore unconcerned =>
    obtain unaffected | ⟨revoked, unknown⟩ := unconcerned
    · simp [announced?, unaffected] at h
    · simp [announced?, announcement?, revoked, unknown] at h
  | skip granted unresolved =>
    simp [announced?, announcement?, granted, unresolved, Except.toOption] at h
  | revoke revoked known arrival =>
    have same : Event.deleted (.named change.name) = event := by
      simpa [announced?, announcement?, revoked, known] using h
    exact ⟨_, [], effects, rfl, rfl, same ▸ arrival, rfl⟩
  | @grant object granted resolved _ effects arrival =>
    have same : (if change.name ∈ watch.known then Event.modified object.project
        else .added object.project) = event := by
      simpa [announced?, announcement?, granted, resolved, Except.toOption] using h
    exact ⟨_, [.asked change.name true], effects, rfl, rfl, same ▸ arrival, rfl⟩

/-- A change that the watch makes no event of leaves the watch as it is. -/
theorem handle_of_unannounced (h : watch.announced? lookup change = none) :
    (watch.handle lookup change).1 = watch ∧
      ∀ notice ∈ Effect.notices (watch.handle lookup change).2, notice.isAside = true := by
  have handling := watch.handling_handle lookup change
  generalize watch.handle lookup change = result at handling ⊢
  obtain ⟨next, effects⟩ := result
  dsimp only at handling ⊢
  cases handling with
  | ignore => simp
  | skip => simp [Notice.isAside]
  | revoke revoked known => simp [announced?, announcement?, revoked, known] at h
  | grant granted resolved =>
    simp [announced?, announcement?, granted, resolved, Except.toOption] at h

end Watch

namespace Course

variable {course : Course} {watch : Watch} {lookup : Lookup} {change : AccessChange} {event : Event}

theorem stocks_make (h : course.watch.Stocks course.notices) (move : Move) :
    (course.make move).watch.Stocks (course.make move).notices := by
  cases move with
  | handle lookup change => exact h.handle lookup change
  | poll limit => exact h.poll course.isFed limit
  | take =>
    rw [make_take]
    unfold Watch.take
    split
    · exact ⟨h.taken_le, h.intake_eq⟩
    · exact h
  | stop =>
    simp only [make, Watch.stop]
    split
    · simpa [advance] using h
    · exact h.tell (by simp [Notice.isStock]) rfl fun active => ⟨active, rfl⟩
  | drop => exact ⟨h.taken_le, h.intake_eq⟩

theorem stocks_run (h : course.watch.Stocks course.notices) (moves : List Move) :
    (course.run moves).watch.Stocks (course.run moves).notices := by
  induction moves generalizing course with
  | nil => exact h
  | cons move moves ih => exact ih (stocks_make h move)

/-- The accepted events that the relay has not taken yet, oldest first. -/
def untaken (course : Course) : List Event :=
  course.accepted.drop (course.notices.countP (Notice.isTake course.watch.id))

/-- What the intake of a watch holds is what it accepted and the relay did not take. -/
theorem untaken_eq_intake (fresh : watch.intake = []) (moves : List Move)
    (active : ((start watch).run moves).watch.phase.isFinished = false) :
    ((start watch).run moves).untaken = ((start watch).run moves).watch.intake := by
  have stocks : (start watch).watch.Stocks (start watch).notices :=
    ⟨Nat.le_refl _, fun _ => fresh⟩
  exact ((stocks_run stocks moves).intake_eq active).symm

/-- An event that the watch makes of a change is accepted while there is room in the intake and
rejected when there is none. -/
theorem make_handle_of_announced (active : course.watch.phase.isFinished = false)
    (announced : course.watch.announced? lookup change = some event) :
    let next := course.make (.handle lookup change)
    (course.watch.intake.length < course.watch.intakeLimit ∧
        next.accepted = course.accepted ++ [event] ∧ next.rejected = course.rejected ∧
        next.watch.intake = course.watch.intake ++ [event] ∧
        next.watch.fault = course.watch.fault) ∨
      (course.watch.intakeLimit ≤ course.watch.intake.length ∧
        next.accepted = course.accepted ∧ next.rejected = course.rejected ++ [event] ∧
        next.watch.intake = course.watch.intake) := by
  obtain ⟨known, asked, effects, silent, silent', arrival, told⟩ :=
    Watch.arrival_of_announced announced
  have id := id_make course (.handle lookup change)
  have notices : (course.make (.handle lookup change)).notices =
      course.notices ++ (asked ++ Effect.notices effects) := by rw [← told]; rfl
  simp only [accepted, rejected, id, notices, List.filterMap_append, silent, silent',
    List.nil_append]
  have watch : (course.make (.handle lookup change)).watch =
      (course.watch.handle lookup change).1 := rfl
  rw [watch]
  generalize (course.watch.handle lookup change).1 = after at arrival
  generalize course.notices.filterMap (Notice.accepted? course.watch.id) = taken
  generalize course.notices.filterMap (Notice.rejected? course.watch.id) = refused
  cases arrival with
  | discard finished => rw [active] at finished; cases finished
  | accept _ room =>
    exact .inl ⟨room, by simp [Notice.accepted?], by simp [Notice.rejected?], rfl, rfl⟩
  | fail _ full =>
    exact .inr ⟨full, by simp [Notice.accepted?], by simp [Notice.rejected?], rfl⟩
  | failAgain _ full =>
    exact .inr ⟨full, by simp [Notice.accepted?], by simp [Notice.rejected?], rfl⟩

/-- A change that a watch makes no event of leaves it, and what was accepted and rejected, as they
were. -/
theorem make_handle_of_unannounced (silent : course.watch.announced? lookup change = none) :
    let next := course.make (.handle lookup change)
    next.watch = course.watch ∧ next.accepted = course.accepted ∧
      next.rejected = course.rejected := by
  obtain ⟨same, asides⟩ := Watch.handle_of_unannounced silent
  refine ⟨same, ?_, ?_⟩
  · simp [accepted, make, advance, same, Notice.filterMap_accepted_of_isAside asides]
  · simp [rejected, make, advance, same, Notice.filterMap_rejected_of_isAside asides]

end Course
end AccessFeed
