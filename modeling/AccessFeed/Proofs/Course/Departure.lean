import AccessFeed.Proofs.Course

/-! When a watch asks to be taken out of its catalog: as soon as its relay ends or an event meets a
full intake, and never before. -/
namespace AccessFeed
namespace Course

variable {move : Move} {course next : Course}

/-- The watch has asked to leave exactly if it has nothing more to do with changes. -/
def Departs (course : Course) : Prop :=
  course.hasLeft = true ↔ course.watch.phase.isFinished = true ∨ course.rejected ≠ []

theorem Departs.congr (h : course.Departs) (left : next.hasLeft = course.hasLeft)
    (phase : next.watch.phase.isFinished = course.watch.phase.isFinished)
    (rejected : next.rejected = course.rejected) : next.Departs := by
  rw [Departs, left, phase, rejected]
  exact h

theorem Departs.arrive {event : Event} {watch : Watch} {effects : List Effect}
    (arrival : course.watch.Arrival event watch effects) (h : course.Departs) :
    (course.advance (watch, effects)).Departs := by
  cases arrival with
  | discard finished => simp [Departs, advance, finished]
  | accept active room =>
    refine h.congr (by simp [advance]) rfl ?_
    rw [rejected_advance rfl]
    simp [Notice.rejected?]
  | fail active full fault | failAgain active full fault =>
    refine ⟨fun _ => .inr ?_, fun _ => by simp [advance]⟩
    rw [rejected_advance rfl]
    simp [Notice.rejected?]

theorem Departs.relay {watch : Watch} {effects : List Effect}
    (advance : course.watch.Advance course.isFed watch effects) (h : course.Departs) :
    (course.advance (watch, effects)).Departs := by
  have rejected := rejected_relay advance
  simp only [Departs, rejected] at h ⊢
  cases advance with
  | quit phase stopped => simp [Course.advance, Watch.finish, Phase.isFinished]
  | starve phase running intake fault unfed =>
    simp [Course.advance, Watch.finish, Phase.isFinished]
  | sendFailure phase running room => simp [Course.advance, Watch.finish, Phase.isFinished]
  | _ => simp_all [Course.advance, Phase.isFinished]

theorem Departs.change (change : Change move course next) (h : course.Departs) : next.Departs := by
  cases change with
  | aside known begun isDue heedsIntake heedsFault told asides =>
    have same := Notice.filterMap_rejected_of_isAside asides course.watch.id
    exact h.congr rfl rfl (by simp [rejected, same])
  | arrive kind regular arrival => exact h.arrive arrival
  | relay kind advance => exact h.relay advance
  | _ => exact h.congr rfl rfl rfl

theorem departs_run {watch : Watch} (h : watch.phase.isFinished = false) (moves : List Move) :
    ((start watch).run moves).Departs :=
  run_induction Departs.change (by simp [Departs, start, rejected, h]) moves

end Course
end AccessFeed
