import AccessFeed.Proofs.Course

/-! What a turn of a relay keeps of its watch and of what was told so far. A turn is a note of the
first run, then steps, then sleep, so a property that each of these keeps holds after the turn. -/
namespace AccessFeed
namespace Watch

variable {fed : Bool} {p : Watch → List Notice → Prop}
  (step : ∀ {watch next : Watch} {effects : List Effect} {told : List Notice},
    watch.Advance fed next effects → p watch told → p next (told ++ Effect.notices effects))

include step

theorem run_induction {watch : Watch} {told : List Notice} (h : p watch told) (fuel limit : Nat) :
    p (watch.run fed fuel limit).watch
      (told ++ Effect.notices (watch.run fed fuel limit).effects) := by
  induction fuel generalizing watch told limit with
  | zero => simpa [run] using h
  | succ fuel ih =>
    rw [run]
    split
    · simpa using h
    · cases taken : watch.step fed with
      | none => simpa using h
      | some result =>
        obtain ⟨next, effects⟩ := result
        dsimp only
        rw [Effect.notices_append, ← List.append_assoc]
        exact ih (step (advance_of_step taken) h) _

theorem poll_induction
    (begins : ∀ {watch : Watch} {told : List Notice}, p watch told →
      p { watch with begun := true } (told ++ [.begun watch.id]))
    (sleeps : ∀ {watch : Watch} {told : List Notice} (isDue heedsIntake heedsFault : Bool),
      p watch told → p { watch with isDue, heedsIntake, heedsFault } told)
    {watch : Watch} {told : List Notice} (h : p watch told) (limit : Nat) :
    p (watch.poll fed limit).1 (told ++ Effect.notices (watch.poll fed limit).2) := by
  have begun : p watch.begin.1 (told ++ Effect.notices watch.begin.2) := by
    unfold begin
    split
    · simpa using h
    · exact begins h
  have ran := run_induction step begun watch.begin.1.work limit
  rw [List.append_assoc, ← Effect.notices_append] at ran
  simp only [poll]
  split
  · exact sleeps _ _ _ ran
  · exact sleeps _ _ _ ran

end Watch
end AccessFeed
