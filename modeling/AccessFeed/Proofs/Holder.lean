import AccessFeed.Proofs.Backdrop
import AccessFeed.Proofs.Built
import AccessFeed.Proofs.Course.Ending
import AccessFeed.Proofs.History.Follow

/-! Who still holds a part of a watch. A handler is one of a watch that there is, and a consumer that
is gone has stopped its watch, so no relay sends anything to it. -/
namespace AccessFeed

namespace Glimpse

/-- Nothing that comes to a watch makes an end of it, and nothing but an opening makes one. -/
theorem isSome_after (glimpse : Glimpse) (touch : Touch) :
    (glimpse.after touch).watch?.isSome = glimpse.watch?.isSome := by
  have checked (glimpse : Glimpse) :
      glimpse.checkFeed.watch?.isSome = glimpse.watch?.isSome := by
    unfold checkFeed
    split <;> simp
  have acted (action : Watch → Watch × List Effect) :
      (glimpse.act action).watch?.isSome = glimpse.watch?.isSome := by
    unfold act
    cases found : glimpse.watch? with
    | none => simp [found]
    | some watch =>
      dsimp only
      split
      · exact checked _
      · rfl
  cases touch with
  | none | enter => rfl
  | handle | poll | stop => exact acted _
  | take => exact Option.isSome_map
  | leave | release => exact checked _

/-- Once a watch is stopped it is so for good. -/
theorem isStopped_after (glimpse : Glimpse) (touch : Touch)
    (h : glimpse.watch?.all (·.isStopped) = true ∨ touch = .stop) :
    (glimpse.after touch).watch?.all (·.isStopped) = true := by
  have checked (glimpse : Glimpse) :
      glimpse.checkFeed.watch?.all (·.isStopped) = glimpse.watch?.all (·.isStopped) := by
    unfold checkFeed
    split
    · rfl
    · cases glimpse.watch? <;> rfl
  have acted {action : Watch → Watch × List Effect}
      (stops : ∀ watch, glimpse.watch? = some watch → (action watch).1.isStopped = true) :
      (glimpse.act action).watch?.all (·.isStopped) = true := by
    unfold act
    cases found : glimpse.watch? with
    | none => simp [found]
    | some watch =>
      dsimp only
      split
      · exact (checked _).trans (stops watch found)
      · exact stops watch found
  have before (other : touch ≠ .stop) (watch : Watch) (found : glimpse.watch? = some watch) :
      watch.isStopped = true := by
    simpa [found] using h.resolve_right other
  cases touch with
  | none | enter => exact h.resolve_right (by simp)
  | handle lookup change =>
    exact acted fun watch found => (Course.isStopped_make (.start watch)
      (.handle lookup change)).mpr (.inl (before (by simp) watch found))
  | poll =>
    exact acted fun watch found => (Course.isStopped_make ⟨watch, glimpse.isFed, false, [], []⟩
      (.poll World.turnLimit)).mpr (.inl (before (by simp) watch found))
  | take =>
    cases found : glimpse.watch? with
    | none => simp [after, found]
    | some watch =>
      have taken := (Course.isStopped_make (.start watch) .take).mpr
        (.inl (before (by simp) watch found))
      rw [Course.make_take] at taken
      have stays : watch.take.2.isStopped = true := taken
      simp [after, found, stays]
  | stop =>
    exact acted fun watch _ => (Course.isStopped_make (.start watch) .stop).mpr (.inr rfl)
  | leave | release => exact (checked _).trans (h.resolve_right (by simp))

end Glimpse

namespace World

variable {world : World} {id : WatchId}

/-- A handler is one of a watch. -/
def Manned (world : World) : Prop :=
  ∀ id, (world.glimpse id).isHandled = true → (world.glimpse id).watch?.isSome = true

theorem Manned.enact (h : world.Manned) (action : Action) :
    (world.enact action).1.Manned := by
  intro id handled
  by_cases opened : world.opened? action = some id
  · obtain ⟨_, _, _, _, -, watch, found, -⟩ := exists_start_of_opened opened
    exact Option.isSome_of_eq_some found
  · rw [glimpse_enact_of_ne opened] at handled ⊢
    rw [Glimpse.isSome_after]
    refine h id ?_
    cases before : (world.glimpse id).isHandled with
    | true => rfl
    | false => rwa [History.isHandled_after before] at handled

theorem consumers_of_opened {action : Action} (opened : world.opened? action = some id) :
    (world.enact action).1.consumers.contains id = true := by
  rw [(beside_around world action).consumers_eq]
  cases action with
  | openWatch | subscribe => simp [around, opened]
  | _ => cases opened

/-- A consumer reads until it drops its watch. -/
theorem consumers_enact_of_ne {action : Action} (h : action ≠ .dropConsumer id)
    (reads : world.consumers.contains id = true) :
    (world.enact action).1.consumers.contains id = true := by
  rw [(beside_around world action).consumers_eq]
  cases action with
  | setOutage name reason => cases reason <;> exact reads
  | dropConsumer other =>
    have ne : other ≠ id := fun same => h (congrArg _ same)
    simp only [around]
    split
    · simpa [ne] using reads
    · exact reads
  | openWatch | subscribe =>
    simp only [around]
    split
    · simpa using .inr reads
    · exact reads
  | _ => exact reads

/-- A watch whose consumer is gone is stopped. -/
def Abandoned (world : World) : Prop :=
  ∀ id, world.consumers.contains id = false → (world.glimpse id).watch?.all (·.isStopped) = true

theorem Abandoned.enact (h : world.Abandoned) (action : Action) :
    (world.enact action).1.Abandoned := by
  intro id gone
  have unopened : world.opened? action ≠ some id := by
    intro opened
    rw [consumers_of_opened opened] at gone
    cases gone
  rw [glimpse_enact_of_ne unopened]
  refine Glimpse.isStopped_after _ _ ?_
  cases reads : world.consumers.contains id with
  | false => exact .inl (h id reads)
  | true =>
    right
    by_cases drops : action = .dropConsumer id
    · subst drops
      simp [touch, reads]
    · rw [consumers_enact_of_ne drops reads] at gone
      cases gone

end World

namespace History

theorem manned_run {history : History} (h : history.world.Manned) (actions : List Action) :
    (history.run actions).world.Manned := by
  induction actions generalizing history with
  | nil => exact h
  | cons action actions ih => exact ih (h.enact action)

theorem abandoned_run {history : History} (h : history.world.Abandoned) (actions : List Action) :
    (history.run actions).world.Abandoned := by
  induction actions generalizing history with
  | nil => exact h
  | cons action actions ih => exact ih (h.enact action)

/-- Whatever parties do, a relay sends nothing to a consumer that is gone. -/
theorem not_pushed_of_unread (host : Host) (actions : List Action) {id : WatchId}
    {watch next : Watch} {effects : List Effect} {event : Event} :
    let world := ((start (.fresh host)).run actions).world
    world.watches[id]? = some watch → world.consumers.contains id = false →
      watch.step (world.feeds id) = some (next, effects) →
        .note (.pushed watch.id event) ∉ effects := by
  intro world found gone step
  have abandoned : world.Abandoned :=
    abandoned_run (fun _ _ => by simp [start, World.glimpse, World.fresh]) actions
  have stopped : watch.isStopped = true := by
    have held : (world.glimpse id).watch? = some watch := found
    simpa [held] using abandoned id gone
  have advance := Watch.advance_of_step step
  cases advance <;> simp_all [Watch.finish]

end History
end AccessFeed
