import AccessFeed.Watch

/-! What handing a change to a watch can do, case by case: whether an event is made of the change,
and what becomes of that event at the intake. -/
namespace AccessFeed
namespace Watch

/-- What becomes of an event that the handler hands to the relay. -/
inductive Arrival (watch : Watch) (event : Event) : Watch → List Effect → Prop
  /-- The relay has ended. -/
  | discard (finished : watch.phase.isFinished = true) :
      Arrival watch event watch [.note (.discarded watch.id event), .leave]
  /-- There is room. -/
  | accept (active : watch.phase.isFinished = false)
      (room : watch.intake.length < watch.intakeLimit) :
      Arrival watch event
        { watch with
          intake := watch.intake ++ [event]
          heedsIntake := false
          isDue := watch.isDue || watch.heedsIntake }
        [.note (.queued watch.id event)]
  /-- The intake is full for the first time, or the error of an earlier time was taken. -/
  | fail (active : watch.phase.isFinished = false)
      (full : watch.intakeLimit ≤ watch.intake.length) (fault : watch.fault = none) :
      Arrival watch event
        { watch with
          fault := some event.overflow
          heedsFault := false
          isDue := watch.isDue || watch.heedsFault }
        [.note (.overflowed watch.id watch.subscriber.name event), .leave]
  /-- The intake is full and an error waits already. -/
  | failAgain {cause : Overflow} (active : watch.phase.isFinished = false)
      (full : watch.intakeLimit ≤ watch.intake.length) (fault : watch.fault = some cause) :
      Arrival watch event watch
        [.note (.overflowed watch.id watch.subscriber.name event), .leave,
          .note (.alreadyFailed watch.id)]

theorem arrival_enqueue (watch : Watch) (event : Event) :
    Arrival watch event (watch.enqueue event).1 (watch.enqueue event).2 := by
  cases finished : watch.phase.isFinished with
  | true =>
    simp only [enqueue, finished, if_true]
    exact .discard finished
  | false =>
    by_cases room : watch.intake.length < watch.intakeLimit
    · simp only [enqueue, finished, Bool.false_eq_true, if_false, room, if_true, wakeIf]
      exact .accept finished room
    · have full : watch.intakeLimit ≤ watch.intake.length := by omega
      cases fault : watch.fault with
      | none =>
        simp only [enqueue, finished, Bool.false_eq_true, if_false, room, fault, wakeIf]
        exact .fail finished full fault
      | some cause =>
        simp only [enqueue, finished, Bool.false_eq_true, if_false, room, fault]
        exact .failAgain finished full fault

/-- What a watch does with a change. -/
inductive Handling (watch : Watch) (lookup : Lookup) (change : AccessChange) :
    Watch → List Effect → Prop
  /-- The subscriber is not concerned, or lost a namespace that was never announced. -/
  | ignore
      (unconcerned : change.bearing watch.subscriber = .unaffected ∨
        change.bearing watch.subscriber = .revoked ∧ change.name ∉ watch.known) :
      Handling watch lookup change watch []
  | skip {cause : LookupError} (granted : change.bearing watch.subscriber = .granted)
      (unresolved : lookup change.name = .error cause) :
      Handling watch lookup change watch
        [.note (.asked change.name false), .note (.changeSkipped watch.id change.name cause)]
  | revoke (revoked : change.bearing watch.subscriber = .revoked)
      (known : change.name ∈ watch.known) {next : Watch} {effects : List Effect}
      (arrival : Arrival { watch with known := watch.known.erase change.name }
        (.deleted (.named change.name)) next effects) :
      Handling watch lookup change next effects
  | grant {object : Namespace} (granted : change.bearing watch.subscriber = .granted)
      (resolved : lookup change.name = .ok object) {next : Watch} {effects : List Effect}
      (arrival : Arrival { watch with known := watch.known.insert change.name }
        (if change.name ∈ watch.known then .modified object.project else .added object.project)
        next effects) :
      Handling watch lookup change next (.note (.asked change.name true) :: effects)

theorem handling_handle (watch : Watch) (lookup : Lookup) (change : AccessChange) :
    Handling watch lookup change (watch.handle lookup change).1 (watch.handle lookup change).2 := by
  unfold handle
  cases bearing : change.bearing watch.subscriber with
  | granted =>
    simp only [grant]
    cases resolved : lookup change.name with
    | error cause => exact .skip bearing resolved
    | ok object =>
      refine .grant bearing resolved ?_
      simp only [Std.ExtTreeSet.contains_iff_mem]
      exact arrival_enqueue _ _
  | revoked =>
    by_cases known : change.name ∈ watch.known
    · simp only [revoke, Std.ExtTreeSet.contains_iff_mem, known, if_true]
      exact .revoke bearing known (arrival_enqueue _ _)
    · simp only [revoke, Std.ExtTreeSet.contains_iff_mem, known, if_false]
      exact .ignore (.inr ⟨bearing, known⟩)
  | unaffected => exact .ignore (.inl bearing)

variable {watch next : Watch} {lookup : Lookup} {change : AccessChange} {name : String}

theorem known_of_arrival {event : Event} {effects : List Effect}
    (arrival : Arrival watch event next effects) : next.known = watch.known := by
  cases arrival <;> rfl

theorem mem_known_handle_of_ne (h : name ≠ change.name) :
    name ∈ (watch.handle lookup change).1.known ↔ name ∈ watch.known := by
  have handling := watch.handling_handle lookup change
  generalize watch.handle lookup change = result at handling ⊢
  obtain ⟨next, effects⟩ := result
  dsimp only at handling ⊢
  cases handling with
  | ignore => rfl
  | skip => rfl
  | revoke revoked known arrival => simp [known_of_arrival arrival, Ne.symm h]
  | grant granted resolved arrival => simp [known_of_arrival arrival, Ne.symm h]

/-- After a change its namespace is known if it was known or can be resolved, and is still
visible. -/
theorem mem_known_handle_self
    (h : change.bearing watch.subscriber = .unaffected → change.name ∉ watch.known) :
    change.name ∈ (watch.handle lookup change).1.known ↔
      change.bearing watch.subscriber = .granted ∧
        (change.name ∈ watch.known ∨ ∃ object, lookup change.name = .ok object) := by
  have handling := watch.handling_handle lookup change
  generalize watch.handle lookup change = result at handling ⊢
  obtain ⟨next, effects⟩ := result
  dsimp only at handling ⊢
  cases handling with
  | ignore unconcerned =>
    obtain unaffected | ⟨revoked, unknown⟩ := unconcerned
    · simp [unaffected, h unaffected]
    · simp [revoked, unknown]
  | skip granted unresolved => simp [granted, unresolved]
  | revoke revoked known arrival => simp [known_of_arrival arrival, revoked]
  | grant granted resolved arrival => simp [known_of_arrival arrival, granted, resolved]

/-- A change that lets the subscriber see its namespace is skipped unless the namespace resolves. -/
theorem resolved_of_granted (granted : change.bearing watch.subscriber = .granted)
    (unskipped : ∀ cause, .note (.changeSkipped watch.id change.name cause) ∉
      (watch.handle lookup change).2) : ∃ object, lookup change.name = .ok object := by
  cases resolved : lookup change.name with
  | ok object => exact ⟨object, rfl⟩
  | error cause =>
    refine absurd ?_ (unskipped cause)
    simp [handle, grant, granted, resolved]

end Watch
end AccessFeed
