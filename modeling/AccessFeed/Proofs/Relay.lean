import AccessFeed.Watch.Relay

/-! What one step of a relay can do, case by case. Later modules reason from these cases and leave
the definition of the step closed. -/
namespace AccessFeed
namespace Watch

/-- One step of a relay, by what it does. -/
inductive Advance (fed : Bool) (watch : Watch) : Watch → List Effect → Prop
  /-- The snapshot is sent. -/
  | catchUp (phase : watch.phase = .replaying []) :
      Advance fed watch { watch with phase := .live } []
  /-- The terminal error is found before a project of the snapshot. -/
  | findFault {project : Project} {rest : List Project} {cause : Overflow}
      (phase : watch.phase = .replaying (project :: rest)) (fault : watch.fault = some cause) :
      Advance fed watch { watch with fault := none, phase := .sendingFailure cause } []
  /-- A project of the snapshot is next. -/
  | replay {project : Project} {rest : List Project}
      (phase : watch.phase = .replaying (project :: rest)) (fault : watch.fault = none) :
      Advance fed watch { watch with phase := .sendingReplay project rest } []
  /-- A stop ends the relay. -/
  | quit (phase : watch.phase = .live ∨ watch.phase.isSending = true)
      (stopped : watch.isStopped = true) :
      Advance fed watch (watch.finish .stopped).1 (watch.finish .stopped).2
  | sendReplay {project : Project} {rest : List Project}
      (phase : watch.phase = .sendingReplay project rest) (running : watch.isStopped = false)
      (room : watch.outbox.length < watch.outboxLimit) :
      Advance fed watch { watch.push (.added project) with phase := .replaying rest }
        [.note (.pushed watch.id (.added project))]
  /-- An event of the intake is next. -/
  | takeEvent {event : Event} {rest : List Event} (phase : watch.phase = .live)
      (running : watch.isStopped = false) (intake : watch.intake = event :: rest) :
      Advance fed watch { watch with intake := rest, phase := .sendingLive event }
        [.note (.taken watch.id rest.length)]
  /-- The terminal error is found behind an empty intake. -/
  | takeFault {cause : Overflow} (phase : watch.phase = .live) (running : watch.isStopped = false)
      (intake : watch.intake = []) (fault : watch.fault = some cause) :
      Advance fed watch
        { watch with fault := none, phase := .sendingFailure cause, heedsIntake := fed } []
  /-- There is nothing left to do and nobody left to wait for. -/
  | starve (phase : watch.phase = .live) (running : watch.isStopped = false)
      (intake : watch.intake = []) (fault : watch.fault = none) (unfed : fed = false) :
      Advance fed watch (watch.finish .producerGone).1 (watch.finish .producerGone).2
  | sendLive {event : Event} (phase : watch.phase = .sendingLive event)
      (running : watch.isStopped = false) (room : watch.outbox.length < watch.outboxLimit) :
      Advance fed watch { watch.push event with phase := .live } [.note (.pushed watch.id event)]
  | sendFailure {cause : Overflow} (phase : watch.phase = .sendingFailure cause)
      (running : watch.isStopped = false) (room : watch.outbox.length < watch.outboxLimit) :
      Advance fed watch ((watch.push (.ofOverflow cause)).finish (.failed cause)).1
        (.note (.pushed watch.id (.ofOverflow cause)) ::
          ((watch.push (.ofOverflow cause)).finish (.failed cause)).2)

/-- A held event is sent, or a stop ends the relay. -/
theorem send_cases {watch : Watch} {held : Event} {next : Watch → Watch × List Effect}
    {result : Watch × List Effect} (h : watch.send held next = some result) :
    (watch.isStopped = true ∧ result = watch.finish .stopped) ∨
      (watch.isStopped = false ∧ watch.outbox.length < watch.outboxLimit ∧
        result = ((next (watch.push held)).1,
          .note (.pushed (next (watch.push held)).1.id held) :: (next (watch.push held)).2)) := by
  unfold send at h
  split at h
  · rename_i stopped
    exact .inl ⟨stopped, (Option.some.inj h).symm⟩
  · rename_i running
    split at h
    · rename_i room
      exact .inr ⟨by simpa using running, room, (Option.some.inj h).symm⟩
    · cases h

/-- Every step of a relay is one of the cases. -/
theorem advance_of_step {fed : Bool} {watch next : Watch} {effects : List Effect}
    (h : watch.step fed = some (next, effects)) : Advance fed watch next effects := by
  unfold step at h
  split at h
  · rename_i phase
    cases h
    exact .catchUp phase
  · rename_i phase
    split at h
    · rename_i fault
      cases h
      exact .findFault phase fault
    · rename_i fault
      cases h
      exact .replay phase fault
  · rename_i phase
    obtain ⟨stopped, hr⟩ | ⟨running, room, hr⟩ := send_cases h
    · cases hr
      exact .quit (.inr (by rw [phase]; rfl)) stopped
    · cases hr
      exact .sendReplay phase running room
  · rename_i phase
    split at h
    · rename_i stopped
      cases h
      exact .quit (.inl phase) stopped
    · rename_i running
      simp only [Bool.not_eq_true] at running
      split at h
      · rename_i intake
        cases h
        exact .takeEvent phase running intake
      · rename_i intake
        split at h
        · rename_i fault
          cases h
          exact .takeFault phase running intake fault
        · rename_i fault
          split at h
          · cases h
          · rename_i unfed
            cases h
            exact .starve phase running intake fault (by simpa using unfed)
  · rename_i phase
    obtain ⟨stopped, hr⟩ | ⟨running, room, hr⟩ := send_cases h
    · cases hr
      exact .quit (.inr (by rw [phase]; rfl)) stopped
    · cases hr
      exact .sendLive phase running room
  · rename_i phase
    obtain ⟨stopped, hr⟩ | ⟨running, room, hr⟩ := send_cases h
    · cases hr
      exact .quit (.inr (by rw [phase]; rfl)) stopped
    · cases hr
      exact .sendFailure phase running room
  · cases h

/-- A stop ends a relay that has gone past looking for the next project of the snapshot. -/
theorem step_of_isStopped {watch : Watch} {fed : Bool} (stopped : watch.isStopped = true)
    (phase : watch.phase = .live ∨ watch.phase.isSending = true) :
    watch.step fed = some (watch.finish .stopped) := by
  obtain live | sending := phase
  · simp [step, live, stopped]
  · cases phase : watch.phase <;> simp_all [step, send, Phase.isSending]

/-- Each of the cases is the step that the relay takes. -/
theorem step_of_advance {fed : Bool} {watch next : Watch} {effects : List Effect}
    (advance : watch.Advance fed next effects) : watch.step fed = some (next, effects) := by
  cases advance with
  | quit phase stopped => exact step_of_isStopped stopped phase
  | _ => simp_all [step, send, push, finish]

theorem work_of_advance {fed : Bool} {watch next : Watch} {effects : List Effect}
    (advance : watch.Advance fed next effects) : next.work < watch.work :=
  work_step (step_of_advance advance)

end Watch
end AccessFeed
