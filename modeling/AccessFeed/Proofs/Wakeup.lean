import AccessFeed.Proofs.Built
import AccessFeed.Proofs.Edit
import AccessFeed.Proofs.History

/-! No wake-up is lost. A relay that sleeps can go no further, and whatever lets it go further wakes
it: an event, the terminal error, room in the outbox, a stop, or that nobody feeds it any more. So
in every state that comes of any actions, a relay that can go further is due to run, and in line. -/
namespace AccessFeed

namespace Watch

variable {fed : Bool} {watch next : Watch} {effects : List Effect}

/-- A relay that is not due can go no further. If it waits for something to send, the next event and
the next terminal error wake it. -/
structure Vigilant (fed : Bool) (watch : Watch) : Prop where
  waits : watch.isDue = false → watch.step fed = none
  heeds : watch.isDue = false → watch.phase = .live →
    watch.heedsIntake = true ∧ watch.heedsFault = true

theorem vigilant_of_isDue (due : watch.isDue = true) : watch.Vigilant fed := by
  constructor <;> simp [due]

/-- What a relay can do depends on its intake, its terminal error and whether it is fed only while
it is live. If what happens to these wakes a live relay, it stays vigilant. -/
theorem Vigilant.wake (h : watch.Vigilant fed) {other : Watch} {still woke : Bool}
    (isDue : other.isDue = (watch.isDue || woke))
    (wakes : watch.phase = .live → watch.heedsIntake = true → watch.heedsFault = true →
      woke = true)
    (phase : other.phase = watch.phase) (stopped : other.isStopped = watch.isStopped)
    (outbox : other.outbox = watch.outbox) (limit : other.outboxLimit = watch.outboxLimit) :
    other.Vigilant still := by
  have asleep (sleeps : other.isDue = false) : watch.isDue = false ∧ watch.phase ≠ .live := by
    rw [isDue, Bool.or_eq_false_iff] at sleeps
    refine ⟨sleeps.1, fun live => ?_⟩
    obtain ⟨intake, fault⟩ := h.heeds sleeps.1 live
    rw [wakes live intake fault] at sleeps
    cases sleeps.2
  constructor
  · intro sleeps
    obtain ⟨before, away⟩ := asleep sleeps
    have waits := h.waits before
    rw [← Option.isNone_iff_eq_none, isNone_step] at waits ⊢
    rw [phase, stopped, outbox, limit]
    cases held : watch.phase <;> simp_all
  · intro sleeps live
    exact absurd (phase ▸ live) (asleep sleeps).2

/-- A relay that is fed can do no more than one that is not. -/
theorem Vigilant.feed (h : watch.Vigilant fed) : watch.Vigilant true := by
  refine ⟨fun sleeps => ?_, h.heeds⟩
  have waits := h.waits sleeps
  rw [← Option.isNone_iff_eq_none, isNone_step] at waits ⊢
  cases held : watch.phase <;> simp_all

theorem Vigilant.starve (h : watch.Vigilant fed) : watch.starve.Vigilant false :=
  h.wake rfl (fun _ intake _ => by rw [intake]; rfl) rfl rfl rfl rfl

theorem Vigilant.learn (h : watch.Vigilant fed) (known : NameSet) :
    ({ watch with known } : Watch).Vigilant fed := by
  refine ⟨fun sleeps => ?_, h.heeds⟩
  have waits := h.waits sleeps
  rw [← Option.isNone_iff_eq_none, isNone_step] at waits ⊢
  exact waits

theorem Vigilant.arrival (h : watch.Vigilant fed) {event : Event}
    (arrival : watch.Arrival event next effects) : next.Vigilant fed := by
  cases arrival with
  | discard | failAgain => exact h
  | accept => exact h.wake rfl (fun _ intake _ => intake) rfl rfl rfl rfl
  | fail => exact h.wake rfl (fun _ _ fault => fault) rfl rfl rfl rfl

theorem Vigilant.handle (h : watch.Vigilant fed) (lookup : Lookup) (change : AccessChange) :
    (watch.handle lookup change).1.Vigilant fed := by
  have handling := watch.handling_handle lookup change
  generalize watch.handle lookup change = result at handling ⊢
  obtain ⟨next, effects⟩ := result
  dsimp only at handling ⊢
  cases handling with
  | ignore | skip => exact h
  | revoke revoked known arrival => exact (h.learn _).arrival arrival
  | grant granted resolved arrival => exact (h.learn _).arrival arrival

theorem Vigilant.stop (h : watch.Vigilant fed) : watch.stop.1.Vigilant fed := by
  unfold Watch.stop
  split
  · exact h
  · cases phase : watch.phase with
    | finished exit =>
      refine ⟨fun _ => ?_, fun _ live => ?_⟩
      · rw [← Option.isNone_iff_eq_none, isNone_step]
        simp [wakeIf]
      · simp [wakeIf] at live
    | _ => exact vigilant_of_isDue (Bool.or_true _)

/-- Room in the outbox is what a relay waits for that holds something to send. -/
theorem Vigilant.take (h : watch.Vigilant fed) : watch.take.2.Vigilant fed := by
  unfold Watch.take
  split
  · rename_i event rest outbox
    cases sending : watch.phase.isSending with
    | true => exact vigilant_of_isDue (Bool.or_true _)
    | false =>
      refine ⟨fun sleeps => ?_, fun sleeps => h.heeds (by simpa [wakeIf] using sleeps)⟩
      have waits := h.waits (by simpa [wakeIf] using sleeps)
      rw [← Option.isNone_iff_eq_none, isNone_step] at waits ⊢
      cases phase : watch.phase <;> simp_all [wakeIf, Phase.isSending]
  · exact h

/-- After its turn a relay is due again, or it sleeps and can go no further. -/
theorem vigilant_poll (fed : Bool) (limit : Nat) (watch : Watch) :
    (watch.poll fed limit).1.Vigilant fed := by
  obtain ⟨due, -⟩ | ⟨-, waits⟩ := watch.poll_cases fed limit
  · exact vigilant_of_isDue due
  · refine ⟨fun _ => waits, fun sleeps live => ?_⟩
    simp only [poll] at sleeps live ⊢
    split at live
    · rename_i cut
      simp [cut] at sleeps
    · rename_i whole
      rw [if_neg whole]
      have idle : (watch.begin.1.run fed watch.begin.1.work limit).watch.phase = .live := live
      simp [sleep, idle]

end Watch

namespace Glimpse

variable {glimpse : Glimpse}

/-- The relay of the watch, if there is one, is vigilant. -/
def Vigilant (glimpse : Glimpse) : Prop :=
  ∀ watch, glimpse.watch? = some watch → watch.Vigilant glimpse.isFed

/-- A relay that loses the last one who feeds it is told so. -/
theorem vigilant_checkFeed {fed : Bool}
    (h : ∀ watch, glimpse.watch? = some watch → watch.Vigilant fed) :
    glimpse.checkFeed.Vigilant := by
  intro watch found
  rw [isFed_checkFeed]
  unfold checkFeed at found
  split at found
  · rename_i held
    rw [held]
    exact (h watch found).feed
  · rename_i lost
    rw [Bool.not_eq_true] at lost
    obtain ⟨before, present, rfl⟩ := Option.map_eq_some_iff.mp found
    rw [lost]
    exact (h before present).starve

theorem Vigilant.act (h : glimpse.Vigilant) {action : Watch → Watch × List Effect}
    (keeps : ∀ watch, watch.Vigilant glimpse.isFed → (action watch).1.Vigilant glimpse.isFed) :
    (glimpse.act action).Vigilant := by
  unfold Glimpse.act
  split
  · rename_i watch found
    have acted : (glimpse.put (action watch).1).Vigilant := by
      intro next stored
      obtain rfl := Option.some.inj stored
      exact keeps watch (h watch found)
    split
    · exact @vigilant_checkFeed { glimpse.put (action watch).1 with isRegistered := false } _ acted
    · exact acted
  · exact h

/-- Whatever comes to a watch, its relay stays vigilant. -/
theorem Vigilant.after (h : glimpse.Vigilant) (touch : Touch) : (glimpse.after touch).Vigilant := by
  cases touch with
  | none => exact h
  | handle lookup change => exact h.act fun watch kept => kept.handle lookup change
  | poll => exact h.act fun watch _ => watch.vigilant_poll _ _
  | take =>
    intro watch found
    obtain ⟨before, present, rfl⟩ := Option.map_eq_some_iff.mp found
    exact (h before present).take
  | stop => exact h.act fun watch kept => kept.stop
  | enter =>
    intro watch found
    have fed : (glimpse.after .enter).isFed = true := Bool.or_true _
    rw [fed]
    exact (h watch found).feed
  | leave => exact @vigilant_checkFeed { glimpse with isRegistered := false } _ h
  | release => exact @vigilant_checkFeed { glimpse with isHandled := false } _ h

end Glimpse

namespace World

variable {world : World} {id : WatchId}

/-- All relays are vigilant. -/
def Vigilant (world : World) : Prop := ∀ id, (world.glimpse id).Vigilant

theorem Vigilant.enact (h : world.Vigilant) (action : Action) :
    (world.enact action).1.Vigilant := by
  intro id
  by_cases opened : world.opened? action = some id
  · -- A relay that has not run yet is due.
    obtain ⟨subscriber, options, known, snapshot, -, start, found, new⟩ :=
      exists_start_of_opened opened
    intro watch held
    obtain rfl := Option.some.inj (found.symm.trans held)
    refine Watch.vigilant_of_isDue ?_
    obtain rfl | rfl := new <;> rfl
  · rw [glimpse_enact_of_ne opened]
    exact (h id).after _

/-- Relays are vigilant, and those that are due are in line. -/
structure Alert (world : World) : Prop where
  vigilant : world.Vigilant
  queued : world.Queued

theorem alert_fresh (host : Host) : (fresh host).Alert := by
  constructor
  · intro id watch found
    simp [glimpse, fresh] at found
  · intro id watch found
    simp [fresh] at found

theorem Alert.enact (h : world.Alert) (action : Action) : (world.enact action).1.Alert :=
  ⟨h.vigilant.enact action, h.queued.enact action⟩

theorem Alert.mem_line (h : world.Alert) {watch : Watch} (found : world.watches[id]? = some watch)
    (goes : watch.step (world.feeds id) ≠ none) : watch.isDue = true ∧ id ∈ world.line := by
  have due : watch.isDue = true := by
    cases sleeps : watch.isDue with
    | true => rfl
    | false => exact absurd ((h.vigilant id watch found).waits sleeps) goes
  exact ⟨due, h.queued id watch found due⟩

end World

namespace History

theorem alert_run {history : History} (h : history.world.Alert) (actions : List Action) :
    (history.run actions).world.Alert := by
  induction actions generalizing history with
  | nil => exact h
  | cons action actions ih => exact ih (h.enact action)

/-- Whatever parties do, a relay that can go further is due to run, and in line. -/
theorem mem_line_of_step (host : Host) (actions : List Action) {id : WatchId} {watch : Watch} :
    let world := ((start (.fresh host)).run actions).world
    world.watches[id]? = some watch → watch.step (world.feeds id) ≠ none →
      watch.isDue = true ∧ id ∈ world.line :=
  fun found goes => (alert_run (World.alert_fresh host) actions).mem_line found goes

end History
end AccessFeed
