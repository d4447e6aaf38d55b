import AccessFeed.Watch

/-! The relay of a watch, which carries events from the snapshot and the intake to the outbox.

Whenever it may choose, a stop comes first, then an event of the intake, then the terminal error,
so the error is always the last event. The relay moves in small steps. `Watch.poll` takes steps
until none is possible without another party, or until as many are taken as one turn may have. -/
namespace AccessFeed

namespace Watch

/-- Ends the relay, which heeds nothing any more. What is left in the intake is lost. -/
def finish (watch : Watch) (exit : Exit) : Watch × List Effect :=
  ({ watch with
      phase := .finished exit
      intake := []
      fault := none
      heedsIntake := false
      heedsFault := false },
    [.note (.finished watch.id exit), .leave])

def push (watch : Watch) (event : Event) : Watch :=
  { watch with outbox := watch.outbox ++ [event] }

/-- Sends a held event: a stop ends the relay instead, and a full outbox keeps it waiting. -/
def send (watch : Watch) (held : Event) (next : Watch → Watch × List Effect) :
    Option (Watch × List Effect) :=
  if watch.isStopped then some (watch.finish .stopped)
  else if watch.outbox.length < watch.outboxLimit then
    let (watch, effects) := next (watch.push held)
    some (watch, .note (.pushed watch.id held) :: effects)
  else none

/-- One step of the relay, if one is possible. The intake is `fed` as long as somebody may still
hand the watch a change. A relay that finds the intake empty heeds it from then on, even if it turns
to the terminal error. -/
def step (fed : Bool) (watch : Watch) : Option (Watch × List Effect) :=
  match watch.phase with
  | .replaying [] => some ({ watch with phase := .live }, [])
  | .replaying (project :: rest) =>
    match watch.fault with
    | some cause => some ({ watch with fault := none, phase := .sendingFailure cause }, [])
    | none => some ({ watch with phase := .sendingReplay project rest }, [])
  | .sendingReplay project rest =>
    watch.send (.added project) fun watch => ({ watch with phase := .replaying rest }, [])
  | .live =>
    if watch.isStopped then some (watch.finish .stopped)
    else
      match watch.intake with
      | event :: rest =>
        some ({ watch with intake := rest, phase := .sendingLive event },
          [.note (.taken watch.id rest.length)])
      | [] =>
        match watch.fault with
        | some cause =>
          some ({ watch with
            fault := none
            phase := .sendingFailure cause
            heedsIntake := fed }, [])
        | none => if fed then none else some (watch.finish .producerGone)
  | .sendingLive event => watch.send event fun watch => ({ watch with phase := .live }, [])
  | .sendingFailure cause =>
    watch.send (.ofOverflow cause) fun watch => watch.finish (.failed cause)
  | .finished _ => none

/-- A bound on the steps that the relay takes before it needs another party. -/
def work (watch : Watch) : Nat :=
  2 * watch.intake.length +
    match watch.phase with
    | .replaying rest => 2 * rest.length + 4
    | .sendingReplay _ rest => 2 * rest.length + 5
    | .live => 3
    | .sendingLive _ => 4
    | .sendingFailure _ => 2
    | .finished _ => 0

/-- What a relay did in one go. -/
structure Run where
  watch : Watch
  effects : List Effect
  /-- The limit was reached, and the relay may be able to go further. -/
  isCut : Bool

/-- Takes steps until none is possible, or until the next one would exceed the limit on what they
count. The fuel bounds the number of all steps. -/
def run (fed : Bool) : Nat → Nat → Watch → Run
  | 0, _, watch => ⟨watch, [], false⟩
  | fuel + 1, limit, watch =>
    if limit < watch.phase.cost then ⟨watch, [], true⟩
    else
      match watch.step fed with
      | none => ⟨watch, [], false⟩
      | some (next, effects) =>
        let rest := run fed fuel (limit - watch.phase.cost) next
        { rest with effects := effects ++ rest.effects }

/-- Notes the first time that the relay runs. -/
def begin (watch : Watch) : Watch × List Effect :=
  if watch.begun then (watch, []) else ({ watch with begun := true }, [.note (.begun watch.id)])

/-- Puts a relay that can go no further to sleep. With nothing to send it heeds the intake and the
terminal error. -/
def sleep (watch : Watch) : Watch :=
  let isIdle := watch.phase == .live
  { watch with
    isDue := false
    heedsIntake := watch.heedsIntake || isIdle
    heedsFault := watch.heedsFault || isIdle }

/-- Lets the relay run until it can go no further, or until it has had its share. In the second case
it stays due, even if it turns out later that there is nothing left to do. -/
def poll (fed : Bool) (limit : Nat) (watch : Watch) : Watch × List Effect :=
  let (watch, effects) := watch.begin
  let run := watch.run fed watch.work limit
  (if run.isCut then { run.watch with isDue := true } else run.watch.sleep, effects ++ run.effects)

/-- Every step leaves less work. -/
theorem work_step {fed : Bool} {watch next : Watch} {effects : List Effect}
    (h : watch.step fed = some (next, effects)) : next.work < watch.work := by
  unfold step send at h
  grind [work, finish, push]

/-- With enough fuel, only the limit keeps the relay from going as far as it can. -/
theorem step_run {fed : Bool} {fuel limit : Nat} {watch : Watch} (h : watch.work ≤ fuel)
    (hc : (run fed fuel limit watch).isCut = false) :
    (run fed fuel limit watch).watch.step fed = none := by
  induction fuel generalizing limit watch with
  | zero =>
    rw [run]
    cases hs : watch.step fed with
    | none => rfl
    | some next => obtain ⟨next, effects⟩ := next; have := work_step hs; omega
  | succ fuel ih =>
    rw [run] at hc ⊢
    split at hc
    · cases hc
    · rename_i hl
      rw [if_neg hl]
      cases hs : watch.step fed with
      | none => exact hs
      | some next =>
        obtain ⟨next, effects⟩ := next
        have := work_step hs
        rw [hs] at hc
        exact ih (by omega) hc

/-- A relay that is cut short has done at least as much work as the limit, and has work left. -/
theorem work_run {fed : Bool} {fuel limit : Nat} {watch : Watch}
    (hc : (run fed fuel limit watch).isCut = true) :
    (run fed fuel limit watch).watch.work + limit ≤ watch.work
      ∧ 0 < (run fed fuel limit watch).watch.work := by
  induction fuel generalizing limit watch with
  | zero => cases hc
  | succ fuel ih =>
    rw [run] at hc ⊢
    split at hc
    · rename_i hl
      rw [if_pos hl]
      cases hp : watch.phase <;> simp only [hp, Phase.cost, Nat.not_lt_zero] at hl <;>
        simp only [work, hp] <;> omega
    · rename_i hl
      rw [if_neg hl]
      cases hs : watch.step fed with
      | none => rw [hs] at hc; cases hc
      | some next =>
        obtain ⟨next, effects⟩ := next
        have := work_step hs
        rw [hs] at hc
        have := ih hc
        have : watch.phase.cost ≤ 1 := by cases watch.phase <;> simp [Phase.cost]
        dsimp only
        omega

/-- A relay with something to send waits for room in the outbox or a stop. -/
theorem isNone_send (watch : Watch) (held : Event) (next : Watch → Watch × List Effect) :
    (watch.send held next).isNone
      = (!watch.isStopped && decide (watch.outboxLimit ≤ watch.outbox.length)) := by
  cases h : watch.isStopped
  · by_cases hr : watch.outbox.length < watch.outboxLimit
    · simp [send, h, hr]
    · simp [send, h, hr, Nat.not_lt.mp hr]
  · simp [send, h]

/-- What keeps a relay from going further. -/
theorem isNone_step (fed : Bool) (watch : Watch) :
    (watch.step fed).isNone =
      match watch.phase with
      | .replaying _ => false
      | .live => !watch.isStopped && watch.intake.isEmpty && watch.fault.isNone && fed
      | .finished _ => true
      | _ => !watch.isStopped && decide (watch.outboxLimit ≤ watch.outbox.length) := by
  unfold step
  split <;> rename_i hp <;> simp only [hp, isNone_send]
  · rfl
  · split <;> rfl
  · cases watch.isStopped <;> cases watch.intake <;> cases watch.fault <;> cases fed <;> rfl
  · rfl

/-- A relay can go further asleep exactly if it can awake. -/
theorem isNone_step_sleep (fed : Bool) (watch : Watch) :
    (watch.sleep.step fed).isNone = (watch.step fed).isNone := by
  rw [isNone_step, isNone_step]
  rfl

/-- After a poll the relay is due again, with less work, or it can go no further. -/
theorem poll_cases (fed : Bool) (limit : Nat) (watch : Watch) :
    ((watch.poll fed limit).1.isDue = true ∧ (watch.poll fed limit).1.work + limit ≤ watch.work)
      ∨ (watch.poll fed limit).1.isDue = false ∧ (watch.poll fed limit).1.step fed = none := by
  have hb : watch.begin.1.work = watch.work := by unfold begin; split <;> rfl
  simp only [poll]
  cases hc : (watch.begin.1.run fed watch.begin.1.work limit).isCut
  · refine Or.inr ⟨rfl, ?_⟩
    rw [← Option.isNone_iff_eq_none, if_neg (by simp), isNone_step_sleep,
      step_run (Nat.le_refl _) hc, Option.isNone_none]
  · exact Or.inl ⟨rfl, hb ▸ (work_run hc).1⟩

end Watch

end AccessFeed
