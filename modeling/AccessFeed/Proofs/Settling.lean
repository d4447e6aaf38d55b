import AccessFeed.Proofs.Turn
import AccessFeed.Proofs.Wakeup
import Mathlib.Algebra.Order.BigOperators.Group.List
import Mathlib.Algebra.Order.Ring.Nat

/-! Letting the relays run until none can go further.

A turn takes a relay out of the line or leaves it less work, so each round leaves less than was
there before it, and the rounds that are counted on are enough: nothing is in line after them. Where
no wake-up is lost, no relay can go further then. -/
namespace AccessFeed

namespace Watch

variable {fed : Bool} {watch : Watch}

theorem work_run_le (watch : Watch) (fuel limit : Nat) :
    (watch.run fed fuel limit).watch.work ≤ watch.work ∧
      ((watch.run fed fuel limit).effects ≠ [] →
        (watch.run fed fuel limit).watch.work < watch.work) := by
  induction fuel generalizing watch limit with
  | zero => exact ⟨Nat.le_refl _, fun told => absurd rfl told⟩
  | succ fuel ih =>
    rw [run]
    split
    · exact ⟨Nat.le_refl _, fun told => absurd rfl told⟩
    · cases step : watch.step fed with
      | none => exact ⟨Nat.le_refl _, fun told => absurd rfl told⟩
      | some result =>
        obtain ⟨next, effects⟩ := result
        have less := Nat.lt_of_le_of_lt (ih next (limit - watch.phase.cost)).1 (work_step step)
        exact ⟨less.le, fun _ => less⟩

/-- A turn in which the relay asks to be taken out of the catalog leaves it less work. -/
theorem work_poll_le (fed : Bool) (limit : Nat) (watch : Watch) :
    (watch.poll fed limit).1.work ≤ watch.work ∧
      (.leave ∈ (watch.poll fed limit).2 → (watch.poll fed limit).1.work < watch.work) := by
  have begun : watch.begin.1.work = watch.work ∧ .leave ∉ watch.begin.2 := by
    unfold begin
    split
    · simp
    · exact ⟨rfl, by simp⟩
  obtain ⟨le, less⟩ := @work_run_le fed watch.begin.1 watch.begin.1.work limit
  have kept : (watch.poll fed limit).1.work =
      (watch.begin.1.run fed watch.begin.1.work limit).watch.work := by
    simp only [poll]
    split <;> rfl
  rw [kept, ← begun.1]
  refine ⟨le, fun left => less fun silent => begun.2 ?_⟩
  simpa [poll, silent] using left

/-- What a relay sends it has less work with. -/
theorem load_poll_le (fed : Bool) (limit : Nat) (watch : Watch) :
    (watch.poll fed limit).1.outbox.length + (watch.poll fed limit).1.work ≤
      watch.outbox.length + watch.work := by
  refine @poll_induction fed
    (fun next _ => next.outbox.length + next.work ≤ watch.outbox.length + watch.work) ?_
    (fun h => h) (fun _ _ _ h => h) watch [] (Nat.le_refl _) limit
  intro before after effects told advance h
  have less := work_of_advance advance
  have sent : after.outbox.length ≤ before.outbox.length + 1 := by
    cases advance <;> simp [push, finish]
  omega

end Watch

namespace World

variable {world next : World} {id : WatchId}

/-- What a watch counts in the effort to settle: one for its place in line, and the work of its
relay. -/
def cost (world : World) (id : WatchId) : Nat := (world.watches[id]?.map Watch.work).getD 0 + 1

/-- The cost of watches together. -/
def total (world : World) (ids : List WatchId) : Nat := (ids.map world.cost).sum

theorem effort_eq (world : World) : world.effort = world.total world.line := by
  rw [effort, total]
  induction world.line with
  | nil => rfl
  | cons id rest ih => rw [List.foldr_cons, ih, List.map_cons, List.sum_cons, cost]

@[simp] theorem total_append (ids others : List WatchId) :
    world.total (ids ++ others) = world.total ids + world.total others := by
  simp [total]

@[simp] theorem total_singleton : world.total [id] = world.cost id := by
  simp [total]

@[simp] theorem total_reverse (ids : List WatchId) : world.total ids.reverse = world.total ids := by
  simp [total, List.sum_reverse]

/-- The effort to settle does not depend on the order of the line. -/
theorem effort_of_line (world : World) (line : List WatchId) :
    ({ world with line } : World).effort = world.total line := effort_eq _

theorem total_le_of_cost_le (le : ∀ id, next.cost id ≤ world.cost id) (ids : List WatchId) :
    next.total ids ≤ world.total ids :=
  List.sum_le_sum fun id _ => le id

theorem total_erase_le (ids : List WatchId) : world.total (ids.erase id) ≤ world.total ids :=
  (List.erase_sublist.map world.cost).sum_le_sum fun _ _ => Nat.zero_le _

/-- The line after a relay may have got in, for which there has to be a reason. -/
def Joins (id : WatchId) (reason : Prop) (line next : List WatchId) : Prop :=
  next = line ∨ reason ∧ id ∉ line ∧ next = line ++ [id]

theorem Joins.imp {reason other : Prop} {line next : List WatchId}
    (joins : Joins id reason line next) (given : reason → other) : Joins id other line next :=
  Or.imp_right (And.imp_left given) joins

theorem Joins.trans {first second : Prop} {line next last : List WatchId}
    (joins : Joins id first line next) (then' : Joins id second next last) :
    Joins id (first ∨ second) line last := by
  obtain rfl | ⟨reason, absent, rfl⟩ := joins
  · exact then'.imp .inr
  · obtain rfl | ⟨-, later, -⟩ := then'
    · exact .inr ⟨.inl reason, absent, rfl⟩
    · exact absurd (List.mem_append_right line (List.mem_singleton_self id)) later

theorem joins_put (world : World) (id : WatchId) (watch : Watch) :
    Joins id (watch.isDue = true) world.line (world.put id watch).line := by
  unfold put
  by_cases joins : (watch.isDue && !world.line.contains id) = true
  · rw [if_pos joins]
    simp only [Bool.and_eq_true, Bool.not_eq_true', List.contains_eq_mem,
      decide_eq_false_iff_not] at joins
    exact .inr ⟨joins.1, joins.2, rfl⟩
  · exact .inl (if_neg joins)

theorem joins_checkFeed (world : World) (id : WatchId) :
    Joins id True world.line (world.checkFeed id).line := by
  unfold checkFeed
  split
  · split
    · exact .inl rfl
    · exact (joins_put world id _).imp fun _ => trivial
  · exact .inl rfl

theorem joins_carryOut (id : WatchId) (effects : List Effect) (world : World) :
    Joins id (.leave ∈ effects) world.line (carryOut id effects world).1.line := by
  induction effects generalizing world with
  | nil => exact .inl rfl
  | cons effect rest ih =>
    cases effect with
    | note notice => simpa [carryOut] using ih world
    | leave =>
      have left : Joins id True world.line (world.unregister id).1.line :=
        joins_checkFeed { world with host := (world.host.remove id).1 } id
      exact (left.trans (ih _)).imp fun _ => List.mem_cons_self

/-- What is read of a watch after its turn, if it does not matter whether the watch is fed. -/
theorem map_poll {α : Type} {read : Watch → α} (keeps : ∀ watch, read watch.starve = read watch)
    {watch : Watch} (found : world.watches[id]? = some watch) :
    (world.poll id).1.watches[id]?.map read =
      some (read (watch.poll (world.feeds id) turnLimit).1) := by
  have glimpse : (world.poll id).1.glimpse id = (world.glimpse id).act _ :=
    glimpse_act { world with line := world.line.erase id } id _
  have held : (world.glimpse id).watch? = some watch := found
  refine (congrArg (Option.map read ∘ Glimpse.watch?) glimpse).trans ?_
  simp only [Function.comp_apply, Glimpse.act, held]
  split
  · unfold Glimpse.dismiss Glimpse.checkFeed
    split
    · rfl
    · exact congrArg some (keeps _)
  · rfl

theorem cost_poll {watch : Watch} (found : world.watches[id]? = some watch) :
    (world.poll id).1.cost id = (watch.poll (world.feeds id) turnLimit).1.work + 1 := by
  rw [cost, map_poll (fun _ => rfl) found]
  rfl

theorem watch_poll_of_ne {other : WatchId} (ne : id ≠ other) (world : World) :
    (world.poll id).1.watches[other]? = world.watches[other]? :=
  congrArg Glimpse.watch?
    (glimpse_act_of_ne ne { world with line := world.line.erase id } (Watch.poll _ turnLimit))

/-- A turn takes the relay out of the line or leaves it less work, and no relay more. -/
theorem joins_poll (world : World) (id : WatchId) :
    Joins id ((world.poll id).1.cost id < world.cost id) (world.line.erase id)
        (world.poll id).1.line ∧
      ∀ other, (world.poll id).1.cost other ≤ world.cost other := by
  cases found : world.watches[id]? with
  | none =>
    have still : (world.poll id).1 = { world with line := world.line.erase id } := by
      simp [poll, act, found]
    rw [still]
    exact ⟨.inl rfl, fun other => Nat.le_refl _⟩
  | some watch =>
    have before : world.cost id = watch.work + 1 := by
      rw [cost, found]
      rfl
    obtain ⟨le, less⟩ := Watch.work_poll_le (world.feeds id) turnLimit watch
    constructor
    · have joins : Joins id ((watch.poll (world.feeds id) turnLimit).1.isDue = true ∨
          .leave ∈ (watch.poll (world.feeds id) turnLimit).2) (world.line.erase id)
          (world.poll id).1.line := by
        simp only [poll, act, found]
        exact (joins_put { world with line := world.line.erase id } id _).trans
          (joins_carryOut id _ _)
      refine joins.imp fun reason => ?_
      rw [cost_poll found, before]
      obtain due | left := reason
      · obtain ⟨-, less⟩ | ⟨sleeps, -⟩ := watch.poll_cases (world.feeds id) turnLimit
        · rw [turnLimit] at less ⊢
          omega
        · rw [sleeps] at due
          cases due
      · exact Nat.succ_lt_succ (less left)
    · intro other
      by_cases same : id = other
      · subst same
        rw [cost_poll found, before]
        exact Nat.succ_le_succ le
      · rw [cost, cost, watch_poll_of_ne same]

/-- Every turn lowers what the line and the relays that wait for a turn of the round cost. -/
theorem total_poll (world : World) (id : WatchId) (rest : List WatchId) :
    (world.poll id).1.total ((world.poll id).1.line ++ rest) + 1 ≤
      world.total (world.line ++ id :: rest) := by
  obtain ⟨joins, le⟩ := world.joins_poll id
  have others := total_le_of_cost_le le rest
  have erased : (world.poll id).1.total (world.line.erase id) ≤ world.total world.line :=
    (total_le_of_cost_le le _).trans (total_erase_le _)
  have place : 1 ≤ world.cost id := Nat.le_add_left 1 _
  rw [← List.singleton_append, ← List.append_assoc, total_append, total_append, total_append,
    total_singleton]
  obtain line | ⟨less, -, line⟩ := joins
  · rw [line]
    omega
  · rw [line, total_append, total_singleton]
    omega

theorem total_pollAll (ids rest : List WatchId) (world : World) :
    (pollAll ids world).1.total ((pollAll ids world).1.line ++ rest) + ids.length ≤
      world.total (world.line ++ (ids ++ rest)) := by
  induction ids generalizing world with
  | nil => exact Nat.le_refl _
  | cons id ids ih =>
    have later := ih (world.poll id).1
    have now := world.total_poll id (ids ++ rest)
    rw [pollAll, List.length_cons]
    exact (Nat.add_le_add_right later 1).trans now

/-- Every round leaves less effort. -/
theorem effort_round (waiting : world.line ≠ []) : world.round.1.effort < world.effort := by
  have turns : 0 < (world.line.take roundLimit).length := by
    rw [List.length_take, roundLimit]
    have some := List.length_pos_iff.mpr waiting
    omega
  have law := total_pollAll (world.line.take roundLimit) (world.line.drop roundLimit)
    { world with line := [] }
  have before : ({ world with line := [] } : World).total world.line = world.effort :=
    world.effort_eq.symm
  have after := effort_of_line (pollAll (world.line.take roundLimit) { world with line := [] }).1
    (world.line.drop roundLimit ++
      (pollAll (world.line.take roundLimit) { world with line := [] }).1.line.reverse)
  rw [List.nil_append, List.take_append_drop, before, total_append] at law
  rw [total_append, total_reverse] at after
  rw [round, after]
  omega

/-- The rounds that are counted on are enough. -/
theorem line_settleWithin {bound : Nat} (enough : world.effort ≤ bound) :
    (settleWithin bound world).1.line = [] := by
  have empty (world : World) (none : world.effort = 0) : world.line = [] := by
    rw [effort_eq, total] at none
    cases line : world.line with
    | nil => rfl
    | cons id rest => simp [line, cost] at none
  induction bound generalizing world with
  | zero => exact empty world (Nat.le_zero.mp enough)
  | succ bound ih =>
    rw [settleWithin]
    split
    · rename_i idle
      exact List.isEmpty_iff.mp idle
    · rename_i waiting
      rw [List.isEmpty_iff] at waiting
      exact ih (Nat.le_of_lt_succ (Nat.lt_of_lt_of_le (effort_round waiting) enough))

/-- When the relays have settled, none is in line. -/
theorem line_settle (world : World) : world.settle.1.line = [] := line_settleWithin (Nat.le_refl _)

/-- Every watch whose relay is due is in line, or is one of those whose turn is still to come. -/
def QueuedBut (world : World) (ids : List WatchId) : Prop := ∀ id, world.InLine id ∨ id ∈ ids

theorem inLine_poll (world : World) (id : WatchId) : (world.poll id).1.InLine id := by
  unfold poll act
  split
  · exact (edits_carryOut _ _ _).induction InLine.edit (inLine_put _ id _)
  · rename_i absent
    intro watch found
    cases absent.symm.trans found

theorem QueuedBut.poll {rest : List WatchId} (h : world.QueuedBut (id :: rest)) :
    (world.poll id).1.QueuedBut rest := by
  intro other
  by_cases same : id = other
  · exact .inl (same ▸ inLine_poll world id)
  · refine (h other).imp (fun inLine => ?_) fun member => ?_
    · exact (edits_poll world id).induction InLine.edit inLine
    · exact (List.mem_cons.mp member).resolve_left (Ne.symm same)

theorem QueuedBut.pollAll {ids rest : List WatchId} (h : world.QueuedBut (ids ++ rest)) :
    (World.pollAll ids world).1.QueuedBut rest := by
  induction ids generalizing world with
  | nil => exact h
  | cons id ids ih => exact ih h.poll

theorem Vigilant.pollAll (h : world.Vigilant) (ids : List WatchId) :
    (World.pollAll ids world).1.Vigilant := by
  induction ids generalizing world with
  | nil => exact h
  | cons id ids ih => exact ih (h.enact (.poll id))

theorem Alert.round (h : world.Alert) : world.round.1.Alert := by
  constructor
  · exact @Vigilant.pollAll { world with line := [] } h.vigilant (world.line.take roundLimit)
  · have before : ({ world with line := [] } : World).QueuedBut
        (world.line.take roundLimit ++ world.line.drop roundLimit) := by
      rw [List.take_append_drop]
      intro id
      by_cases waits : id ∈ world.line
      · exact .inr waits
      · exact .inl fun watch found due => absurd (h.queued id watch found due) waits
    intro id watch found due
    refine List.mem_append.mpr ?_
    obtain inLine | member := before.pollAll id
    · exact .inr (List.mem_reverse.mpr (inLine watch found due))
    · exact .inl member

theorem Alert.settleWithin (h : world.Alert) (bound : Nat) :
    (World.settleWithin bound world).1.Alert := by
  induction bound generalizing world with
  | zero => exact h
  | succ bound ih =>
    rw [World.settleWithin]
    split
    · exact h
    · exact ih h.round

theorem Alert.settle (h : world.Alert) : world.settle.1.Alert := h.settleWithin _

/-- When the relays have settled, no relay can go further. -/
theorem Alert.step_settle (h : world.Alert) {watch : Watch}
    (found : world.settle.1.watches[id]? = some watch) :
    watch.step (world.settle.1.feeds id) = none := by
  by_contra goes
  have waits := (h.settle.mem_line found goes).2
  rw [line_settle] at waits
  cases waits

theorem Alert.take (h : world.Alert) (id : WatchId) : (world.take id).2.Alert := by
  constructor
  · intro other
    by_cases same : id = other
    · subst same
      rw [glimpse_take]
      exact (h.vigilant id).after .take
    · rw [glimpse_take_of_ne same]
      exact h.vigilant other
  · unfold World.take
    split
    · exact Queued.edit (.put id _) h.queued
    · exact h.queued

/-- A consumer that gets nothing leaves the state as it is. -/
theorem Alert.take_of_nothing (h : world.Alert)
    (nothing : ∀ event, (world.take id).1 ≠ .event event) : (world.take id).2 = world := by
  unfold World.take at nothing ⊢
  cases found : world.watches[id]? with
  | none => rfl
  | some watch =>
    have kept : watch.take.2 = watch := by
      rw [found] at nothing
      unfold Watch.take at nothing ⊢
      cases outbox : watch.outbox with
      | nil => rfl
      | cons event rest => exact absurd (by simp [outbox]) (nothing event)
    dsimp only
    rw [kept]
    exact put_self h.queued found

theorem backlog_eq (world : World) (id : WatchId) :
    world.backlog id =
      (world.watches[id]?.map fun watch => watch.outbox.length + watch.work).getD 0 := by
  unfold backlog
  cases world.watches[id]? <;> rfl

theorem backlog_poll_le (world : World) (id other : WatchId) :
    (world.poll other).1.backlog id ≤ world.backlog id := by
  rw [backlog_eq, backlog_eq]
  by_cases same : other = id
  · subst same
    cases found : world.watches[other]? with
    | none => simp [poll, act, found]
    | some watch =>
      rw [map_poll (fun _ => rfl) found]
      exact watch.load_poll_le (world.feeds other) turnLimit
  · rw [watch_poll_of_ne same]

theorem backlog_pollAll_le (ids : List WatchId) (world : World) (id : WatchId) :
    (pollAll ids world).1.backlog id ≤ world.backlog id := by
  induction ids generalizing world with
  | nil => exact Nat.le_refl _
  | cons other ids ih => exact (ih _).trans (world.backlog_poll_le id other)

theorem backlog_settle_le (world : World) (id : WatchId) :
    world.settle.1.backlog id ≤ world.backlog id := by
  unfold settle
  induction world.effort generalizing world with
  | zero => exact Nat.le_refl _
  | succ bound ih =>
    rw [settleWithin]
    split
    · exact Nat.le_refl _
    · exact (ih _).trans (backlog_pollAll_le _ { world with line := [] } id)

theorem backlog_take {event : Event} (got : (world.take id).1 = .event event) :
    (world.take id).2.backlog id + 1 = world.backlog id := by
  rw [backlog_eq, backlog_eq]
  unfold take at got ⊢
  cases found : world.watches[id]? with
  | none => simp [found] at got
  | some watch =>
    simp only [found] at got
    unfold Watch.take at got ⊢
    cases outbox : watch.outbox with
    | nil =>
      simp only [outbox] at got
      split at got <;> cases got
    | cons first rest =>
      simp [put, Watch.wakeIf, Watch.work, outbox]
      omega

theorem drainWithin_of_event {bound : Nat} {event : Event}
    (got : (world.settle.1.take id).1 = .event event) :
    let rest := drainWithin bound (world.settle.1.take id).2 id
    drainWithin (bound + 1) world id =
      { rest with events := event :: rest.events, notices := world.settle.2 ++ rest.notices } := by
  simp only [drainWithin]
  generalize world.settle.1.take id = taken at got ⊢
  obtain ⟨delivery, after⟩ := taken
  subst got
  rfl

theorem drainWithin_of_nothing {bound : Nat}
    (nothing : ∀ event, (world.settle.1.take id).1 ≠ .event event) :
    drainWithin (bound + 1) world id =
      ⟨[], (world.settle.1.take id).1, (world.settle.1.take id).2, world.settle.2⟩ := by
  simp only [drainWithin]

/-- Each event that is taken is one less that can still come, so the bound is not reached. -/
theorem Alert.drainWithin (h : world.Alert) {bound : Nat} (enough : world.backlog id < bound) :
    let drained := World.drainWithin bound world id
    drained.world.Alert ∧ drained.world.line = [] ∧
      (drained.world.take id).1 = drained.last ∧ ∀ event, drained.last ≠ .event event := by
  induction bound generalizing world with
  | zero => cases enough
  | succ bound ih =>
    have fewer := world.backlog_settle_le id
    by_cases nothing : ∀ event, (world.settle.1.take id).1 ≠ .event event
    · rw [drainWithin_of_nothing nothing, h.settle.take_of_nothing nothing]
      exact ⟨h.settle, line_settle world, rfl, nothing⟩
    · simp only [ne_eq, not_forall, Classical.not_not] at nothing
      obtain ⟨event, got⟩ := nothing
      have one := backlog_take got
      rw [drainWithin_of_event got]
      exact ih (h.settle.take id) (by omega)

/-- A consumer that takes as long as something comes gets all there is: the relays have settled
then, and asking once more gives what it got last, which is no event. -/
theorem Alert.drain (h : world.Alert) (id : WatchId) :
    let drained := world.drain id
    drained.world.Alert ∧ drained.world.line = [] ∧
      (drained.world.take id).1 = drained.last ∧ ∀ event, drained.last ≠ .event event :=
  h.drainWithin (Nat.lt_succ_self _)

end World

namespace History

/-- Whatever parties do, when the relays have settled none is in line and none can go further. -/
theorem settled_run (host : Host) (actions : List Action) :
    let settled := ((start (.fresh host)).run actions).world.settle.1
    settled.line = [] ∧ ∀ (id : WatchId) (watch : Watch), settled.watches[id]? = some watch →
      watch.step (settled.feeds id) = none :=
  ⟨World.line_settle _, fun _ _ found =>
    (alert_run (World.alert_fresh host) actions).step_settle found⟩

end History
end AccessFeed
