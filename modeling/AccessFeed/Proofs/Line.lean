import AccessFeed.Proofs.Backdrop
import AccessFeed.Proofs.Settling
import Mathlib.Data.List.Nodup

/-! The order of the relays in line. A turn goes the same way wherever in line the relay stands, so
letting the relays run until none can go further is nothing but turns of some relays one after
another. -/
namespace AccessFeed
namespace World

variable {world next : World} {id : WatchId}

/-- A line after a relay got in, if it was woken and is not in line yet. -/
def joined (id : WatchId) (woken : Bool) (line : List WatchId) : List WatchId :=
  if woken && !line.contains id then line ++ [id] else line

theorem joined_joined (id : WatchId) (first second : Bool) (line : List WatchId) :
    joined id second (joined id first line) = joined id (first || second) line := by
  cases first with
  | false => simp [joined]
  | true =>
    cases waits : line.contains id <;> cases second <;> simp_all [joined]

theorem joined_true {line : List WatchId} (absent : id ∉ line) :
    joined id true line = line ++ [id] := by
  simp [joined, absent]

/-- No relay gets in line twice. -/
theorem nodup_joined {line : List WatchId} (nodup : line.Nodup) (id : WatchId) (woken : Bool) :
    (joined id woken line).Nodup := by
  unfold joined
  split
  · rename_i joins
    simp only [Bool.and_eq_true, Bool.not_eq_true', List.contains_eq_mem,
      decide_eq_false_iff_not] at joins
    rw [← List.concat_eq_append]
    exact nodup.concat joins.2
  · exact nodup

theorem nodup_line_edit (edit : Edit world next) (nodup : world.line.Nodup) :
    next.line.Nodup := by
  cases edit with
  | put id watch => exact nodup_joined nodup id watch.isDue
  | turn id watch => exact nodup_joined (nodup.erase id) id watch.isDue
  | @skip id absent => exact nodup.erase id
  | around host directory outages handlers consumers => exact nodup

theorem nodup_line_enact (nodup : world.line.Nodup) (action : Action) :
    (world.enact action).1.line.Nodup := by
  cases opened : world.opened? action with
  | none => exact (edits_enact opened).induction nodup_line_edit nodup
  | some id =>
    obtain ⟨subscriber, includeExisting, options, names, edits⟩ := exists_opening opened
    have opening : (world.opening subscriber includeExisting options names).line.Nodup :=
      nodup_joined nodup world.nextId _
    exact edits.induction nodup_line_edit opening

/-- A relay learns that nobody feeds it any more whatever the line is, and only that one wakes. -/
theorem checkFeed_line (world : World) (id : WatchId) :
    ∃ woken, ∀ line, ({ world with line } : World).checkFeed id =
      { world.checkFeed id with line := joined id woken line } := by
  have feeds (line : List WatchId) : ({ world with line } : World).feeds id = world.feeds id := rfl
  cases found : world.watches[id]? with
  | none => exact ⟨false, fun line => by simp [checkFeed, found, joined]⟩
  | some watch =>
    cases fed : world.feeds id with
    | true => exact ⟨false, fun line => by simp [checkFeed, found, feeds, fed, joined]⟩
    | false =>
      refine ⟨watch.starve.isDue, fun line => ?_⟩
      simp [checkFeed, found, feeds, fed, joined, put]

theorem carryOut_line (id : WatchId) (effects : List Effect) (world : World) :
    ∃ woken, ∀ line, carryOut id effects { world with line } =
      ({ (carryOut id effects world).1 with line := joined id woken line },
        (carryOut id effects world).2) := by
  induction effects generalizing world with
  | nil => exact ⟨false, fun line => rfl⟩
  | cons effect rest ih =>
    cases effect with
    | note notice =>
      obtain ⟨woken, same⟩ := ih world
      refine ⟨woken, fun line => ?_⟩
      simp only [carryOut, same line]
    | leave =>
      obtain ⟨first, left⟩ := checkFeed_line { world with host := (world.host.remove id).1 } id
      obtain ⟨second, same⟩ := ih (world.unregister id).1
      refine ⟨first || second, fun line => ?_⟩
      have unregistered : ({ world with line } : World).unregister id =
          ({ (world.unregister id).1 with line := joined id first line },
            (world.unregister id).2) := congrArg (·, _) (left line)
      have later := same (joined id first line)
      rw [joined_joined] at later
      simp only [carryOut, unregistered, later]

/-- A turn goes the same way wherever in line the relay stands. -/
theorem poll_line (world : World) (id : WatchId) :
    ∃ woken, ∀ line, ({ world with line } : World).poll id =
      ({ (world.poll id).1 with line := joined id woken (line.erase id) },
        (world.poll id).2) := by
  cases found : world.watches[id]? with
  | none => exact ⟨false, fun line => by simp [poll, act, found, joined]⟩
  | some watch =>
    obtain ⟨woken, same⟩ := carryOut_line id (watch.poll (world.feeds id) turnLimit).2
      (({ world with line := world.line.erase id } : World).put id
        (watch.poll (world.feeds id) turnLimit).1)
    refine ⟨(watch.poll (world.feeds id) turnLimit).1.isDue || woken, fun line => ?_⟩
    have polled := same
      (joined id (watch.poll (world.feeds id) turnLimit).1.isDue (line.erase id))
    rw [joined_joined] at polled
    simp only [poll, act, found]
    exact polled

theorem pollAll_append (ids more : List WatchId) (world : World) :
    pollAll (ids ++ more) world =
      ((pollAll more (pollAll ids world).1).1,
        (pollAll ids world).2 ++ (pollAll more (pollAll ids world).1).2) := by
  induction ids generalizing world with
  | nil => rfl
  | cons id ids ih => simp only [List.cons_append, pollAll, ih, List.append_assoc]

/-- Turns of relays that stand in line together with others go as if they had left it together. -/
theorem pollAll_line (ids others : List WatchId) {world : World} {line : List WatchId}
    (perm : line.Perm (ids ++ (others ++ world.line))) (nodup : line.Nodup) :
    ∃ after : List WatchId, pollAll ids { world with line } =
        ({ (pollAll ids world).1 with line := after }, (pollAll ids world).2) ∧
      after.Perm (others ++ (pollAll ids world).1.line) ∧ after.Nodup := by
  induction ids generalizing world line with
  | nil => exact ⟨line, rfl, perm, nodup⟩
  | cons id ids ih =>
    obtain ⟨woken, same⟩ := poll_line world id
    have distinct := perm.nodup_iff.mp nodup
    have absent : id ∉ ids ++ (others ++ world.line) :=
      (List.nodup_cons.mp distinct).1
    have apart : id ∉ world.line := fun waits =>
      absent (List.mem_append_right _ (List.mem_append_right _ waits))
    have line_poll : (world.poll id).1.line = joined id woken world.line := by
      have polled := congrArg (fun result => result.1.line) (same world.line)
      rwa [List.erase_of_not_mem apart] at polled
    have erased : (line.erase id).Perm (ids ++ (others ++ world.line)) := by
      have left := perm.erase id
      rwa [List.cons_append, List.erase_cons_head] at left
    have away : id ∉ line.erase id := nodup.not_mem_erase
    have joins : (joined id woken (line.erase id)).Perm
        (ids ++ (others ++ (world.poll id).1.line)) := by
      rw [line_poll]
      cases woken with
      | false => exact erased
      | true =>
        rw [joined_true away, joined_true apart, ← List.append_assoc others,
          ← List.append_assoc ids]
        exact erased.append_right [id]
    obtain ⟨after, ran, rest⟩ := ih joins (nodup_joined (nodup.erase id) id woken)
    refine ⟨after, ?_, rest⟩
    simp only [pollAll, same line, ran]

/-- Rounds are turns of some relays one after another, apart from the order of the line. -/
theorem exists_pollAll_settleWithin (bound : Nat) {world : World} {line : List WatchId}
    (perm : line.Perm world.line) (nodup : line.Nodup) :
    ∃ ids after, pollAll ids { world with line } =
        ({ (settleWithin bound world).1 with line := after }, (settleWithin bound world).2) ∧
      after.Perm (settleWithin bound world).1.line := by
  induction bound generalizing world line with
  | zero => exact ⟨[], line, rfl, perm⟩
  | succ bound ih =>
    rw [settleWithin]
    split
    · exact ⟨[], line, rfl, perm⟩
    · have together : line.Perm (world.line.take roundLimit ++
          (world.line.drop roundLimit ++ ({ world with line := [] } : World).line)) := by
        rwa [List.append_nil, List.take_append_drop]
      obtain ⟨between, round, stands, distinct⟩ :=
        pollAll_line (world.line.take roundLimit) (world.line.drop roundLimit) together nodup
      have again : between.Perm world.round.1.line :=
        stands.trans ((List.reverse_perm _).symm.append_left _)
      obtain ⟨ids, after, ran, rest⟩ := ih again distinct
      refine ⟨world.line.take roundLimit ++ ids, after, ?_, rest⟩
      rw [pollAll_append, round]
      exact congrArg (fun result => (result.1, world.round.2 ++ result.2)) ran

/-- Letting the relays run until none can go further is turns of some relays one after another. -/
theorem exists_pollAll_settle (nodup : world.line.Nodup) :
    ∃ ids, pollAll ids world = world.settle := by
  obtain ⟨ids, after, ran, rest⟩ :=
    exists_pollAll_settleWithin world.effort (.refl world.line) nodup
  have idle : world.settle.1.line = [] := line_settle world
  obtain rfl : after = [] := by
    have empty : after.Perm world.settle.1.line := rest
    rw [idle] at empty
    exact empty.eq_nil
  refine ⟨ids, ran.trans ?_⟩
  change ({ world.settle.1 with line := [] }, world.settle.2) = world.settle
  rw [← idle]

theorem consumers_pollAll (ids : List WatchId) (world : World) :
    (pollAll ids world).1.consumers = world.consumers := by
  induction ids generalizing world with
  | nil => rfl
  | cons id ids ih => exact (ih _).trans (beside_around world (.poll id)).consumers_eq

end World

namespace History

variable {history : History} {id : WatchId}

theorem nodup_line_run (nodup : history.world.line.Nodup) (actions : List Action) :
    (history.run actions).world.line.Nodup := by
  induction actions generalizing history with
  | nil => exact nodup
  | cons action actions ih => exact ih (World.nodup_line_enact nodup action)

theorem run_polls (history : History) (ids : List WatchId) :
    history.run (ids.map .poll) =
      ⟨(World.pollAll ids history.world).1, history.notices ++ (World.pollAll ids history.world).2,
        history.deliveries⟩ := by
  induction ids generalizing history with
  | nil => simp [World.pollAll]
  | cons id ids ih => simp [ih, next, World.enact, World.delivery?, World.pollAll]

theorem exists_run_settle (nodup : history.world.line.Nodup) :
    ∃ ids : List WatchId, history.run (ids.map .poll) =
        ⟨history.world.settle.1, history.notices ++ history.world.settle.2, history.deliveries⟩ ∧
      history.world.settle.1.consumers = history.world.consumers := by
  obtain ⟨ids, same⟩ := World.exists_pollAll_settle nodup
  refine ⟨ids, by rw [run_polls, same], ?_⟩
  rw [← same, World.consumers_pollAll]

theorem next_take_of_event {event : Event} (reads : history.world.consumers.contains id = true)
    (got : (history.world.take id).1 = .event event) :
    history.next (.take id) =
      ⟨(history.world.take id).2, history.notices, history.deliveries ++ [(id, event)]⟩ := by
  simp [next, World.enact, World.delivery?, reads, got]

theorem next_take_of_nothing (reads : history.world.consumers.contains id = true)
    (nothing : ∀ event, (history.world.take id).1 ≠ .event event) :
    history.next (.take id) =
      ⟨(history.world.take id).2, history.notices, history.deliveries⟩ := by
  have silent : history.world.delivery? (.take id) = none := by
    simp only [World.delivery?, reads, if_true]
  simp [next, World.enact, reads, silent]

/-- What a consumer does that takes as long as something comes is to let relays run and to take. The
events that it ends up with are those that were delivered. -/
theorem exists_run_drainWithin (bound : Nat) {history : History}
    (nodup : history.world.line.Nodup) (reads : history.world.consumers.contains id = true) :
    let drained := World.drainWithin bound history.world id
    ∃ actions, history.run actions =
        ⟨drained.world, history.notices ++ drained.notices,
          history.deliveries ++ drained.events.map fun event => (id, event)⟩ ∧
      drained.world.consumers = history.world.consumers := by
  induction bound generalizing history with
  | zero => exact ⟨[], by simp [World.drainWithin], rfl⟩
  | succ bound ih =>
    obtain ⟨ids, settled, consumers⟩ := exists_run_settle nodup
    have still : history.world.settle.1.consumers.contains id = true := consumers ▸ reads
    have kept : (history.world.settle.1.take id).2.consumers = history.world.consumers :=
      (World.beside_take history.world.settle.1 id).consumers_eq.trans consumers
    by_cases nothing : ∀ event, (history.world.settle.1.take id).1 ≠ .event event
    · rw [World.drainWithin_of_nothing nothing]
      refine ⟨ids.map .poll ++ [.take id], ?_, kept⟩
      rw [run_append, settled, run_cons, next_take_of_nothing still nothing]
      simp
    · simp only [ne_eq, not_forall, Classical.not_not] at nothing
      obtain ⟨event, got⟩ := nothing
      have taken := @next_take_of_event ⟨history.world.settle.1,
        history.notices ++ history.world.settle.2, history.deliveries⟩ id event still got
      have distinct : (history.world.settle.1.take id).2.line.Nodup := by
        have run := nodup_line_run nodup (ids.map .poll ++ [.take id])
        rwa [run_append, settled, run_cons, taken] at run
      obtain ⟨actions, rest, consumers⟩ := @ih ⟨(history.world.settle.1.take id).2,
        history.notices ++ history.world.settle.2, history.deliveries ++ [(id, event)]⟩ distinct
        (kept ▸ reads)
      rw [World.drainWithin_of_event got]
      refine ⟨ids.map .poll ++ .take id :: actions, ?_, consumers.trans kept⟩
      rw [run_append, settled, run_cons, taken, rest]
      simp

end History
end AccessFeed
