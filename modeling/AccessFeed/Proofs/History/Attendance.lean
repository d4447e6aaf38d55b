import AccessFeed.Proofs.Built
import AccessFeed.Proofs.History.Follow
import AccessFeed.Proofs.Turn
import Mathlib.Data.List.Nodup
import Mathlib.Data.List.Perm.Subperm

/-! When relays begin to run and when they end, as it is told.

The beginning of a relay is told once and before its end, and its end is told once, with the exit
that the state shows from then on. -/
namespace AccessFeed

/-- How the relay ended, if it has. -/
def Phase.exit? : Phase → Option Exit
  | .finished exit => some exit
  | _ => none

theorem Phase.isSome_exit? (phase : Phase) : phase.exit?.isSome = phase.isFinished := by
  cases phase <;> rfl

namespace Notice

/-- The watch whose relay is told to have begun. -/
def begun? : Notice → Option WatchId
  | .begun id => some id
  | _ => none

/-- The watch whose relay is told to have ended, and how. -/
def finished? : Notice → Option (WatchId × Exit)
  | .finished id exit => some (id, exit)
  | _ => none

/-- No relay is told to have ended that was not told to have begun before. -/
def InTurn (notices : List Notice) : Prop :=
  ∀ earlier, earlier <+: notices →
    (earlier.filterMap finished?).length ≤ (earlier.filterMap begun?).length

/-- What is selected from the notices about one watch, where what is selected shows its watch. -/
theorem filterMap_about_eq_filter {α : Type} {select : Notice → Option α} {key : α → WatchId}
    (keyed : ∀ notice value, select notice = some value → notice.watch? = some (key value))
    (id : WatchId) (notices : List Notice) :
    (about id notices).filterMap select = (notices.filterMap select).filter (key · == id) := by
  rw [about, List.filterMap_filter, List.filter_filterMap]
  apply List.filterMap_congr
  intro notice _
  cases selected : select notice with
  | none => simp
  | some value => simp [keyed notice value selected, Option.filter]

theorem filterMap_begun_about (id : WatchId) (notices : List Notice) :
    (about id notices).filterMap begun? = (notices.filterMap begun?).filter (· == id) := by
  apply @filterMap_about_eq_filter _ begun? fun id => id
  intro notice value selected
  cases notice <;> simp_all [begun?, watch?]

theorem filterMap_finished_about (id : WatchId) (notices : List Notice) :
    (about id notices).filterMap finished? = (notices.filterMap finished?).filter (·.1 == id) := by
  apply @filterMap_about_eq_filter _ finished? Prod.fst
  rintro notice ⟨other, exit⟩ selected
  cases notice <;> simp_all [finished?, watch?]

theorem about_about (id : WatchId) (notices : List Notice) :
    about id (about id notices) = about id notices := by
  simp [about]

theorem inTurn_nil : InTurn [] := by
  intro earlier within
  rw [List.prefix_nil.mp within]
  exact Nat.le_refl _

theorem InTurn.append {notices more : List Notice} (h : InTurn notices)
    (bound : ((notices ++ more).filterMap finished?).length ≤
      (notices.filterMap begun?).length) : InTurn (notices ++ more) := by
  intro earlier within
  obtain before | after := List.prefix_or_prefix_of_prefix within (List.prefix_append notices more)
  · exact h earlier before
  · calc (earlier.filterMap finished?).length
        ≤ ((notices ++ more).filterMap finished?).length :=
          (within.sublist.filterMap finished?).length_le
      _ ≤ (notices.filterMap begun?).length := bound
      _ ≤ (earlier.filterMap begun?).length := (after.sublist.filterMap begun?).length_le

end Notice

namespace Watch

/-- What was told of a watch agrees with where its relay stands. -/
structure Attends (watch : Watch) (told : List Notice) : Prop where
  begun_eq : told.filterMap Notice.begun? = if watch.begun then [watch.id] else []
  finished_eq : told.filterMap Notice.finished? =
    (watch.phase.exit?.map fun exit => (watch.id, exit)).toList
  inTurn : Notice.InTurn told

/-- The relay has neither begun nor ended on the way from one state to another. -/
structure Quiet (watch next : Watch) (told : List Notice) : Prop where
  id_eq : next.id = watch.id
  begun_eq : next.begun = watch.begun
  phase_eq : next.phase = watch.phase
  begun_nil : told.filterMap Notice.begun? = []
  finished_nil : told.filterMap Notice.finished? = []

variable {watch next : Watch} {told : List Notice}

theorem Attends.quiet (h : watch.Attends told) {more : List Notice}
    (quiet : watch.Quiet next more) : next.Attends (told ++ more) where
  begun_eq := by
    rw [List.filterMap_append, h.begun_eq, quiet.begun_nil, List.append_nil, quiet.begun_eq,
      quiet.id_eq]
  finished_eq := by
    rw [List.filterMap_append, h.finished_eq, quiet.finished_nil, List.append_nil, quiet.phase_eq,
      quiet.id_eq]
  inTurn := by
    apply h.inTurn.append
    rw [List.filterMap_append, quiet.finished_nil, List.append_nil]
    exact h.inTurn told (List.prefix_refl told)

/-- Nothing but what is told of the watch itself matters. -/
theorem Attends.about (h : watch.Attends told) : watch.Attends (Notice.about watch.id told) := by
  have begun_about {earlier : List Notice} (within : earlier <+: told) :
      (Notice.about watch.id earlier).filterMap Notice.begun? =
        earlier.filterMap Notice.begun? := by
    rw [Notice.filterMap_begun_about, List.filter_eq_self]
    intro id member
    have all := (within.sublist.filterMap Notice.begun?).subset member
    rw [h.begun_eq] at all
    split at all
    · simpa using all
    · cases all
  refine ⟨(begun_about (List.prefix_refl told)).trans h.begun_eq, ?_, ?_⟩
  · rw [Notice.filterMap_finished_about, h.finished_eq]
    cases watch.phase.exit? <;> simp
  · rintro _ ⟨rest, parts⟩
    obtain ⟨earlier, later, rfl, rfl, -⟩ := List.filter_eq_append_iff.mp parts.symm
    have within := List.prefix_append earlier later
    calc ((Notice.about watch.id earlier).filterMap Notice.finished?).length
        ≤ (earlier.filterMap Notice.finished?).length := by
          rw [Notice.filterMap_finished_about]
          exact List.length_filter_le _ _
      _ ≤ (earlier.filterMap Notice.begun?).length := h.inTurn earlier within
      _ = ((Notice.about watch.id earlier).filterMap Notice.begun?).length := by
          rw [begun_about within]

theorem quiet_arrival {event : Event} {effects : List Effect}
    (arrival : Arrival watch event next effects) : watch.Quiet next (Effect.notices effects) := by
  cases arrival <;> exact ⟨rfl, rfl, rfl, rfl, rfl⟩

theorem quiet_handle (watch : Watch) (lookup : Lookup) (change : AccessChange) :
    watch.Quiet (watch.handle lookup change).1
      (Effect.notices (watch.handle lookup change).2) := by
  have handling := watch.handling_handle lookup change
  generalize watch.handle lookup change = result at handling ⊢
  obtain ⟨next, effects⟩ := result
  dsimp only at handling ⊢
  cases handling with
  | ignore => exact ⟨rfl, rfl, rfl, rfl, rfl⟩
  | skip => exact ⟨rfl, rfl, rfl, rfl, rfl⟩
  | revoke revoked known arrival =>
    have quiet := quiet_arrival arrival
    exact ⟨quiet.id_eq, quiet.begun_eq, quiet.phase_eq, quiet.begun_nil, quiet.finished_nil⟩
  | grant granted resolved arrival =>
    have quiet := quiet_arrival arrival
    exact ⟨quiet.id_eq, quiet.begun_eq, quiet.phase_eq, quiet.begun_nil, quiet.finished_nil⟩

theorem quiet_stop (watch : Watch) :
    watch.Quiet watch.stop.1 (Effect.notices watch.stop.2) := by
  unfold stop
  split <;> exact ⟨rfl, rfl, rfl, rfl, rfl⟩

/-- A relay that has begun and not ended goes one step on. -/
theorem Attends.advance {fed : Bool} {effects : List Effect} (h : watch.Attends told)
    (begun : watch.begun = true) (advance : watch.Advance fed next effects) :
    next.begun = true ∧ next.Attends (told ++ Effect.notices effects) := by
  have active : watch.phase.exit? = none := by
    cases advance with
    | quit phase =>
      obtain phase | sending := phase
      · rw [phase]
        rfl
      · cases same : watch.phase <;> simp_all [Phase.isSending, Phase.exit?]
    | _ => simp_all [Phase.exit?]
  have none : told.filterMap Notice.finished? = [] := by rw [h.finished_eq, active]; rfl
  have one : (told.filterMap Notice.begun?).length = 1 := by rw [h.begun_eq, begun]; rfl
  have begun_eq : next.begun = true ∧ next.id = watch.id ∧
      (Effect.notices effects).filterMap Notice.begun? = [] := by
    cases advance <;> exact ⟨begun, rfl, rfl⟩
  have finished_eq : (Effect.notices effects).filterMap Notice.finished? =
      (next.phase.exit?.map fun exit => (next.id, exit)).toList := by
    cases advance <;> (clear none one; simp_all [finish, Phase.exit?]) <;> rfl
  obtain ⟨still, same, silent⟩ := begun_eq
  refine ⟨still, ?_, ?_, h.inTurn.append ?_⟩
  · rw [List.filterMap_append, h.begun_eq, silent, List.append_nil, begun, still, same]
  · rw [List.filterMap_append, none, List.nil_append, finished_eq]
  · rw [List.filterMap_append, none, List.nil_append, finished_eq, one]
    exact Option.length_toList_le

theorem Attends.begin (h : watch.Attends told) :
    watch.begin.1.begun = true ∧ watch.begin.1.Attends (told ++ Effect.notices watch.begin.2) := by
  unfold Watch.begin
  split
  · rename_i begun
    simpa using ⟨begun, h⟩
  · rename_i idle
    have told_nil : told.filterMap Notice.begun? = [] := by rw [h.begun_eq, if_neg idle]
    refine ⟨rfl, ?_, ?_, h.inTurn.append ?_⟩
    · rw [List.filterMap_append, told_nil]
      rfl
    · rw [List.filterMap_append, h.finished_eq]
      exact List.append_nil _
    · have silent :
          (Effect.notices [.note (.begun watch.id)]).filterMap Notice.finished? = [] := rfl
      rw [List.filterMap_append, silent, List.append_nil]
      exact h.inTurn told (List.prefix_refl told)

theorem Attends.poll (h : watch.Attends told) (fed : Bool) (limit : Nat) :
    (watch.poll fed limit).1.Attends (told ++ Effect.notices (watch.poll fed limit).2) := by
  have ran := (@run_induction fed (fun watch told => watch.begun = true ∧ watch.Attends told)
    (fun advance h => h.2.advance h.1 advance) _ _ h.begin watch.begin.1.work limit).2
  rw [List.append_assoc, ← Effect.notices_append] at ran
  simp only [Watch.poll]
  split
  · exact ⟨ran.begun_eq, ran.finished_eq, ran.inTurn⟩
  · exact ⟨ran.begun_eq, ran.finished_eq, ran.inTurn⟩

end Watch

namespace Course

/-- What was told in a course agrees with where the relay stands after it. -/
theorem attends_make {course : Course} (h : course.watch.Attends course.notices) (move : Move) :
    (course.make move).watch.Attends (course.make move).notices := by
  have silent {next : Watch} (id_eq : next.id = course.watch.id)
      (begun_eq : next.begun = course.watch.begun) (phase_eq : next.phase = course.watch.phase) :
      next.Attends course.notices := by
    simpa using @Watch.Attends.quiet _ _ _ h [] ⟨id_eq, begun_eq, phase_eq, rfl, rfl⟩
  cases move with
  | handle lookup change => exact h.quiet (course.watch.quiet_handle lookup change)
  | poll limit => exact h.poll course.isFed limit
  | take =>
    rw [make_take]
    unfold Watch.take
    split
    · exact silent rfl rfl rfl
    · exact h
  | stop => exact h.quiet course.watch.quiet_stop
  | drop => exact silent rfl rfl rfl

theorem attends_run {course : Course} (h : course.watch.Attends course.notices)
    (moves : List Move) : (course.run moves).watch.Attends (course.run moves).notices := by
  induction moves generalizing course with
  | nil => exact h
  | cons move moves ih => exact ih (attends_make h move)

end Course

namespace World

variable {world : World} {id : WatchId} {action : Action}

/-- A watch that is opened has a relay that has not begun. -/
theorem watch_of_opened (opened : world.opened? action = some id) :
    ∃ watch, (world.enact action).1.watches[id]? = some watch ∧ watch.Attends [] := by
  obtain ⟨subscriber, options, known, snapshot, -, watch, found, rfl | rfl⟩ :=
    exists_start_of_opened opened
  all_goals exact ⟨_, found, rfl, rfl, Notice.inTurn_nil⟩

end World

namespace History

/-- What was told of a watch agrees with where its relay stands, and before there is a watch nothing
is told of it. -/
def Attends (history : History) (id : WatchId) : Prop :=
  match history.world.watches[id]? with
  | some watch => watch.Attends (Notice.about id history.notices)
  | none => Notice.about id history.notices = []

variable {history : History} {id : WatchId}

theorem attends_of_some {watch : Watch} (found : history.world.watches[id]? = some watch)
    (attends : watch.Attends (Notice.about id history.notices)) : history.Attends id := by
  rw [Attends, found]
  exact attends

theorem Attends.next (h : history.Attends id) (coherent : history.world.Coherent)
    (action : Action) : (history.next action).Attends id := by
  cases found : history.world.watches[id]? with
  | some watch =>
    rw [Attends, found] at h
    let course : Course := ⟨watch, (history.world.glimpse id).isFed, false,
      Notice.about id history.notices, history.received id⟩
    have tracks : history.Tracks id course :=
      ⟨⟨found, rfl⟩, (Notice.about_about id _).symm, rfl, coherent⟩
    obtain ⟨drops, _, rfl, tracks, -⟩ := tracks.next action
    have attends := (@Course.attends_run course h
      ((history.world.touch id action).moves ++ List.replicate drops .drop)).about
    rw [tracks.id_eq, ← tracks.about_eq] at attends
    exact attends_of_some tracks.watch_eq attends
  | none =>
    rw [Attends, found] at h
    have absent : (history.world.glimpse id).watch? = none := found
    have silent : Notice.about id (history.next action).notices = [] := by
      rw [History.next, Notice.about_append, h, World.about_enact coherent action id,
        World.effects_of_absent absent]
      rfl
    by_cases opened : history.world.opened? action = some id
    · obtain ⟨watch, held, attends⟩ := World.watch_of_opened opened
      exact attends_of_some held (silent.symm ▸ attends)
    · have missing : (history.next action).world.watches[id]? = none :=
        (congrArg Glimpse.watch? (World.glimpse_enact_of_ne opened)).trans
          (Glimpse.watch?_after_of_absent absent _)
      rw [Attends, missing]
      exact silent

theorem coherent_fresh (host : Host) (actions : List Action) :
    ((start (.fresh host)).run actions).world.Coherent := by
  refine coherent_run ?_ actions
  constructor <;> simp [start, World.fresh]

/-- Of a history that begins without watches, what is told of a watch agrees with it. -/
theorem attends_fresh (host : Host) (actions : List Action) (id : WatchId) :
    ((start (.fresh host)).run actions).Attends id := by
  induction actions using List.reverseRecOn with
  | nil => simp [Attends, start, World.fresh]
  | append_singleton actions action ih =>
    rw [run_append]
    exact ih.next (coherent_fresh host actions) action

/-- A list of watches with something each lists what is held of all watches if it agrees for every
watch with what is held of it. -/
theorem perm_of_filter_eq {β : Type} [DecidableEq β] {listed : List (WatchId × β)}
    {watches : Std.ExtTreeMap WatchId Watch} {read : Watch → Option β}
    (h : ∀ id, listed.filter (·.1 == id) =
      ((watches[id]?.bind read).map fun value => (id, value)).toList) :
    listed.Perm (watches.toList.filterMap fun entry =>
      (read entry.2).map fun value => (entry.1, value)) := by
  have distinct : (watches.toList.filterMap fun entry =>
      (read entry.2).map fun value => (entry.1, value)).Nodup := by
    refine List.Pairwise.filterMap _ ?_ watches.distinct_keys_toList
    intro first second apart held member held' member' same
    subst same
    simp only [Option.map_eq_some_iff] at member member'
    obtain ⟨_, -, rfl⟩ := member
    obtain ⟨_, -, key⟩ := member'
    exact apart (Std.LawfulEqCmp.compare_eq_iff_eq.mpr (congrArg Prod.fst key).symm)
  have member (id : WatchId) (value : β) :
      (id, value) ∈ listed ↔ watches[id]?.bind read = some value := by
    have selected : (id, value) ∈ listed ↔ (id, value) ∈ listed.filter (·.1 == id) := by simp
    rw [selected, h]
    cases watches[id]?.bind read <;> simp [eq_comm]
  have single : listed.Nodup := by
    rw [List.nodup_iff_count_le_one]
    rintro ⟨id, value⟩
    have selected : (listed.filter (·.1 == id)).count (id, value) = listed.count (id, value) :=
      List.count_filter (by simp)
    rw [← selected, h]
    cases watches[id]?.bind read with
    | none => simp
    | some other => exact List.count_le_length
  rw [List.perm_ext_iff_of_nodup single distinct]
  rintro ⟨id, value⟩
  rw [member]
  simp [List.mem_filterMap, Std.ExtTreeMap.mem_toList_iff_getElem?_eq_some, Option.bind_eq_some_iff]

theorem Attends.filter_begun (h : history.Attends id) (coherent : history.world.Coherent) :
    (history.notices.filterMap Notice.begun?).filter (· == id) =
      if history.world.watches[id]?.any (·.begun) then [id] else [] := by
  rw [← Notice.filterMap_begun_about]
  unfold Attends at h
  cases found : history.world.watches[id]? with
  | none =>
    rw [found] at h
    rw [h]
    rfl
  | some watch =>
    rw [found] at h
    rw [h.begun_eq, coherent.id_eq id watch found]
    rfl

theorem Attends.filter_finished (h : history.Attends id) (coherent : history.world.Coherent) :
    (history.notices.filterMap Notice.finished?).filter (·.1 == id) =
      ((history.world.watches[id]?.bind (·.phase.exit?)).map fun exit => (id, exit)).toList := by
  rw [← Notice.filterMap_finished_about]
  unfold Attends at h
  cases found : history.world.watches[id]? with
  | none =>
    rw [found] at h
    rw [h]
    rfl
  | some watch =>
    rw [found] at h
    rw [h.finished_eq, coherent.id_eq id watch found]
    rfl

theorem Attends.inTurn (h : history.Attends id) :
    Notice.InTurn (Notice.about id history.notices) := by
  unfold Attends at h
  split at h
  · exact h.inTurn
  · rw [h]
    exact Notice.inTurn_nil

variable (host : Host) (actions : List Action)

/-- As many relays are told to have begun as the state shows to have. -/
theorem length_begun :
    let now := (start (.fresh host)).run actions
    (now.notices.filterMap Notice.begun?).length =
      now.world.watches.toList.countP fun entry => entry.2.begun := by
  intro now
  have agrees (id : WatchId) :
      ((now.notices.filterMap Notice.begun?).map fun id => (id, ())).filter (·.1 == id) =
        ((now.world.watches[id]?.bind fun watch => Option.guard (fun _ => watch.begun) ()).map
          fun value => (id, value)).toList := by
    have told := (attends_fresh host actions id).filter_begun (coherent_fresh host actions)
    rw [List.filter_map]
    simp only [Function.comp_def]
    rw [told]
    cases now.world.watches[id]? with
    | none => rfl
    | some watch => cases begun : watch.begun <;> simp [Option.guard, begun]
  have counted := (perm_of_filter_eq agrees).length_eq
  rw [List.length_map] at counted
  rw [counted, List.length_filterMap_eq_countP]
  apply List.countP_congr
  intro entry _
  cases entry.2.begun <;> simp [Option.guard]

/-- The relays that are told to have ended are those that the state shows to have, each told once
with its exit. -/
theorem perm_finished :
    let now := (start (.fresh host)).run actions
    (now.notices.filterMap Notice.finished?).Perm
      (now.world.watches.toList.filterMap fun entry =>
        entry.2.phase.exit?.map fun exit => (entry.1, exit)) := by
  intro now
  exact @perm_of_filter_eq _ _ _ now.world.watches (·.phase.exit?) fun id =>
    (attends_fresh host actions id).filter_finished (coherent_fresh host actions)

theorem length_finished :
    let now := (start (.fresh host)).run actions
    (now.notices.filterMap Notice.finished?).length =
      now.world.watches.toList.countP fun entry => entry.2.phase.isFinished := by
  intro now
  rw [(perm_finished host actions).length_eq, List.length_filterMap_eq_countP]
  apply List.countP_congr
  intro entry _
  rw [← Phase.isSome_exit?, Option.isSome_map]

/-- At no point of a run more relays were told to have ended than to have begun. -/
theorem inTurn_fresh : Notice.InTurn ((start (.fresh host)).run actions).notices := by
  intro earlier within
  have few (id : WatchId) : ((earlier.filterMap Notice.finished?).map Prod.fst).count id ≤
      (earlier.filterMap Notice.begun?).count id := by
    have counts := (attends_fresh host actions id).inTurn _ (within.filter _)
    rw [← Notice.about, Notice.filterMap_finished_about, Notice.filterMap_begun_about] at counts
    rw [List.count_eq_countP, List.countP_map, List.count_eq_countP, List.countP_eq_length_filter,
      List.countP_eq_length_filter]
    exact counts
  have fewer := (List.subperm_ext_iff.mpr fun id _ => few id).length_le
  rwa [List.length_map] at fewer

end History
end AccessFeed
