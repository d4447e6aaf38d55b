import AccessFeed.Proofs.History
import Mathlib.Data.List.Induction

/-! A watch followed through a history by a course of its own, above all one that only its catalog
can hand changes to. -/
namespace AccessFeed

namespace History

/-- The course tells all of one watch. -/
structure Tracks (history : History) (id : WatchId) (course : Course) : Prop where
  sight : course.At (history.world.glimpse id)
  about_eq : Notice.about id history.notices = Notice.about id course.notices
  received_eq : history.received id = course.received
  coherent : history.world.Coherent

/-- The course tells all of one watch, and nobody but the catalog hands the watch changes. -/
structure Follows (history : History) (id : WatchId) (course : Course) : Prop where
  sight : course.At (history.world.glimpse id)
  isHandled_eq : (history.world.glimpse id).isHandled = false
  about_eq : Notice.about id history.notices = Notice.about id course.notices
  received_eq : history.received id = course.received
  coherent : history.world.Coherent

/-- The events of a watch that met a full intake, oldest first. -/
def rejected (history : History) (id : WatchId) : List Event :=
  history.notices.filterMap (Notice.rejected? id)

/-- The names of the changes that a watch could not resolve, oldest first. -/
def skipped (history : History) (id : WatchId) : List String :=
  history.notices.filterMap (Notice.skipped? id)

/-- What was told stays told. -/
theorem notices_prefix_run (history : History) (actions : List Action) :
    history.notices <+: (history.run actions).notices := by
  induction actions generalizing history with
  | nil => exact List.prefix_rfl
  | cons action actions ih => exact (List.prefix_append _ _).trans (ih (history.next action))

theorem rejected_of_run {history : History} {id : WatchId} {actions : List Action}
    (h : (history.run actions).rejected id = []) : history.rejected id = [] :=
  List.prefix_nil.mp (h ▸ (history.notices_prefix_run actions).filterMap _)

theorem skipped_of_run {history : History} {id : WatchId} {actions : List Action}
    (h : (history.run actions).skipped id = []) : history.skipped id = [] :=
  List.prefix_nil.mp (h ▸ (history.notices_prefix_run actions).filterMap _)

variable {α : Type} {history : History} {id : WatchId} {course : Course}

theorem isHandled_of_touch_enter {world : World} {action : Action}
    (h : world.touch id action = .enter) : (world.glimpse id).isHandled = true := by
  cases action with
  | register other =>
    simp only [World.touch] at h
    split at h
    · split at h
      · rename_i possible
        simp only [Bool.and_eq_true, beq_iff_eq] at possible
        exact possible.2 ▸ possible.1
      · cases h
    · cases h
  | _ =>
    simp only [World.touch] at h
    repeat' split at h
    all_goals cases h

theorem received_next (history : History) (action : Action) (id : WatchId) :
    (history.next action).received id = history.received id ++
      ((history.world.glimpse id).delivered? (history.world.touch id action)).toList := by
  have delivered := history.world.delivery?_enact action id
  unfold received next
  rw [List.filterMap_append]
  congr 1
  cases found : history.world.delivery? action with
  | none =>
    have nothing :
        (history.world.glimpse id).delivered? (history.world.touch id action) = none := by
      rw [Option.eq_none_iff_forall_ne_some]
      intro event some
      rw [← delivered, found] at some
      cases some
    simp [nothing]
  | some delivery =>
    obtain ⟨other, event⟩ := delivery
    by_cases same : other = id
    · subst same
      simp [(delivered event).mp found]
    · have nothing :
          (history.world.glimpse id).delivered? (history.world.touch id action) = none := by
        rw [Option.eq_none_iff_forall_ne_some]
        intro event some
        rw [← delivered, found] at some
        exact same (congrArg Prod.fst (Option.some.inj some))
      simp [nothing, same]

theorem Tracks.watch_eq (h : history.Tracks id course) :
    history.world.watches[id]? = some course.watch := h.sight.watch_eq

theorem Tracks.id_eq (h : history.Tracks id course) : course.watch.id = id :=
  h.coherent.id_eq id course.watch h.watch_eq

theorem Tracks.lt_nextId (h : history.Tracks id course) : id < history.world.nextId :=
  h.coherent.lt_nextId id course.watch h.watch_eq

theorem Tracks.filterMap_eq (h : history.Tracks id course) {select : Notice → Option α}
    (own : ∀ notice, notice.watch? ≠ some id → select notice = none) :
    history.notices.filterMap select = course.notices.filterMap select := by
  rw [← Notice.filterMap_about own, h.about_eq, Notice.filterMap_about own]

theorem Tracks.rejected_eq (h : history.Tracks id course) :
    history.rejected id = course.rejected := by
  rw [rejected, h.filterMap_eq fun _ other => Notice.rejected?_of_ne other, Course.rejected,
    h.id_eq]

theorem Follows.tracks (h : history.Follows id course) : history.Tracks id course :=
  ⟨h.sight, h.about_eq, h.received_eq, h.coherent⟩

theorem Follows.watch_eq (h : history.Follows id course) :
    history.world.watches[id]? = some course.watch := h.tracks.watch_eq

theorem Follows.id_eq (h : history.Follows id course) : course.watch.id = id := h.tracks.id_eq

theorem Follows.filterMap_eq (h : history.Follows id course) {select : Notice → Option α}
    (own : ∀ notice, notice.watch? ≠ some id → select notice = none) :
    history.notices.filterMap select = course.notices.filterMap select :=
  h.tracks.filterMap_eq own

theorem Follows.rejected_eq (h : history.Follows id course) :
    history.rejected id = course.rejected := h.tracks.rejected_eq

/-- Its creator hands a watch changes until it gives that up. -/
theorem isHandled_after_of_ne {touch : Touch} (h : touch ≠ .release) (glimpse : Glimpse) :
    (glimpse.after touch).isHandled = glimpse.isHandled := by
  cases touch with
  | release => exact absurd rfl h
  | _ => simp [Glimpse.after, Glimpse.act] <;> (repeat' split) <;> simp [Glimpse.put]

theorem isHandled_after {glimpse : Glimpse} (h : glimpse.isHandled = false) (touch : Touch) :
    (glimpse.after touch).isHandled = false := by
  by_cases released : touch = .release
  · subst released
    simp [Glimpse.after]
  · rw [isHandled_after_of_ne released, h]

/-- After an action the course has made the moves of it. -/
theorem Tracks.next (h : history.Tracks id course) (action : Action) :
    ∃ drops next, next = course.run
        ((history.world.touch id action).moves ++ List.replicate drops Move.drop) ∧
      (history.next action).Tracks id next ∧
      course.GoesOn ((history.world.glimpse id).effects (history.world.touch id action))
        ((history.world.glimpse id).delivered? (history.world.touch id action)).toList next := by
  have glimpse := World.glimpse_enact h.lt_nextId action
  obtain ⟨drops, sight, on⟩ :=
    Course.at_after h.sight (history.world.touch id action) isHandled_of_touch_enter
  refine ⟨drops, _, rfl, ⟨?_, ?_, ?_, h.coherent.enact action⟩, on⟩
  · exact glimpse.symm ▸ sight
  · rw [on.notices_eq, Notice.about_append, ← h.about_eq]
    exact (Notice.about_append _ _ _).trans
      (congrArg _ (World.about_enact h.coherent action id))
  · rw [received_next, on.received_eq, h.received_eq]

theorem Tracks.run (h : history.Tracks id course) (actions : List Action) :
    ∃ moves, (history.run actions).Tracks id (course.run moves) := by
  induction actions generalizing history course with
  | nil => exact ⟨[], h⟩
  | cons action actions ih =>
    obtain ⟨drops, _, rfl, tracks, -⟩ := h.next action
    obtain ⟨moves, tracks⟩ := ih tracks
    rw [← Course.run_append] at tracks
    exact ⟨_, tracks⟩

theorem Follows.next (h : history.Follows id course) (action : Action) :
    ∃ drops next, next = course.run
        ((history.world.touch id action).moves ++ List.replicate drops Move.drop) ∧
      (history.next action).Follows id next ∧
      course.GoesOn ((history.world.glimpse id).effects (history.world.touch id action))
        ((history.world.glimpse id).delivered? (history.world.touch id action)).toList next := by
  have glimpse := World.glimpse_enact h.tracks.lt_nextId action
  obtain ⟨drops, next, made, tracks, on⟩ := h.tracks.next action
  refine ⟨drops, next, made, ⟨tracks.sight, ?_, tracks.about_eq, tracks.received_eq,
    tracks.coherent⟩, on⟩
  exact glimpse.symm ▸ isHandled_after h.isHandled_eq _

end History

/-- Takes a watch out of the registry whatever the watch does. -/
def Action.dismisses (id : WatchId) : Action → Bool
  | .unregister other => other == id
  | .dropHost => true
  | _ => false

namespace History

variable {history : History} {id : WatchId} {course : Course}

theorem touch_eq_leave_iff (world : World) (id : WatchId) (action : Action) :
    world.touch id action = .leave ↔ action.dismisses id = true := by
  cases action <;> simp only [World.touch, Action.dismisses] <;> (repeat' split) <;> simp_all

theorem isRegistered_act {glimpse : Glimpse} {watch : Watch} (h : glimpse.watch? = some watch)
    (action : Watch → Watch × List Effect) :
    (glimpse.act action).isRegistered = true ↔
      glimpse.isRegistered = true ∧ .leave ∉ (action watch).2 := by
  rw [Glimpse.act, h]
  dsimp only
  split
  · simp_all
  · simp_all [Glimpse.put]

/-- A watch stays registered unless it is dismissed or leaves, and comes to be registered when its
creator registers it. -/
theorem Tracks.registers_next (h : history.Tracks id course) (action : Action) :
    (history.next action).world.host.registers id = true ↔
      (history.world.host.registers id = true ∨ history.world.touch id action = .enter) ∧
        action.dismisses id = false ∧
        .leave ∉ (history.world.glimpse id).effects (history.world.touch id action) := by
  have glimpse := World.glimpse_enact h.lt_nextId action
  have registered : (history.next action).world.host.registers id =
      ((history.world.glimpse id).after (history.world.touch id action)).isRegistered :=
    congrArg Glimpse.isRegistered glimpse
  have dismissed := touch_eq_leave_iff history.world id action
  have before : (history.world.glimpse id).isRegistered = history.world.host.registers id := rfl
  rw [registered, ← before, ← Bool.not_eq_true, ← dismissed]
  generalize history.world.touch id action = touch
  have present := h.sight.watch_eq
  cases touch with
  | handle lookup change =>
    simpa [Glimpse.effects, present, Glimpse.after] using
      isRegistered_act present (·.handle lookup change)
  | poll =>
    simpa [Glimpse.effects, present, Glimpse.after] using
      isRegistered_act present (Watch.poll _ World.turnLimit)
  | stop =>
    simpa [Glimpse.effects, present, Glimpse.after] using isRegistered_act present Watch.stop
  | _ => simp [Glimpse.after, Glimpse.effects]

/-- Nobody registers a watch that its creator has given up. -/
theorem Follows.registers_next (h : history.Follows id course) (action : Action) :
    (history.next action).world.host.registers id = true ↔
      history.world.host.registers id = true ∧ action.dismisses id = false ∧
        .leave ∉ (history.world.glimpse id).effects (history.world.touch id action) := by
  have entered : history.world.touch id action ≠ .enter := by
    intro enter
    have handled := isHandled_of_touch_enter enter
    rw [h.isHandled_eq] at handled
    cases handled
  rw [h.tracks.registers_next action, or_iff_left entered]

end History
end AccessFeed
