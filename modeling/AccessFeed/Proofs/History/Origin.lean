import AccessFeed.Proofs.Edit
import AccessFeed.Proofs.History.Follow

/-! Histories that begin with an empty catalog and an empty directory. Before a watch is opened
nothing is held or told of it, and from then on a course of its own tells all of it. -/
namespace AccessFeed
namespace History

/-- Nothing has happened yet. -/
def origin : History := start (.fresh (.real .empty))

theorem reachable_origin (actions : List Action) : (origin.run actions).world.Reachable :=
  ⟨actions, rfl⟩

theorem coherent_origin (actions : List Action) : (origin.run actions).world.Coherent :=
  (reachable_origin actions).coherent

theorem queued_origin (actions : List Action) : (origin.run actions).world.Queued := by
  induction actions using List.reverseRecOn with
  | nil =>
    intro id watch found
    simp [origin, start, World.fresh] at found
  | append_singleton actions action ih =>
    rw [run_append]
    exact ih.enact action

theorem nextId_le_run (history : History) (actions : List Action) :
    history.world.nextId ≤ (history.run actions).world.nextId := by
  induction actions generalizing history with
  | nil => exact Nat.le_refl _
  | cons action actions ih =>
    exact Nat.le_trans (World.nextId_le_enact history.world action) (ih (history.next action))

/-- Nothing is held or told of a watch with this number. -/
structure Unopened (history : History) (id : WatchId) : Prop where
  glimpse_eq : history.world.glimpse id = ⟨none, false, false⟩
  about_eq : Notice.about id history.notices = []
  received_eq : history.received id = []

theorem after_unopened {touch : Touch} (h : touch ≠ .enter) :
    (⟨none, false, false⟩ : Glimpse).after touch = ⟨none, false, false⟩ := by
  cases touch with
  | enter => exact absurd rfl h
  | _ => rfl

variable {history : History} {id : WatchId} {action : Action}

theorem Unopened.told (h : history.Unopened id) (coherent : history.world.Coherent)
    (action : Action) :
    Notice.about id (history.next action).notices = [] ∧
      (history.next action).received id = [] := by
  constructor
  · have told := World.about_enact coherent action id
    rw [h.glimpse_eq, World.effects_of_absent rfl] at told
    rw [next, Notice.about_append, h.about_eq, told]
    rfl
  · rw [received_next, h.received_eq, h.glimpse_eq]
    cases history.world.touch id action <;> rfl

/-- An action that does not open the watch changes nothing of that. -/
theorem Unopened.next (h : history.Unopened id) (coherent : history.world.Coherent)
    (unopened : history.world.opened? action ≠ some id) : (history.next action).Unopened id := by
  obtain ⟨about, received⟩ := h.told coherent action
  refine ⟨?_, about, received⟩
  have glimpse := World.glimpse_enact_of_ne unopened
  rw [h.glimpse_eq, after_unopened] at glimpse
  · exact glimpse
  · intro enter
    have handled := isHandled_of_touch_enter enter
    rw [h.glimpse_eq] at handled
    cases handled

/-- Numbers that were not given yet belong to no watch. -/
theorem unopened_origin {actions : List Action}
    (h : (origin.run actions).world.nextId ≤ id) : (origin.run actions).Unopened id := by
  induction actions using List.reverseRecOn with
  | nil =>
    refine ⟨?_, rfl, rfl⟩
    simp [World.glimpse, origin, start, World.fresh, Host.registers, Catalog.registers,
      Catalog.empty]
  | append_singleton actions action ih =>
    rw [run_append] at h ⊢
    have earlier : (origin.run actions).world.nextId ≤ id :=
      Nat.le_trans (World.nextId_le_enact _ action) h
    refine (ih earlier).next (coherent_origin actions) fun opened => ?_
    have given := World.nextId_enact_of_some opened
    have later : ((origin.run actions).world.enact action).1.nextId ≤ id := h
    rw [given, ← World.eq_nextId_of_opened? opened] at later
    exact Nat.not_succ_le_self id later

theorem glimpse_opening (world : World) (subscriber : Subscriber) (includeExisting : Option Bool)
    (options : WatchOptions) (names : List String) :
    (world.opening subscriber includeExisting options names).glimpse world.nextId =
      ⟨some (.start world.nextId subscriber options (.ofNames names)
        (world.replay subscriber includeExisting options names).1), true,
        world.host.registers world.nextId⟩ := by
  have watched := @World.watch_opening world subscriber includeExisting options names
  simp only [World.glimpse, watched]
  simp [World.opening, World.put]

/-- A course in which nothing was told yet tells all of a watch that was not opened before. -/
theorem Unopened.tracks (h : history.Unopened id) (coherent : history.world.Coherent)
    {course : Course} (sight : course.At ((history.next action).world.glimpse id))
    (told : course.notices = []) (got : course.received = []) :
    (history.next action).Tracks id course := by
  obtain ⟨about, received⟩ := h.told coherent action
  refine ⟨sight, ?_, received.trans got.symm, coherent.enact action⟩
  rw [about, told]
  rfl

/-- The course of a watch begins when the watch is opened. -/
theorem Unopened.open (h : history.Unopened id) (coherent : history.world.Coherent)
    (opened : history.world.opened? action = some id) :
    ∃ subscriber options known snapshot moves, (history.next action).Tracks id
      ((Course.start (.start id subscriber options known snapshot)).run moves) := by
  obtain rfl := World.eq_nextId_of_opened? opened
  cases action with
  | openWatch subscriber includeExisting options =>
    obtain ⟨-, names, notices, success⟩ := World.openWatch_of_opened opened
    have same : (history.next (.openWatch subscriber includeExisting options)).world =
        history.world.opening subscriber includeExisting options names := by
      rw [History.next, World.enact, success]
    refine ⟨subscriber, options, .ofNames names,
      (history.world.replay subscriber includeExisting options names).1, [],
      h.tracks coherent ?_ rfl rfl⟩
    rw [same, glimpse_opening]
    exact ⟨rfl, rfl⟩
  | subscribe subscriber includeExisting options =>
    rw [World.opened?, World.result_subscribe] at opened
    obtain ⟨-, names, notices, success⟩ := World.openWatch_of_opened opened
    have same : (history.next (.subscribe subscriber includeExisting options)).world =
        ((history.world.opening subscriber includeExisting options names).register
          history.world.nextId).1.dropHandler history.world.nextId := by
      rw [History.next, World.enact, World.subscribe, success]
    have held : (((history.world.opening subscriber includeExisting options names).register
        history.world.nextId).1.glimpse history.world.nextId).watch? =
          some (.start history.world.nextId subscriber options (.ofNames names)
            (history.world.replay subscriber includeExisting options names).1) :=
      World.watch_opening names
    obtain ⟨drops, sight, on⟩ := @Course.at_checkFeed
      { ((history.world.opening subscriber includeExisting options names).register
          history.world.nextId).1.glimpse history.world.nextId with isHandled := false }
      (.start _) held fun _ => rfl
    refine ⟨subscriber, options, .ofNames names,
      (history.world.replay subscriber includeExisting options names).1, _,
      h.tracks coherent ?_ on.notices_eq on.received_eq⟩
    rw [same, World.glimpse_dropHandler]
    exact sight
  | _ => cases opened

/-- Every watch has a course of its own, from its opening on. -/
theorem exists_course {actions : List Action} {watch : Watch}
    (found : (origin.run actions).world.watches[id]? = some watch) :
    ∃ subscriber options known snapshot moves, (origin.run actions).Tracks id
      ((Course.start (.start id subscriber options known snapshot)).run moves) := by
  induction actions using List.reverseRecOn generalizing watch with
  | nil => simp [origin, start, World.fresh] at found
  | append_singleton actions action ih =>
    rw [run_append] at found ⊢
    have coherent := coherent_origin actions
    by_cases opened : (origin.run actions).world.opened? action = some id
    · have fresh := unopened_origin (Nat.le_of_eq (World.eq_nextId_of_opened? opened).symm)
      exact fresh.open coherent opened
    · have glimpse := World.glimpse_enact_of_ne opened
      cases before : (origin.run actions).world.watches[id]? with
      | some earlier =>
        obtain ⟨subscriber, options, known, snapshot, moves, tracks⟩ := ih before
        obtain ⟨drops, _, rfl, tracks, -⟩ := tracks.next action
        rw [← Course.run_append] at tracks
        exact ⟨subscriber, options, known, snapshot, _, tracks⟩
      | none =>
        have absent : ((origin.run actions).world.glimpse id).watch? = none := before
        have missing := Glimpse.watch?_after_of_absent absent
          ((origin.run actions).world.touch id action)
        have held : ((origin.run actions).next action |>.world.glimpse id).watch? = some watch :=
          found
        rw [next, glimpse, missing] at held
        cases held

end History
end AccessFeed
