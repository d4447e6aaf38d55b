import AccessFeed.Proofs.Touch

/-! The watches that actions build, with their options, and what such a watch is at first. -/
namespace AccessFeed
namespace World

variable {world : World} {id : WatchId} {action : Action}

/-- The options of the watch that an action opens. -/
def built? (world : World) : Action → Option WatchOptions
  | .openWatch subscriber includeExisting options
  | .subscribe subscriber includeExisting options =>
    (world.openWatch subscriber includeExisting options).1.toOption.map fun _ => options
  | _ => none

/-- A watch is only built with possible options. -/
theorem check_of_built {options : WatchOptions} (h : world.built? action = some options) :
    options.check = .ok () := by
  have possible (subscriber : Subscriber) (includeExisting : Option Bool) (given : WatchOptions)
      (h : (world.openWatch subscriber includeExisting given).1.toOption.map (fun _ => given) =
        some options) : options.check = .ok () := by
    obtain ⟨id, opened, rfl⟩ := Option.map_eq_some_iff.mp h
    obtain ⟨-, names, notices, success⟩ := openWatch_of_opened opened
    obtain ⟨-, check, -⟩ := openWatch_eq_ok_iff.mp success
    exact check
  cases action with
  | openWatch subscriber includeExisting given => exact possible _ _ _ h
  | subscribe subscriber includeExisting given => exact possible _ _ _ h
  | _ => cases h

/-- A watch that is opened is a fresh one that knows what was listed. If its catalog did not take
it, nobody feeds it any more. -/
theorem exists_listed_of_opened (opened : world.opened? action = some id) :
    ∃ subscriber includeExisting options names,
      (action = .openWatch subscriber includeExisting options ∨
        action = .subscribe subscriber includeExisting options) ∧
      world.host.list subscriber = .ok names ∧
      ∃ watch, (world.enact action).1.watches[id]? = some watch ∧
        (watch = .start id subscriber options (.ofNames names)
            (world.replay subscriber includeExisting options names).1 ∨
          watch = (Watch.start id subscriber options (.ofNames names)
            (world.replay subscriber includeExisting options names).1).starve) := by
  obtain rfl := eq_nextId_of_opened? opened
  cases action with
  | openWatch subscriber includeExisting options =>
    obtain ⟨-, _, notices, success⟩ := openWatch_of_opened opened
    obtain ⟨names, -, -, listed, -, after, -⟩ := openWatch_eq_ok_iff.mp success
    rw [enact, success, after]
    exact ⟨subscriber, includeExisting, options, names, .inl rfl, listed, _, watch_opening names,
      .inl rfl⟩
  | subscribe subscriber includeExisting options =>
    rw [opened?, result_subscribe] at opened
    obtain ⟨-, _, notices, success⟩ := openWatch_of_opened opened
    obtain ⟨names, -, -, listed, -, after, -⟩ := openWatch_eq_ok_iff.mp success
    have held : (((world.opening subscriber includeExisting options names).register
        world.nextId).1.glimpse world.nextId).watch? = _ := watch_opening names
    have dropped := glimpse_dropHandler ((world.opening subscriber includeExisting options
      names).register world.nextId).1 world.nextId
    have same : (world.enact (.subscribe subscriber includeExisting options)).1 =
        ((world.opening subscriber includeExisting options names).register
          world.nextId).1.dropHandler world.nextId := by
      rw [enact, subscribe, success, after]
    have found := congrArg Glimpse.watch? dropped
    rw [← same, Glimpse.checkFeed] at found
    refine ⟨subscriber, includeExisting, options, names, .inr rfl, listed, ?_⟩
    split at found
    · exact ⟨_, found.trans held, .inl rfl⟩
    · exact ⟨_, found.trans (congrArg (Option.map Watch.starve) held), .inr rfl⟩
  | _ => cases opened

theorem exists_start_of_opened (opened : world.opened? action = some id) :
    ∃ subscriber options known snapshot, world.built? action = some options ∧
      ∃ watch, (world.enact action).1.watches[id]? = some watch ∧
        (watch = .start id subscriber options known snapshot ∨
          watch = (Watch.start id subscriber options known snapshot).starve) := by
  obtain ⟨subscriber, includeExisting, options, names, opens, -, watch⟩ :=
    exists_listed_of_opened opened
  refine ⟨subscriber, options, _, _, ?_, watch⟩
  obtain rfl | rfl := opens
  · exact Option.map_eq_some_iff.mpr ⟨id, opened, rfl⟩
  · rw [opened?, result_subscribe] at opened
    exact Option.map_eq_some_iff.mpr ⟨id, opened, rfl⟩

end World
end AccessFeed
