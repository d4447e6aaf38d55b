import AccessFeed.Proofs.History.Registration
import AccessFeed.Proofs.History.Stopping
import AccessFeed.Proofs.Scene
import Mathlib.Data.List.Basic

/-! When two watches have come to the same, in two histories that need not have anything else in
common: as soon as they began alike and their subscribers had the same view since. -/
namespace AccessFeed

namespace Notice

theorem pushed?_renumber {id : WatchId} {notice : Notice} (own : notice.watch? = some id)
    (other : WatchId) : (notice.renumber other).pushed? other = notice.pushed? id := by
  cases notice <;> simp_all [renumber, watch?, pushed?]

variable {id id' : WatchId} {notices notices' : List Notice}

theorem filterMap_renumber {α : Type} {select : WatchId → Notice → Option α}
    (same : ∀ notice : Notice, notice.watch? = some id →
      select id' (notice.renumber id') = select id notice) :
    ((about id notices).map (renumber id')).filterMap (select id') =
      (about id notices).filterMap (select id) := by
  rw [List.filterMap_map]
  apply List.filterMap_congr
  intro notice member
  exact same notice (by simpa [about] using (List.mem_filter.mp member).2)

/-- What was told of two watches is the same apart from the numbers. -/
theorem map_renumber_of_eq
    (h : (about id notices).map (renumber 0) = (about id' notices').map (renumber 0)) :
    about id' notices' = (about id notices).map (renumber id') := by
  have again := congrArg (List.map (renumber id')) h
  simp only [List.map_map, Function.comp_def, renumber_renumber] at again
  rw [again]
  conv_lhs => rw [← List.map_id (about id' notices')]
  apply List.map_congr_left
  intro notice member
  exact (renumber_self (by simpa [about] using (List.mem_filter.mp member).2)).symm

end Notice

namespace History

/-- A watch of one history has come to the same as a watch of another one, their numbers apart. -/
structure Alike (history : History) (id : WatchId) (other : History) (id' : WatchId) : Prop where
  /-- They know the same, and so are the intake, the terminal error, the rest of the snapshot, the
  event being sent or the exit, and what the consumer has still to take. -/
  watch : ∃ watch, history.world.watches[id]? = some watch ∧
    other.world.watches[id']? = some { watch with id := id' }
  registers : other.world.host.registers id' = history.world.host.registers id
  accepted : other.accepted id' = history.accepted id
  rejected : other.rejected id' = history.rejected id
  pushed : other.pushed id' = history.pushed id
  received : other.received id' = history.received id
  /-- Everything that was told of them is the same, in the same order. -/
  told : Notice.about id' other.notices =
    (Notice.about id history.notices).map (Notice.renumber id')

variable {history other : History} {id id' : WatchId} {course course' : Course}

theorem filterMap_eq_of_told {α : Type} {select : WatchId → Notice → Option α}
    (told : Notice.about id' other.notices =
      (Notice.about id history.notices).map (Notice.renumber id'))
    (own : ∀ id notice, notice.watch? ≠ some id → select id notice = none)
    (same : ∀ notice : Notice, notice.watch? = some id →
      select id' (notice.renumber id') = select id notice) :
    other.notices.filterMap (select id') = history.notices.filterMap (select id) := by
  rw [← Notice.filterMap_about (own id'), told, Notice.filterMap_renumber same,
    Notice.filterMap_about (own id)]

/-- Watches that make the same scene are alike. -/
theorem alike_of_scene_eq (tracks : history.Tracks id course) (tracks' : other.Tracks id' course')
    (h : history.scene id = other.scene id') : history.Alike id other id' := by
  have watches := congrArg (·.glimpse.watch?) h
  have registers : history.world.host.registers id = other.world.host.registers id' :=
    congrArg (·.glimpse.isRegistered) h
  have told := Notice.map_renumber_of_eq (congrArg Scene.told h)
  have held : (some course.watch).map (Watch.renumber 0) =
      (some course'.watch).map (Watch.renumber 0) := by
    rw [← tracks.watch_eq, ← tracks'.watch_eq]
    exact watches
  have same : course'.watch = { course.watch with id := id' } := by
    have zero : course'.watch.renumber 0 = course.watch.renumber 0 := (Option.some.inj held).symm
    rw [← Watch.renumber_self tracks'.id_eq, ← Watch.renumber_renumber id' _ 0, zero]
    rfl
  exact {
    watch := ⟨course.watch, tracks.watch_eq, same ▸ tracks'.watch_eq⟩
    registers := registers.symm
    accepted := filterMap_eq_of_told told (fun _ _ => Notice.accepted?_of_ne)
      fun _ own => Notice.accepted?_renumber own id'
    rejected := filterMap_eq_of_told told (fun _ _ => Notice.rejected?_of_ne)
      fun _ own => Notice.rejected?_renumber own id'
    pushed := filterMap_eq_of_told told (fun _ _ => Notice.pushed?_of_ne)
      fun _ own => Notice.pushed?_renumber own id'
    received := (congrArg Scene.received h).symm
    told }

end History

/-- The scene of a watch right after its opening. Its creator can hand it changes, or it is
registered. -/
def Scene.opened (resolver : Resolver) (subscriber : Subscriber) (includeExisting : Option Bool)
    (options : WatchOptions) (names : List String) (isRegistered : Bool) : Scene where
  glimpse := ⟨some (.start 0 subscriber options (.ofNames names)
    (if includeExisting.getD options.includeExisting then
      (snapshot subscriber.name (resolver.lookup.answers names)).1
    else [])), !isRegistered, isRegistered⟩
  resolver
  hasCatalog := true
  isRead := true
  told := []
  received := []

namespace World

variable {world opened : World} {subscriber : Subscriber} {includeExisting : Option Bool}
  {options : WatchOptions} {id : WatchId} {told : List Notice} {catalog : Catalog Unit}

theorem replay_eq (world : World) (subscriber : Subscriber) (includeExisting : Option Bool)
    (options : WatchOptions) (names : List String) :
    (world.replay subscriber includeExisting options names).1 =
      if includeExisting.getD options.includeExisting then
        (snapshot subscriber.name (world.resolver.lookup.answers names)).1
      else [] := by
  rw [lookup_resolver, replay]
  split <;> rfl

theorem consumers_subscribed (host : world.host = .real catalog)
    (hopen : world.subscribe subscriber includeExisting options = (.ok id, opened, told)) :
    opened.consumers.contains id = true := by
  obtain ⟨-, rfl, rfl, -⟩ := subscribe_eq_ok host hopen
  rw [(beside_dropHandler _ _).consumers_eq]
  simp [register, opening, put]

end World

namespace History

variable {history : History} {world : World} {subscriber : Subscriber}
  {includeExisting : Option Bool} {options : WatchOptions} {id : WatchId} {told : List Notice}
  {catalog : Catalog Unit}

/-- The scene of a watch right after its opening, when nothing was told of it yet. -/
theorem scene_opened {names : List String} {isRegistered : Bool}
    (glimpse : history.world.glimpse id =
      ⟨some (.start id subscriber options (.ofNames names)
        (world.replay subscriber includeExisting options names).1), !isRegistered, isRegistered⟩)
    (resolver : history.world.resolver = world.resolver)
    (hosted : history.world.host.accesses?.isSome = true)
    (reads : history.world.consumers.contains id = true)
    (silent : Notice.about id history.notices = []) (nothing : history.received id = []) :
    history.scene id =
      .opened world.resolver subscriber includeExisting options names isRegistered := by
  refine Scene.ext ?_ resolver hosted reads ?_ nothing
  · simp only [scene, glimpse, World.replay_eq]
    rfl
  · simp only [scene, silent]
    rfl

theorem scene_subscribed (host : world.host = .real catalog)
    (hopen : world.subscribe subscriber includeExisting options = (.ok id, history.world, told))
    (silent : Notice.about id history.notices = []) (nothing : history.received id = []) :
    history.scene id = .opened world.resolver subscriber includeExisting options
      (catalog.visible subscriber) true := by
  obtain ⟨-, rfl, -⟩ := World.subscribe_eq_ok host hopen
  have accesses := World.accesses?_subscribed hopen
  have resolver := World.resolver_enact world (.subscribe subscriber includeExisting options) none
  rw [World.enact, hopen] at resolver
  refine scene_opened (World.glimpse_subscribed host hopen) resolver ?_
    (World.consumers_subscribed host hopen) silent nothing
  rw [accesses, host]
  rfl

theorem scene_openWatch (host : world.host = .real catalog)
    (fresh : world.host.registers world.nextId = false)
    (hopen : world.openWatch subscriber includeExisting options = (.ok id, history.world, told))
    (silent : Notice.about id history.notices = []) (nothing : history.received id = []) :
    history.scene id = .opened world.resolver subscriber includeExisting options
      (catalog.visible subscriber) false := by
  have glimpse := World.glimpse_openWatch host fresh hopen
  obtain ⟨-, rfl, same⟩ := World.openWatch_eq_ok host hopen
  refine scene_opened glimpse ?_ ?_ ?_ silent nothing
  · rw [same]
    rfl
  · have hosted : history.world.host = .real catalog := by
      rw [same]
      exact host
    rw [hosted]
    rfl
  · simp [same, World.opening, World.put]

end History
end AccessFeed
