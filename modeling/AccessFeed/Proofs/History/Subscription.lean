import AccessFeed.Proofs.History.Origin
import AccessFeed.Proofs.Visibility

/-! A watch right after it was opened or subscribed. The creator of an opened watch can hand it
changes and its catalog does not know it yet; one that was subscribed is known to its catalog alone.
Nothing was handed to it yet. -/
namespace AccessFeed

namespace World

variable {world opened : World} {subscriber : Subscriber} {includeExisting : Option Bool}
  {options : WatchOptions} {id : WatchId} {told : List Notice} {catalog : Catalog Unit}

/-- The watch that a subscriber gets from a catalog. -/
def subscription (world : World) (catalog : Catalog Unit) (subscriber : Subscriber)
    (includeExisting : Option Bool) (options : WatchOptions) : Watch :=
  .start world.nextId subscriber options (.ofNames (catalog.visible subscriber))
    (world.replay subscriber includeExisting options (catalog.visible subscriber)).1

theorem openWatch_eq_ok (host : world.host = .real catalog)
    (hopen : world.openWatch subscriber includeExisting options = (.ok id, opened, told)) :
    options.check = .ok () ∧ id = world.nextId ∧
      opened = world.opening subscriber includeExisting options (catalog.visible subscriber) := by
  obtain ⟨names, possible, -, listed, numbered, same, -⟩ := openWatch_eq_ok_iff.mp hopen
  rw [host] at listed
  obtain rfl : catalog.visible subscriber = names := Except.ok.inj listed
  exact ⟨possible, numbered, same⟩

/-- The creator of a new watch can hand it changes, but its catalog does not know it yet. -/
theorem glimpse_openWatch (host : world.host = .real catalog)
    (fresh : world.host.registers world.nextId = false)
    (hopen : world.openWatch subscriber includeExisting options = (.ok id, opened, told)) :
    opened.glimpse id =
      ⟨some (world.subscription catalog subscriber includeExisting options), true, false⟩ := by
  obtain ⟨-, rfl, rfl⟩ := openWatch_eq_ok host hopen
  rw [History.glimpse_opening, fresh]
  rfl

theorem subscribe_eq_ok (host : world.host = .real catalog)
    (hopen : world.subscribe subscriber includeExisting options = (.ok id, opened, told)) :
    options.check = .ok () ∧ id = world.nextId ∧
      opened = ((world.opening subscriber includeExisting options
        (catalog.visible subscriber)).register id).1.dropHandler id ∧
      ∃ before after, told = before ++
        (world.replay subscriber includeExisting options (catalog.visible subscriber)).2 ++
          after := by
  unfold subscribe at hopen
  split at hopen
  · rename_i id' opened' told' success
    obtain ⟨names, possible, -, listed, rfl, rfl, rfl⟩ := openWatch_eq_ok_iff.mp success
    have same : names = catalog.visible subscriber := by
      rw [host] at listed
      exact (Except.ok.inj listed).symm
    simp only [Prod.mk.injEq, Except.ok.injEq] at hopen
    obtain ⟨rfl, rfl, rfl⟩ := hopen
    subst same
    exact ⟨possible, rfl, rfl, _, _, List.append_assoc _ _ _⟩
  · rename_i failed
    exact absurd hopen (failed _ _ _)

theorem glimpse_subscribed (host : world.host = .real catalog)
    (hopen : world.subscribe subscriber includeExisting options = (.ok id, opened, told)) :
    opened.glimpse id =
      ⟨some (world.subscription catalog subscriber includeExisting options), false, true⟩ := by
  obtain ⟨-, rfl, rfl, -⟩ := subscribe_eq_ok host hopen
  have hosted : (world.opening subscriber includeExisting options
      (catalog.visible subscriber)).host = .real catalog := host
  have registered : ((world.opening subscriber includeExisting options
      (catalog.visible subscriber)).register world.nextId).1.glimpse world.nextId =
        ⟨some (world.subscription catalog subscriber includeExisting options), true, true⟩ := by
    rw [glimpse_register hosted, History.glimpse_opening]
    rfl
  rw [glimpse_dropHandler, registered]
  rfl

theorem accesses?_subscribed
    (hopen : world.subscribe subscriber includeExisting options = (.ok id, opened, told)) :
    opened.host.accesses? = world.host.accesses? := by
  have same := accesses?_subscribe world subscriber includeExisting options
  rw [hopen] at same
  exact same

/-- A new watch knows what its subscriber sees. -/
theorem mem_known_subscription (host : world.host = .real catalog)
    (hopen : world.subscribe subscriber includeExisting options = (.ok id, opened, told))
    (name : String) :
    name ∈ (world.subscription catalog subscriber includeExisting options).known ↔
      opened.host.sees subscriber name = true := by
  have sees : opened.host.sees subscriber name = (catalog.accessOf name).allows subscriber := by
    rw [← Host.sees_real, ← host, Host.sees, accesses?_subscribed hopen, Host.sees]
  rw [sees, ← Catalog.mem_visible]
  exact NameSet.mem_ofNames _ _

end World

namespace History

variable {world opened : World} {subscriber : Subscriber} {includeExisting : Option Bool}
  {options : WatchOptions} {id : WatchId} {told : List Notice} {catalog : Catalog Unit}

theorem follows_start (coherent : world.Coherent) (host : world.host = .real catalog)
    (hopen : world.subscribe subscriber includeExisting options = (.ok id, opened, told)) :
    (start opened).Follows id
      (.start (world.subscription catalog subscriber includeExisting options)) := by
  have seen := World.glimpse_subscribed host hopen
  refine ⟨⟨congrArg Glimpse.watch? seen, congrArg Glimpse.isFed seen⟩,
    congrArg Glimpse.isHandled seen, rfl, rfl, ?_⟩
  have coherent := coherent.subscribe subscriber includeExisting options
  rw [hopen] at coherent
  exact coherent

theorem registers_start (host : world.host = .real catalog)
    (hopen : world.subscribe subscriber includeExisting options = (.ok id, opened, told)) :
    opened.host.registers id = true :=
  congrArg Glimpse.isRegistered (World.glimpse_subscribed host hopen)

end History
end AccessFeed
