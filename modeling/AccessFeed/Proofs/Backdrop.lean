import AccessFeed.Proofs.Touch
import AccessFeed.Proofs.Visibility

/-! What watches stand before: who may see what, and what names resolve to. Neither depends on what
the watches do, so it can be told from the actions alone. -/
namespace AccessFeed

/-- What a party does that can matter to one watch, mutations of the catalog apart. -/
inductive Deed where
  | upsert (object : Namespace)
  | removeObject (name : String)
  | setOutage (name : String) (reason : Option String)
  | dropHost
  /-- The creator of the watch registers it. -/
  | register
  | unregister
  | dropHandler
  /-- The creator of the watch hands it a change. -/
  | handle (change : AccessChange)
  | stop
  | dropConsumer
  | poll
  | take
  deriving DecidableEq

/-- The deed that an action is to the watch of a number. Without a number only what concerns all
watches is left. -/
def Action.deed? (id? : Option WatchId) : Action → Option Deed
  | .upsert object => some (.upsert object)
  | .removeObject name => some (.removeObject name)
  | .setOutage name reason => some (.setOutage name reason)
  | .dropHost => some .dropHost
  | .register other => if id? = some other then some .register else none
  | .unregister other => if id? = some other then some .unregister else none
  | .dropHandler other => if id? = some other then some .dropHandler else none
  | .handle other change => if id? = some other then some (.handle change) else none
  | .stop other => if id? = some other then some .stop else none
  | .dropConsumer other => if id? = some other then some .dropConsumer else none
  | .poll other => if id? = some other then some .poll else none
  | .take other => if id? = some other then some .take else none
  | .perform .. | .openWatch .. | .subscribe .. => none

/-- What can matter to one watch, in whatever order other watches are visited. -/
def Action.kept? (id? : Option WatchId) : Action → Option (Mutation ⊕ Deed)
  | .perform _ mutation => some (.inl mutation)
  | action => (action.deed? id?).map .inr

theorem Action.kept?_eq {action : Action}
    (h : ∀ visiting mutation, action ≠ .perform visiting mutation) (id? : Option WatchId) :
    action.kept? id? = (action.deed? id?).map .inr := by
  cases action with
  | perform visiting mutation => exact absurd rfl (h visiting mutation)
  | _ => rfl

/-- What names resolve to. -/
structure Resolver where
  directory : Directory
  outages : NameMap String

namespace Resolver

def lookup (resolver : Resolver) : Lookup := fun name =>
  match resolver.outages[name]? with
  | some reason => .error (.unavailable reason)
  | none => resolver.directory.find name

def after (resolver : Resolver) : Deed → Resolver
  | .upsert object => { resolver with directory := (resolver.directory.upsert object).2 }
  | .removeObject name => { resolver with directory := (resolver.directory.remove name).2 }
  | .setOutage name (some reason) =>
    { resolver with outages := resolver.outages.insert name reason }
  | .setOutage name none => { resolver with outages := resolver.outages.erase name }
  | _ => resolver

end Resolver

/-- Who may see what after a mutation. -/
def Mutation.write (mutation : Mutation) (accesses : NameMap Access) : NameMap Access :=
  ((⟨accesses, ∅⟩ : Catalog Unit).mutate mutation).1.accesses

theorem Catalog.accesses_mutate (catalog : Catalog Unit) (mutation : Mutation) :
    (catalog.mutate mutation).1.accesses = mutation.write catalog.accesses := by
  cases mutation with
  | setAccess name latest => rfl
  | forget name =>
    simp only [Mutation.write, mutate, access?]
    split <;> rfl
  | touch name => rfl

/-- What watches stand before. -/
structure Backdrop where
  accesses? : Option (NameMap Access)
  resolver : Resolver

def Backdrop.after (backdrop : Backdrop) : Mutation ⊕ Deed → Backdrop
  | .inl mutation => { backdrop with accesses? := backdrop.accesses?.map mutation.write }
  | .inr .dropHost => { backdrop with accesses? := none }
  | .inr deed => { backdrop with resolver := backdrop.resolver.after deed }

namespace World

variable {world next last : World}

def resolver (world : World) : Resolver := ⟨world.directory, world.outages⟩

def backdrop (world : World) : Backdrop := ⟨world.host.accesses?, world.resolver⟩

theorem lookup_resolver (world : World) : world.resolver.lookup = world.lookup := rfl

/-- One state comes from another by what happens to watches alone. -/
def Beside (world next : World) : Prop :=
  ∃ host watches line handlers, next = { world with host, watches, line, handlers }

theorem Beside.refl (world : World) : world.Beside world :=
  ⟨world.host, world.watches, world.line, world.handlers, rfl⟩

theorem Beside.trans (h : world.Beside next) (h' : next.Beside last) : world.Beside last := by
  obtain ⟨_, _, _, _, rfl⟩ := h
  obtain ⟨host, watches, line, handlers, rfl⟩ := h'
  exact ⟨host, watches, line, handlers, rfl⟩

theorem beside_put (world : World) (id : WatchId) (watch : Watch) :
    world.Beside (world.put id watch) := ⟨_, _, _, _, rfl⟩

theorem beside_checkFeed (world : World) (id : WatchId) : world.Beside (world.checkFeed id) := by
  unfold checkFeed
  split
  · split
    · exact .refl world
    · exact beside_put world id _
  · exact .refl world

theorem beside_register (world : World) (id : WatchId) : world.Beside (world.register id).1 :=
  ⟨_, _, _, _, rfl⟩

theorem beside_unregister (world : World) (id : WatchId) :
    world.Beside (world.unregister id).1 :=
  .trans ⟨_, _, _, _, rfl⟩ (beside_checkFeed { world with host := (world.host.remove id).1 } id)

theorem beside_dropHandler (world : World) (id : WatchId) : world.Beside (world.dropHandler id) :=
  .trans ⟨_, _, _, _, rfl⟩ (beside_checkFeed { world with handlers := world.handlers.erase id } id)

theorem beside_carryOut (id : WatchId) (effects : List Effect) (world : World) :
    world.Beside (carryOut id effects world).1 := by
  induction effects generalizing world with
  | nil => exact .refl world
  | cons effect rest ih =>
    cases effect with
    | note notice => exact ih world
    | leave => exact (beside_unregister world id).trans (ih _)

theorem beside_act (world : World) (id : WatchId) (action : Watch → Watch × List Effect) :
    world.Beside (world.act id action).1 := by
  unfold act
  split
  · exact (beside_put world id _).trans (beside_carryOut id _ _)
  · exact .refl world

theorem beside_take (world : World) (id : WatchId) : world.Beside (world.take id).2 := by
  unfold take
  split
  · exact beside_put world id _
  · exact .refl world

theorem beside_store (results : List (WatchId × Option Watch)) (world : World) :
    world.Beside (world.store results) := by
  induction results generalizing world with
  | nil => exact .refl world
  | cons result rest ih =>
    obtain ⟨other, watch?⟩ := result
    cases watch? with
    | none => exact ih world
    | some watch =>
      exact (beside_put world other watch).trans ((beside_checkFeed _ other).trans (ih _))

theorem beside_performIn (arrange : List (WatchId × Unit) → List (WatchId × Unit)) (world : World)
    (mutation : Mutation) : world.Beside (world.performIn arrange mutation).1 := by
  unfold performIn
  split
  · exact .trans ⟨_, _, _, _, rfl⟩ (beside_store _ { world with host := .real _ })
  · exact .refl world

theorem beside_dropHost (world : World) : world.Beside world.dropHost := by
  have checked (ids : List WatchId) (world : World) : world.Beside (ids.foldl checkFeed world) := by
    induction ids generalizing world with
    | nil => exact .refl world
    | cons first rest ih => exact (beside_checkFeed world first).trans (ih _)
  exact .trans ⟨_, _, _, _, rfl⟩ (checked world.watches.keys { world with host := .gone })

theorem Beside.resolver_eq (h : world.Beside next) : next.resolver = world.resolver := by
  obtain ⟨_, _, _, _, rfl⟩ := h
  rfl

theorem Beside.consumers_eq (h : world.Beside next) : next.consumers = world.consumers := by
  obtain ⟨_, _, _, _, rfl⟩ := h
  rfl

/-- What an action changes that does not happen to watches. -/
def around (world : World) : Action → World
  | .upsert object => (world.upsert object).2.1
  | .removeObject name => (world.removeObject name).2
  | .setOutage name reason => world.setOutage name reason
  | .dropConsumer id =>
    if world.consumers.contains id then { world with consumers := world.consumers.erase id }
    else world
  | action =>
    match world.opened? action with
    | some id => { world with nextId := id + 1, consumers := world.consumers.insert id }
    | none => world

/-- The rest of an action happens to watches alone. -/
theorem beside_around (world : World) (action : Action) :
    (world.around action).Beside (world.enact action).1 := by
  have opening (subscriber : Subscriber) (includeExisting : Option Bool) (options : WatchOptions)
      (names : List String) :
      ({ world with
          nextId := world.nextId + 1
          consumers := world.consumers.insert world.nextId } : World).Beside
        (world.opening subscriber includeExisting options names) := ⟨_, _, _, _, rfl⟩
  cases action with
  | upsert object => exact .refl _
  | removeObject name => exact .refl _
  | setOutage name reason => exact .refl _
  | perform visiting mutation => exact beside_performIn visiting.arrange world mutation
  | openWatch subscriber includeExisting options =>
    simp only [around, enact, opened?]
    obtain ⟨names, notices, opened⟩ | ⟨cause, notices, failed⟩ :=
      world.openWatch_cases subscriber includeExisting options
    · rw [opened]
      exact opening subscriber includeExisting options names
    · rw [failed]
      exact .refl world
  | subscribe subscriber includeExisting options =>
    simp only [around, enact, opened?, subscribe]
    obtain ⟨names, notices, opened⟩ | ⟨cause, notices, failed⟩ :=
      world.openWatch_cases subscriber includeExisting options
    · rw [opened]
      exact (opening subscriber includeExisting options names).trans
        ((beside_register _ _).trans (beside_dropHandler _ _))
    · rw [failed]
      exact .refl world
  | register other =>
    simp only [enact]
    split
    · exact beside_register world other
    · exact .refl world
  | unregister other => exact beside_unregister world other
  | dropHandler other => exact beside_dropHandler world other
  | handle other change =>
    simp only [enact]
    split
    · exact beside_act world other _
    · exact .refl world
  | stop other => exact beside_act world other _
  | dropConsumer other =>
    simp only [around, enact, dropConsumer]
    split
    · exact beside_act { world with consumers := world.consumers.erase other } other _
    · exact .refl world
  | poll other =>
    exact .trans ⟨_, _, _, _, rfl⟩
      (beside_act { world with line := world.line.erase other } other _)
  | take other =>
    simp only [enact]
    split
    · exact beside_take world other
    · exact .refl world
  | dropHost => exact beside_dropHost world

/-- Only the directory and its outages are behind what names resolve to. -/
theorem resolver_enact (world : World) (action : Action) (id? : Option WatchId) :
    (world.enact action).1.resolver =
      (action.deed? id?).elim world.resolver world.resolver.after := by
  rw [(beside_around world action).resolver_eq]
  cases action with
  | setOutage name reason => cases reason <;> rfl
  | _ =>
    simp only [around, Action.deed?]
    (repeat' split) <;> rfl

theorem accesses?_perform (world : World) (visiting : Visiting) (mutation : Mutation) :
    (world.enact (.perform visiting mutation)).1.host.accesses? =
      world.host.accesses?.map mutation.write := by
  cases host : world.host with
  | real catalog =>
    obtain ⟨after, hosted, same⟩ := @host_performIn world visiting.arrange catalog host mutation
    rw [enact, hosted]
    exact congrArg some (same.trans (Catalog.accesses_mutate catalog mutation))
  | _ => simp [enact, performIn, host, Host.accesses?]

theorem accesses?_dropHost (world : World) : world.dropHost.host.accesses? = none := by
  have gone (ids : List WatchId) (world : World) (h : world.host = .gone) :
      (ids.foldl checkFeed world).host = .gone := by
    induction ids generalizing world with
    | nil => exact h
    | cons first rest ih => exact ih _ ((host_checkFeed world first).trans h)
  rw [dropHost, gone _ _ rfl]
  rfl

/-- What watches stand before changes as the actions say, whatever the watches do. -/
theorem backdrop_enact (world : World) (action : Action) (id? : Option WatchId) :
    (world.enact action).1.backdrop =
      (action.kept? id?).elim world.backdrop world.backdrop.after := by
  have resolver := resolver_enact world action id?
  obtain ⟨visiting, mutation, rfl⟩ | other := action.perform_or_ne
  · have accesses := accesses?_perform world visiting mutation
    simp only [backdrop, resolver, accesses]
    rfl
  · by_cases drops : action = .dropHost
    · subst drops
      have accesses : (world.enact .dropHost).1.host.accesses? = none := accesses?_dropHost world
      simp only [backdrop, resolver, accesses]
      rfl
    · have accesses := accesses?_enact world action other drops
      simp only [backdrop, resolver, accesses]
      have lasting : action.deed? id? ≠ some .dropHost := by
        cases action <;> simp only [Action.deed?] <;> (try split) <;> simp_all
      rw [Action.kept?_eq other]
      cases deed : action.deed? id? with
      | none => rfl
      | some deed' => cases deed' <;> first | rfl | exact absurd deed lasting

end World
end AccessFeed
