import AccessFeed.Proofs.Touch

/-! What is told in an action, and by whom: while a watch is opened its snapshot is resolved, and
every watch that the action comes to tells what it does itself. All else that is told concerns the
registry, the options and the stored objects alone. -/
namespace AccessFeed

namespace Notice

/-- Tells of the options, the registry or the stored objects alone. -/
def isClerical : Notice → Bool
  | .largeBuffer _ | .created .. | .registered _ | .removed _ | .catalogGone _ | .dispatched ..
  | .stored _ | .loaded _ => true
  | _ => false

end Notice

namespace World

/-- The watches that an action comes to, in order, with what it means to each. -/
def touches (world : World) : Action → List (WatchId × Touch)
  | .perform visiting mutation =>
    match world.host, world.change? mutation with
    | .real catalog, some change =>
      (visiting.arrange catalog.watchers.toList).map fun visit =>
        (visit.1, .handle world.lookup change)
    | _, _ => []
  | .handle id change =>
    if world.handlers.contains id then [(id, .handle world.lookup change)] else []
  | .stop id => [(id, .stop)]
  | .dropConsumer id => if world.consumers.contains id then [(id, .stop)] else []
  | .poll id => [(id, .poll)]
  | _ => []

/-- The names that an action looks up to open a watch, with the user they are looked up for. -/
def listing (world : World) : Action → String × List String
  | .openWatch subscriber includeExisting options
  | .subscribe subscriber includeExisting options =>
    match options.check, world.runtimeFault, world.host.list subscriber with
    | .ok (), none, .ok names =>
      (subscriber.name, if includeExisting.getD options.includeExisting then names else [])
    | _, _, _ => (subscriber.name, [])
  | _ => ("", [])

/-- What is told of the snapshot of the watch that an action opens, and by the watches that it comes
to. -/
def told (world : World) (action : Action) : List Notice :=
  (snapshot (world.listing action).1 (world.lookup.answers (world.listing action).2)).2 ++
    (world.touches action).flatMap fun (id, touch) =>
      Effect.notices ((world.glimpse id).effects touch)

end World

section Select

variable {α : Type} {select : Notice → Option α}
  (clerical : ∀ notice, notice.isClerical = true → select notice = none)

include clerical

theorem Notice.filterMap_of_isClerical {notices : List Notice}
    (h : ∀ notice ∈ notices, notice.isClerical = true) : notices.filterMap select = [] :=
  List.filterMap_eq_nil_iff.mpr fun notice member => clerical notice (h notice member)

theorem Host.filterMap_remove (host : Host) (id : WatchId) :
    (host.remove id).2.filterMap select = [] := by
  refine Notice.filterMap_of_isClerical clerical ?_
  cases host with
  | real catalog =>
    simp only [remove, Catalog.remove]
    split <;> simp [Notice.isClerical]
  | _ => simp [remove, Notice.isClerical]

theorem Catalog.filterMap_carryOut (catalog : Catalog Unit) (id : WatchId) (result : Option Watch)
    (effects : List Effect) :
    (catalog.carryOut (.ofEffects id result effects)).2.1.filterMap select =
      (Effect.notices effects).filterMap select := by
  induction effects generalizing catalog with
  | nil => rfl
  | cons effect rest ih =>
    cases effect with
    | note notice =>
      have later := ih catalog
      simp only [Reaction.ofEffects, carryOut, Effect.notices_note, List.filterMap_cons] at later ⊢
      rw [later]
    | leave =>
      have silent : (catalog.remove id).2.filterMap select = [] :=
        Host.filterMap_remove clerical (.real catalog) id
      simp only [Reaction.ofEffects, carryOut, Effect.notices_leave, List.filterMap_append, silent,
        List.nil_append, ih]

namespace World

theorem filterMap_carryOut (id : WatchId) (effects : List Effect) (world : World) :
    (carryOut id effects world).2.filterMap select =
      (Effect.notices effects).filterMap select := by
  induction effects generalizing world with
  | nil => rfl
  | cons effect rest ih =>
    cases effect with
    | note notice =>
      have later := ih world
      simp only [carryOut, Effect.notices_note, List.filterMap_cons] at later ⊢
      rw [later]
    | leave =>
      have silent : (world.unregister id).2.filterMap select = [] :=
        Host.filterMap_remove clerical world.host id
      simp only [carryOut, Effect.notices_leave, List.filterMap_append, silent, List.nil_append, ih]

theorem filterMap_act {world acting : World} (watches : acting.watches = world.watches)
    (id : WatchId) {action : Watch → Watch × List Effect} {touch : Touch}
    (same : ∀ watch, world.watches[id]? = some watch →
      (action watch).2 = (world.glimpse id).effects touch) :
    (acting.act id action).2.filterMap select =
      (Effect.notices ((world.glimpse id).effects touch)).filterMap select := by
  unfold act
  rw [watches]
  cases found : world.watches[id]? with
  | none =>
    have absent : (world.glimpse id).watch? = none := found
    rw [effects_of_absent absent]
    rfl
  | some watch =>
    dsimp only
    rw [filterMap_carryOut clerical, same watch found]

theorem filterMap_notify (world : World) (change : AccessChange) (visits : List (WatchId × Unit))
    (catalog : Catalog Unit) :
    (Catalog.notify (world.react change) visits catalog).notices.filterMap select =
      (visits.flatMap fun visit => Effect.notices
        ((world.glimpse visit.1).effects (.handle world.lookup change))).filterMap select := by
  induction visits generalizing catalog with
  | nil => rfl
  | cons visit rest ih =>
    have same : (world.response change visit.1).2 =
        (world.glimpse visit.1).effects (.handle world.lookup change) := by
      unfold response Glimpse.effects glimpse
      cases world.watches[visit.1]? <;> rfl
    simp only [Catalog.notify, react_eq, List.filterMap_append, ih,
      Catalog.filterMap_carryOut clerical, same, List.flatMap_cons]

theorem filterMap_performIn (visiting : Visiting) (world : World) (mutation : Mutation) :
    (world.performIn visiting.arrange mutation).2.filterMap select =
      (world.told (.perform visiting mutation)).filterMap select := by
  simp only [performIn, told, listing, touches, change?, Lookup.answers_nil, snapshot,
    List.nil_append]
  cases host : world.host with
  | real catalog =>
    have watchers := catalog.watchers_mutate mutation
    simp only [Catalog.perform]
    generalize catalog.mutate mutation = mutated at watchers ⊢
    obtain ⟨after, _ | change⟩ := mutated
    · rfl
    · dsimp only at watchers ⊢
      have dispatched : select (.dispatched change.name
          (visiting.arrange after.watchers.toList).length) = none := clerical _ rfl
      rw [Catalog.dispatch, List.filterMap_append, filterMap_notify clerical,
        List.filterMap_cons_none dispatched, List.filterMap_nil, List.append_nil, watchers,
        List.flatMap_map]
  | _ => rfl

theorem filterMap_openWatch (world : World) (subscriber : Subscriber)
    (includeExisting : Option Bool) (options : WatchOptions) :
    (world.openWatch subscriber includeExisting options).2.2.filterMap select =
      (world.told (.openWatch subscriber includeExisting options)).filterMap select := by
  have warned : options.warnings.filterMap select = [] := by
    refine Notice.filterMap_of_isClerical clerical ?_
    unfold WatchOptions.warnings
    split
    · split <;> simp [Notice.isClerical]
    · simp
  simp only [openWatch, ofListing_answers]
  unfold told listing
  split
  · simp_all [touches, snapshot]
  · simp_all [touches, snapshot]
  · simp_all [touches, snapshot]
  · rename_i names checked runs listed
    have created : select (.created world.nextId subscriber.name (NameSet.ofNames names).size
        (world.replay subscriber includeExisting options names).1.length
        options.bufferSize) = none := clerical _ rfl
    simp only [checked, runs, listed, touches, List.flatMap_nil, List.append_nil,
      List.filterMap_append, warned, List.nil_append]
    rw [List.filterMap_cons_none created, List.filterMap_nil, List.append_nil, replay]
    split <;> rfl

theorem filterMap_register (world : World) (id : WatchId) :
    (world.register id).2.filterMap select = [] := by
  refine Notice.filterMap_of_isClerical clerical ?_
  unfold register
  cases world.host <;> simp [Host.register, Catalog.register, Notice.isClerical]

theorem filterMap_subscribe (world : World) (subscriber : Subscriber)
    (includeExisting : Option Bool) (options : WatchOptions) :
    (world.subscribe subscriber includeExisting options).2.2.filterMap select =
      (world.told (.openWatch subscriber includeExisting options)).filterMap select := by
  rw [← filterMap_openWatch clerical, subscribe]
  split
  · rename_i opened
    rw [opened, List.filterMap_append, filterMap_register clerical, List.append_nil]
  · rfl

/-- Apart from clerical notices, an action tells what the watches that it comes to tell. -/
theorem filterMap_enact (world : World) (action : Action) :
    (world.enact action).2.filterMap select = (world.told action).filterMap select := by
  have acted (watch : Watch) (id : WatchId) (found : world.watches[id]? = some watch) :
      (world.glimpse id).watch? = some watch := found
  cases action with
  | upsert object => exact List.filterMap_cons_none (clerical _ rfl)
  | perform visiting mutation => exact filterMap_performIn clerical visiting world mutation
  | openWatch subscriber includeExisting options =>
    exact filterMap_openWatch clerical world subscriber includeExisting options
  | subscribe subscriber includeExisting options =>
    exact filterMap_subscribe clerical world subscriber includeExisting options
  | register id =>
    simp only [enact]
    split
    · exact filterMap_register clerical world id
    · rfl
  | unregister id => exact Host.filterMap_remove clerical world.host id
  | handle id change =>
    simp only [enact, told, listing, Lookup.answers_nil, snapshot, touches, List.nil_append]
    split
    · rw [List.flatMap_singleton]
      exact filterMap_act clerical rfl id fun watch found => by
        rw [Glimpse.effects, acted watch id found]
        rfl
    · rfl
  | stop id =>
    simp only [enact, told, listing, Lookup.answers_nil, snapshot, touches, List.nil_append,
      List.flatMap_singleton]
    exact filterMap_act clerical rfl id fun watch found => by
      rw [Glimpse.effects, acted watch id found]
      rfl
  | dropConsumer id =>
    simp only [enact, told, listing, Lookup.answers_nil, snapshot, touches, List.nil_append,
      dropConsumer]
    split
    · rw [List.flatMap_singleton]
      exact @filterMap_act α select clerical world
        { world with consumers := world.consumers.erase id } rfl id Watch.stop .stop
        fun watch found => by
          rw [Glimpse.effects, acted watch id found]
          rfl
    · rfl
  | poll id =>
    simp only [enact, told, listing, Lookup.answers_nil, snapshot, touches, List.nil_append,
      List.flatMap_singleton]
    exact @filterMap_act α select clerical world { world with line := world.line.erase id } rfl id
      (Watch.poll (world.feeds id) turnLimit) .poll fun watch found => by
        rw [Glimpse.effects, acted watch id found]
        rfl
  | take id =>
    simp only [enact]
    split <;> rfl
  | _ => rfl

end World

end Select

theorem World.countP_enact {p : Notice → Bool}
    (clerical : ∀ notice, notice.isClerical = true → p notice = false) (world : World)
    (action : Action) : (world.enact action).2.countP p = (world.told action).countP p := by
  have walked := @filterMap_enact Notice (Option.guard fun notice => p notice)
    (fun notice h => by simp [clerical notice h]) world action
  rw [List.filterMap_eq_filter] at walked
  rw [List.countP_eq_length_filter, walked, List.countP_eq_length_filter]

end AccessFeed
