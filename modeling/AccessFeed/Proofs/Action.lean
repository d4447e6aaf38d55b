import AccessFeed.Proofs.Dispatch
import AccessFeed.Proofs.Opening

/-! What the parties around watches can do, in any order, and what holds of every state that comes
of it. -/
namespace AccessFeed

/-- An order in which the registered watches are visited when a change is handed out. -/
structure Visiting where
  arrange : List (WatchId × Unit) → List (WatchId × Unit)
  perm : ∀ visits, (arrange visits).Perm visits

/-- What a party does. -/
inductive Action where
  | upsert (object : Namespace)
  | removeObject (name : String)
  | setOutage (name : String) (reason : Option String)
  | perform (visiting : Visiting) (mutation : Mutation)
  | openWatch (subscriber : Subscriber) (includeExisting : Option Bool) (options : WatchOptions)
  | subscribe (subscriber : Subscriber) (includeExisting : Option Bool) (options : WatchOptions)
  /-- The creator of a watch registers it. -/
  | register (id : WatchId)
  | unregister (id : WatchId)
  | dropHandler (id : WatchId)
  /-- The creator of a watch hands it a change. -/
  | handle (id : WatchId) (change : AccessChange)
  | stop (id : WatchId)
  | dropConsumer (id : WatchId)
  | poll (id : WatchId)
  | take (id : WatchId)
  | dropHost

theorem Action.perform_or_ne (action : Action) :
    (∃ visiting mutation, action = .perform visiting mutation) ∨
      ∀ visiting mutation, action ≠ .perform visiting mutation := by
  cases action <;> simp

namespace World

/-- The state after an action, and what was told. -/
def enact (world : World) : Action → World × List Notice
  | .upsert object => (world.upsert object).2
  | .removeObject name => ((world.removeObject name).2, [])
  | .setOutage name reason => (world.setOutage name reason, [])
  | .perform visiting mutation => world.performIn visiting.arrange mutation
  | .openWatch subscriber includeExisting options =>
    (world.openWatch subscriber includeExisting options).2
  | .subscribe subscriber includeExisting options =>
    (world.subscribe subscriber includeExisting options).2
  | .register id => if world.handlers.contains id then world.register id else (world, [])
  | .unregister id => world.unregister id
  | .dropHandler id => (world.dropHandler id, [])
  | .handle id change =>
    if world.handlers.contains id then world.handle id change else (world, [])
  | .stop id => world.stop id
  | .dropConsumer id => world.dropConsumer id
  | .poll id => world.poll id
  | .take id => if world.consumers.contains id then ((world.take id).2, []) else (world, [])
  | .dropHost => (world.dropHost, [])

/-- The event that a consumer gets by an action. -/
def delivery? (world : World) : Action → Option (WatchId × Event)
  | .take id =>
    if world.consumers.contains id then
      match (world.take id).1 with
      | .event event => some (id, event)
      | _ => none
    else none
  | _ => none

/-- Every watch is kept under its own id, and every object under its own name. -/
structure Coherent (world : World) : Prop where
  id_eq : ∀ (id : WatchId) (watch : Watch), world.watches[id]? = some watch → watch.id = id
  lt_nextId : ∀ (id : WatchId) (watch : Watch), world.watches[id]? = some watch →
    id < world.nextId
  name_eq : ∀ (name : String) (object : Namespace), world.directory.get? name = some object →
    object.name = name

variable {world : World} {id : WatchId}

theorem Coherent.put (h : world.Coherent) {watch : Watch} (same : watch.id = id)
    (bound : id < world.nextId) : (world.put id watch).Coherent := by
  have cases_put {other : WatchId} {found : Watch}
      (member : (world.put id watch).watches[other]? = some found) :
      (other = id ∧ found = watch) ∨ world.watches[other]? = some found := by
    simp only [World.put, Std.ExtTreeMap.getElem?_insert, Std.LawfulEqCmp.compare_eq_iff_eq]
      at member
    split at member
    · rename_i eq
      exact .inl ⟨eq.symm, (Option.some.inj member).symm⟩
    · exact .inr member
  refine ⟨fun other found member => ?_, fun other found member => ?_, h.name_eq⟩
  · obtain ⟨rfl, rfl⟩ | member := cases_put member
    · exact same
    · exact h.id_eq other found member
  · obtain ⟨rfl, rfl⟩ | member := cases_put member
    · exact bound
    · exact h.lt_nextId other found member

theorem Coherent.checkFeed (h : world.Coherent) (id : WatchId) : (world.checkFeed id).Coherent := by
  unfold World.checkFeed
  split
  · rename_i watch found
    split
    · exact h
    · exact h.put (h.id_eq id watch found) (h.lt_nextId id watch found)
  · exact h

theorem Coherent.unregister (h : world.Coherent) (id : WatchId) :
    (world.unregister id).1.Coherent := by
  have removed : ({ world with host := (world.host.remove id).1 } : World).Coherent :=
    ⟨h.id_eq, h.lt_nextId, h.name_eq⟩
  exact removed.checkFeed id

theorem Coherent.carryOut (h : world.Coherent) (id : WatchId) (effects : List Effect) :
    (World.carryOut id effects world).1.Coherent := by
  induction effects generalizing world with
  | nil => exact h
  | cons effect rest ih =>
    cases effect with
    | note notice => exact ih h
    | leave => exact ih (h.unregister id)

theorem Coherent.act (h : world.Coherent) {action : Watch → Watch × List Effect}
    (same : ∀ watch, (action watch).1.id = watch.id) (id : WatchId) :
    (world.act id action).1.Coherent := by
  unfold World.act
  split
  · rename_i watch found
    refine Coherent.carryOut (h.put ?_ (h.lt_nextId id watch found)) id _
    exact (same watch).trans (h.id_eq id watch found)
  · exact h

theorem id_handle (watch : Watch) (lookup : Lookup) (change : AccessChange) :
    (watch.handle lookup change).1.id = watch.id :=
  Course.id_make (.start watch) (.handle lookup change)

theorem id_poll (watch : Watch) (fed : Bool) (limit : Nat) :
    (watch.poll fed limit).1.id = watch.id :=
  Course.id_make ⟨watch, fed, false, [], []⟩ (.poll limit)

theorem id_take (watch : Watch) : watch.take.2.id = watch.id := by
  unfold Watch.take
  split <;> rfl

theorem id_stop (watch : Watch) : watch.stop.1.id = watch.id :=
  Course.id_make (.start watch) .stop

theorem Coherent.store (h : world.Coherent) {results : List (WatchId × Option Watch)}
    (own : ∀ result ∈ results, ∀ watch ∈ result.2, watch.id = result.1 ∧ result.1 < world.nextId) :
    (world.store results).Coherent := by
  induction results generalizing world with
  | nil => exact h
  | cons result rest ih =>
    obtain ⟨other, watch?⟩ := result
    have later : ∀ result ∈ rest, ∀ watch ∈ result.2, watch.id = result.1 ∧
        result.1 < world.nextId := fun result member => own result (List.mem_cons_of_mem _ member)
    cases watch? with
    | none => exact ih h later
    | some watch =>
      obtain ⟨same, bound⟩ := own _ List.mem_cons_self watch rfl
      have next : ((world.put other watch).checkFeed other).nextId = world.nextId := by
        unfold World.checkFeed
        split
        · split <;> rfl
        · rfl
      exact ih ((h.put same bound).checkFeed other) (next.symm ▸ later)

theorem Coherent.performIn (h : world.Coherent)
    (arrange : List (WatchId × Unit) → List (WatchId × Unit)) (mutation : Mutation) :
    (world.performIn arrange mutation).1.Coherent := by
  unfold World.performIn
  split
  · rename_i catalog host
    have hosted (catalog : Catalog Unit) : ({ world with host := .real catalog } : World).Coherent :=
      ⟨h.id_eq, h.lt_nextId, h.name_eq⟩
    apply (hosted _).store
    simp only [Catalog.perform]
    generalize catalog.mutate mutation = mutated
    obtain ⟨after, _ | change⟩ := mutated
    · simp
    · simp only [Catalog.dispatch, results_notify, List.mem_map]
      rintro _ ⟨visit, -, rfl⟩ watch member
      unfold response at member
      split at member
      · rename_i before found
        obtain rfl := Option.mem_some_iff.mp member
        exact ⟨(id_handle before _ _).trans (h.id_eq _ _ found), h.lt_nextId _ _ found⟩
      · cases member
  · exact h

theorem Coherent.opening (h : world.Coherent) (subscriber : Subscriber)
    (includeExisting : Option Bool) (options : WatchOptions) (names : List String) :
    (world.opening subscriber includeExisting options names).Coherent := by
  have counted : ({ world with
      nextId := world.nextId + 1
      handlers := world.handlers.insert world.nextId
      consumers := world.consumers.insert world.nextId } : World).Coherent :=
    ⟨h.id_eq, fun id watch found => Nat.lt_succ_of_lt (h.lt_nextId id watch found), h.name_eq⟩
  exact counted.put rfl (Nat.lt_succ_self _)

theorem Coherent.subscribe (h : world.Coherent) (subscriber : Subscriber)
    (includeExisting : Option Bool) (options : WatchOptions) :
    (world.subscribe subscriber includeExisting options).2.1.Coherent := by
  unfold World.subscribe
  obtain ⟨names, notices, opened⟩ | ⟨cause, notices, failed⟩ :=
    world.openWatch_cases subscriber includeExisting options
  · rw [opened]
    have open' := h.opening subscriber includeExisting options names
    have dropped : ({ (world.opening subscriber includeExisting options names).register
        world.nextId |>.1 with
        handlers := ((world.opening subscriber includeExisting options names).register
          world.nextId).1.handlers.erase world.nextId } : World).Coherent :=
      ⟨open'.id_eq, open'.lt_nextId, open'.name_eq⟩
    exact dropped.checkFeed _
  · rw [failed]
    exact h

theorem Coherent.enact (h : world.Coherent) (action : Action) :
    (world.enact action).1.Coherent := by
  cases action with
  | upsert object =>
    refine ⟨h.id_eq, h.lt_nextId, fun name found member => ?_⟩
    simp only [World.enact, World.upsert, Directory.get?_upsert] at member
    split at member
    · rename_i same
      exact Option.some.inj member ▸ same
    · exact h.name_eq name found member
  | removeObject name =>
    refine ⟨h.id_eq, h.lt_nextId, fun other found member => ?_⟩
    simp only [World.enact, World.removeObject, Directory.get?_remove] at member
    split at member
    · cases member
    · exact h.name_eq other found member
  | setOutage name reason => cases reason <;> exact ⟨h.id_eq, h.lt_nextId, h.name_eq⟩
  | perform visiting mutation => exact h.performIn visiting.arrange mutation
  | openWatch subscriber includeExisting options =>
    simp only [World.enact]
    obtain ⟨names, notices, opened⟩ | ⟨cause, notices, failed⟩ :=
      world.openWatch_cases subscriber includeExisting options
    · rw [opened]
      exact h.opening subscriber includeExisting options names
    · rw [failed]
      exact h
  | subscribe subscriber includeExisting options => exact h.subscribe _ _ _
  | register other =>
    simp only [World.enact]
    split
    · exact ⟨h.id_eq, h.lt_nextId, h.name_eq⟩
    · exact h
  | unregister other => exact h.unregister other
  | dropHandler other =>
    have dropped : ({ world with handlers := world.handlers.erase other } : World).Coherent :=
      ⟨h.id_eq, h.lt_nextId, h.name_eq⟩
    exact dropped.checkFeed other
  | handle other change =>
    simp only [World.enact]
    split
    · exact h.act (fun watch => id_handle watch _ _) other
    · exact h
  | stop other => exact h.act id_stop other
  | dropConsumer other =>
    simp only [World.enact, World.dropConsumer]
    split
    · have dropped : ({ world with consumers := world.consumers.erase other } : World).Coherent :=
        ⟨h.id_eq, h.lt_nextId, h.name_eq⟩
      exact dropped.act id_stop other
    · exact h
  | poll other =>
    have dropped : ({ world with line := world.line.erase other } : World).Coherent :=
      ⟨h.id_eq, h.lt_nextId, h.name_eq⟩
    exact dropped.act (fun watch => id_poll watch _ _) other
  | take other =>
    simp only [World.enact, World.take]
    split
    · split
      · rename_i watch found
        exact h.put ((id_take watch).trans (h.id_eq other watch found))
          (h.lt_nextId other watch found)
      · exact h
    · exact h
  | dropHost =>
    have gone : ({ world with host := .gone } : World).Coherent :=
      ⟨h.id_eq, h.lt_nextId, h.name_eq⟩
    have checked (ids : List WatchId) {world : World} (h : world.Coherent) :
        (ids.foldl World.checkFeed world).Coherent := by
      induction ids generalizing world with
      | nil => exact h
      | cons first rest ih => exact ih (h.checkFeed first)
    exact checked _ gone

end World
end AccessFeed
