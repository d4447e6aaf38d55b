import AccessFeed.Proofs.Glimpse

/-! What a mutation of the catalog means to one watch. In whatever order the registered watches are
visited, each of them is handed the change once, as if it were the only one. -/
namespace AccessFeed

namespace Catalog

variable {catalog : Catalog Unit}

theorem watchers_mutate {ω : Type} (catalog : Catalog ω) (mutation : Mutation) :
    (catalog.mutate mutation).1.watchers = catalog.watchers := by
  cases mutation with
  | setAccess name latest => rfl
  | forget name =>
    simp only [mutate]
    split <;> rfl
  | touch name => rfl

theorem registers_mutate {ω : Type} (catalog : Catalog ω) (mutation : Mutation) (id : WatchId) :
    (catalog.mutate mutation).1.registers id = catalog.registers id := by
  rw [registers, watchers_mutate, registers]

section Visits

variable {ω : Type} {catalog : Catalog ω} {visits : List (WatchId × ω)} {id : WatchId}

theorem registers_iff :
    catalog.registers id = true ↔ ∃ watcher, catalog.watchers[id]? = some watcher := by
  rw [registers, Std.ExtTreeMap.contains_iff_mem, Std.ExtTreeMap.mem_iff_isSome_getElem?,
    Option.isSome_iff_exists]

/-- A registered watcher is visited once, whatever the order of the visits. -/
theorem count_visits (h : visits.Perm catalog.watchers.toList)
    (registered : catalog.registers id = true) : (visits.map Prod.fst).count id = 1 := by
  have keys : catalog.watchers.toList.map Prod.fst = catalog.watchers.keys := by simp
  have member : id ∈ catalog.watchers.keys := by simpa [registers] using registered
  rw [(h.map Prod.fst).count_eq, keys]
  rw [catalog.watchers.nodup_keys.count, if_pos member]

/-- However the registered watchers are ordered, under each id just the registered one is visited. -/
theorem filter_visits (h : visits.Perm catalog.watchers.toList) (id : WatchId) :
    visits.filter (·.1 == id) = (catalog.watchers[id]?.map fun watcher => (id, watcher)).toList := by
  have member (watcher : ω) : (id, watcher) ∈ visits ↔ catalog.watchers[id]? = some watcher := by
    rw [h.mem_iff, Std.ExtTreeMap.mem_toList_iff_getElem?_eq_some]
  cases found : catalog.watchers[id]? with
  | none =>
    refine List.filter_eq_nil_iff.mpr ?_
    rintro ⟨other, watcher⟩ visited same
    obtain rfl := beq_iff_eq.mp same
    rw [member, found] at visited
    cases visited
  | some watcher =>
    have once := count_visits h (registers_iff.mpr ⟨watcher, found⟩)
    rw [List.count, List.countP_map, List.countP_eq_length_filter] at once
    obtain ⟨visit, only⟩ := List.length_eq_one_iff.mp once
    have kept : (id, watcher) ∈ visits.filter (·.1 == id) :=
      List.mem_filter.mpr ⟨(member watcher).mpr found, beq_self_eq_true id⟩
    have same : visits.filter (·.1 == id) = [visit] := only
    rw [same] at kept ⊢
    rw [← List.mem_singleton.mp kept]
    rfl

end Visits

/-- However the registered watches are ordered, each is visited once. -/
theorem visits_of_perm {visits : List (WatchId × Unit)} (h : visits.Perm catalog.watchers.toList)
    (id : WatchId) :
    visits.filter (·.1 == id) = if catalog.registers id then [(id, ())] else [] := by
  rw [filter_visits h]
  cases found : catalog.watchers[id]? with
  | none =>
    have unregistered : ¬ catalog.registers id = true := by simp [registers_iff, found]
    rw [if_neg unregistered]
    rfl
  | some watcher =>
    rw [if_pos (registers_iff.mpr ⟨watcher, found⟩)]
    rfl

theorem registers_carryOut (catalog : Catalog Unit) (other id : WatchId) (result : Option Watch)
    (effects : List Effect) :
    (catalog.carryOut (.ofEffects other result effects)).1.registers id =
      (catalog.registers id && !(other == id && decide (.leave ∈ effects))) := by
  induction effects generalizing catalog with
  | nil => simp [Reaction.ofEffects, carryOut]
  | cons effect rest ih =>
    cases effect with
    | note notice => simpa [Reaction.ofEffects, carryOut] using ih catalog
    | leave =>
      have left := ih (catalog.remove other).1
      rw [registers_remove] at left
      by_cases same : other = id
      · subst same
        simpa [Reaction.ofEffects, carryOut] using left
      · have distinct : (other == id) = false := beq_eq_false_iff_ne.mpr same
        simpa [Reaction.ofEffects, carryOut, bne, distinct] using left

theorem about_remove (catalog : Catalog Unit) (other id : WatchId) :
    Notice.about id (catalog.remove other).2 = [] := by
  unfold remove
  split <;> rfl

theorem about_carryOut (catalog : Catalog Unit) (other id : WatchId) (result : Option Watch)
    (effects : List Effect) :
    Notice.about id (catalog.carryOut (.ofEffects other result effects)).2.1 =
      Notice.about id (Effect.notices effects) := by
  induction effects generalizing catalog with
  | nil => rfl
  | cons effect rest ih =>
    cases effect with
    | note notice =>
      rw [Effect.notices_note, Notice.about_cons, ← ih catalog, ← Notice.about_cons]
      rfl
    | leave =>
      rw [Effect.notices_leave, ← ih (catalog.remove other).1]
      simp [Reaction.ofEffects, carryOut, about_remove]

theorem result_carryOut (catalog : Catalog Unit) (id : WatchId) (result : Option Watch)
    (effects : List Effect) :
    (catalog.carryOut (.ofEffects id result effects)).2.2 = result := by
  induction effects generalizing catalog with
  | nil => rfl
  | cons effect rest ih =>
    cases effect with
    | note notice => exact ih catalog
    | leave => exact ih (catalog.remove id).1

end Catalog

namespace World

variable {world : World} {change : AccessChange} {id : WatchId}

/-- The state of a watch after it was handed a change, and the effects of that. -/
def response (world : World) (change : AccessChange) (id : WatchId) :
    Option Watch × List Effect :=
  match world.watches[id]? with
  | some watch =>
    (some (watch.handle world.lookup change).1, (watch.handle world.lookup change).2)
  | none => (none, [])

theorem react_eq (world : World) (change : AccessChange) (id : WatchId) (watcher : Unit) :
    world.react change id watcher =
      .ofEffects id (world.response change id).1 (world.response change id).2 := by
  unfold react response
  cases world.watches[id]? <;> rfl

theorem registers_notify (world : World) (change : AccessChange) (id : WatchId)
    (visits : List (WatchId × Unit)) (catalog : Catalog Unit) :
    (Catalog.notify (world.react change) visits catalog).catalog.registers id =
      (catalog.registers id && !(visits.filter (·.1 == id)).any fun visit =>
        decide (.leave ∈ (world.response change visit.1).2)) := by
  induction visits generalizing catalog with
  | nil => simp [Catalog.notify]
  | cons visit rest ih =>
    simp only [Catalog.notify, ih, react_eq, Catalog.registers_carryOut, List.any_filter,
      List.any_cons, Bool.not_or, Bool.and_assoc]

/-- Each visit tells of the watch that is visited and of no other. -/
theorem about_notify
    (own : ∀ (other : WatchId) (watch : Watch), world.watches[other]? = some watch →
      watch.id = other)
    (change : AccessChange) (id : WatchId) (visits : List (WatchId × Unit))
    (catalog : Catalog Unit) :
    Notice.about id (Catalog.notify (world.react change) visits catalog).notices =
      (visits.filter (·.1 == id)).flatMap fun visit =>
        Notice.about id (Effect.notices (world.response change visit.1).2) := by
  induction visits generalizing catalog with
  | nil => rfl
  | cons visit rest ih =>
    simp only [Catalog.notify, react_eq, Notice.about_append, ih, Catalog.about_carryOut]
    by_cases same : visit.1 = id
    · simp [same]
    · have silent : Notice.about id (Effect.notices (world.response change visit.1).2) = [] := by
        refine Notice.about_eq_nil_of_isOwn ?_ same
        intro notice member
        unfold response at member
        split at member
        · rename_i watch found
          rw [← own _ _ found]
          exact @Course.isOwn_of_mem_make (.start watch) (.handle world.lookup change) notice rfl
            member
        · cases member
      simp [same, silent]

theorem results_notify (world : World) (change : AccessChange) (visits : List (WatchId × Unit))
    (catalog : Catalog Unit) :
    (Catalog.notify (world.react change) visits catalog).results =
      visits.map fun visit => (visit.1, (world.response change visit.1).1) := by
  induction visits generalizing catalog with
  | nil => rfl
  | cons visit rest ih =>
    simp only [Catalog.notify, react_eq, ih, Catalog.result_carryOut, List.map_cons]

/-- What storing a result changes of the watch it belongs to. -/
def absorb (glimpse : Glimpse) (result : WatchId × Option Watch) : Glimpse :=
  match result.2 with
  | some watch => (glimpse.put watch).checkFeed
  | none => glimpse

theorem glimpse_store (results : List (WatchId × Option Watch)) (world : World) (id : WatchId) :
    (world.store results).glimpse id =
      (results.filter (·.1 == id)).foldl absorb (world.glimpse id) := by
  induction results generalizing world with
  | nil => rfl
  | cons result rest ih =>
    obtain ⟨other, watch?⟩ := result
    have tail := fun world : World => ih world
    unfold store at tail ⊢
    rw [List.foldl_cons, tail]
    by_cases same : other = id
    · subst same
      cases watch? with
      | none => simp [absorb]
      | some watch => simp [absorb, glimpse_checkFeed, glimpse_put]
    · cases watch? with
      | none => simp [same]
      | some watch => simp [same, glimpse_checkFeed_of_ne same, glimpse_put_of_ne same]

/-- A visited watch is handed the change, and nothing else happens to it. -/
theorem glimpse_notify {visits : List (WatchId × Unit)} {catalog : Catalog Unit}
    (same : catalog.registers id = world.host.registers id)
    (once : visits.filter (·.1 == id) = if catalog.registers id then [(id, ())] else []) :
    let round := Catalog.notify (world.react change) visits catalog
    ({ world with host := .real round.catalog }.store round.results).glimpse id =
      if world.host.registers id then (world.glimpse id).act (·.handle world.lookup change)
      else world.glimpse id := by
  intro round
  have registers : round.catalog.registers id = (catalog.registers id &&
      !(visits.filter (·.1 == id)).any fun visit =>
        decide (.leave ∈ (world.response change visit.1).2)) := registers_notify ..
  have results : round.results.filter (·.1 == id) = (visits.filter (·.1 == id)).map fun visit =>
      (visit.1, (world.response change visit.1).1) := by
    rw [results_notify, List.filter_map]
    rfl
  have start : ({ world with host := .real round.catalog } : World).glimpse id =
      { world.glimpse id with isRegistered := round.catalog.registers id } := rfl
  have member : (world.glimpse id).isRegistered = world.host.registers id := rfl
  have response : world.response change id =
      match (world.glimpse id).watch? with
      | some watch =>
        (some (watch.handle world.lookup change).1, (watch.handle world.lookup change).2)
      | none => (none, []) := rfl
  rw [glimpse_store, results, start, registers, once, same]
  generalize world.glimpse id = glimpse at member response ⊢
  obtain ⟨watch?, isHandled, isRegistered⟩ := glimpse
  obtain rfl : isRegistered = world.host.registers id := member
  cases registered : world.host.registers id with
  | false => simp
  | true =>
    cases watch? with
    | none => simp [response, absorb, Glimpse.act]
    | some watch =>
      by_cases leaves : .leave ∈ (watch.handle world.lookup change).2
      · simp [response, absorb, leaves, Glimpse.act, Glimpse.dismiss, Glimpse.put]
      · simp [response, absorb, leaves, Glimpse.act, Glimpse.put, Glimpse.checkFeed, Glimpse.isFed]

/-- The change that a mutation hands out. -/
def change? (world : World) (mutation : Mutation) : Option AccessChange :=
  match world.host with
  | .real catalog => (catalog.mutate mutation).2
  | _ => none

variable {arrange : List (WatchId × Unit) → List (WatchId × Unit)}

theorem glimpse_performIn (h : ∀ visits, (arrange visits).Perm visits) (world : World)
    (mutation : Mutation) (id : WatchId) :
    (world.performIn arrange mutation).1.glimpse id =
      match world.change? mutation with
      | some change =>
        if world.host.registers id then (world.glimpse id).act (·.handle world.lookup change)
        else world.glimpse id
      | none => world.glimpse id := by
  unfold performIn change?
  cases host : world.host with
  | double standIn => rfl
  | gone => rfl
  | real catalog =>
    have registers := Catalog.registers_mutate catalog mutation id
    have visits := @Catalog.visits_of_perm (catalog.mutate mutation).1 _ (h _) id
    simp only [Catalog.perform]
    generalize catalog.mutate mutation = mutated at registers visits ⊢
    obtain ⟨after, _ | change⟩ := mutated
    · simp only [store, List.foldl_nil, glimpse, host, Host.registers]
      rw [registers]
    · have visited := @glimpse_notify world change id _ _
        (by rw [registers, host, Host.registers]) visits
      rw [host] at visited
      exact visited

theorem about_performIn (h : ∀ visits, (arrange visits).Perm visits)
    (own : ∀ (other : WatchId) (watch : Watch), world.watches[other]? = some watch →
      watch.id = other)
    (mutation : Mutation) (id : WatchId) :
    Notice.about id (world.performIn arrange mutation).2 =
      match world.change? mutation with
      | some change =>
        if world.host.registers id then
          Notice.about id (Effect.notices (world.response change id).2)
        else []
      | none => [] := by
  unfold performIn change?
  cases host : world.host with
  | double standIn => rfl
  | gone => rfl
  | real catalog =>
    have registers := Catalog.registers_mutate catalog mutation id
    have visits := @Catalog.visits_of_perm (catalog.mutate mutation).1 _ (h _) id
    simp only [Catalog.perform, Host.registers]
    generalize catalog.mutate mutation = mutated at registers visits ⊢
    obtain ⟨after, _ | change⟩ := mutated
    · rfl
    · have dispatched (watchers : Nat) :
          Notice.about id [.dispatched change.name watchers] = [] := rfl
      simp only [Catalog.dispatch, Notice.about_append, about_notify own, visits, dispatched]
      rw [registers]
      by_cases registered : catalog.registers id = true
      · simp [registered]
      · simp [Bool.not_eq_true _ ▸ registered]

theorem host_checkFeed (world : World) (id : WatchId) : (world.checkFeed id).host = world.host := by
  unfold checkFeed
  split
  · split <;> rfl
  · rfl

theorem host_store (results : List (WatchId × Option Watch)) (world : World) :
    (world.store results).host = world.host := by
  induction results generalizing world with
  | nil => rfl
  | cons result rest ih =>
    obtain ⟨other, watch?⟩ := result
    apply (ih _).trans
    cases watch? with
    | none => rfl
    | some watch => exact host_checkFeed _ _

/-- A mutation of the catalog changes who may see what as asked, whatever the watches do. -/
theorem host_performIn {catalog : Catalog Unit} (h : world.host = .real catalog)
    (mutation : Mutation) :
    ∃ after, (world.performIn arrange mutation).1.host = .real after ∧
      after.accesses = (catalog.mutate mutation).1.accesses := by
  unfold performIn
  rw [h]
  refine ⟨_, host_store _ _, ?_⟩
  simp only [Catalog.perform]
  generalize catalog.mutate mutation = mutated
  obtain ⟨after, _ | change⟩ := mutated
  · rfl
  · exact Catalog.accesses_notify _ _ _

end World
end AccessFeed
