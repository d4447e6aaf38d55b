import AccessFeed.Proofs.Backdrop

/-! The order in which a dispatch visits the registered watches. It makes no difference but to the
order in which things are told, and in which relays get in line. -/
namespace AccessFeed

namespace Catalog

variable {catalog other : Catalog Unit} {id : WatchId}

/-- A catalog is who may see what, and which watches are registered. -/
theorem eq_of_registers (accesses : catalog.accesses = other.accesses)
    (registers : ∀ id, catalog.registers id = other.registers id) : catalog = other := by
  obtain ⟨_, watchers⟩ := catalog
  obtain ⟨_, watchers'⟩ := other
  obtain rfl : _ = _ := accesses
  obtain rfl : watchers = watchers' := Std.ExtTreeMap.ext_contains_unit registers
  rfl

/-- What is told while a watch is visited depends on the registry only as far as the watch itself is
concerned. -/
theorem notices_carryOut_congr (same : catalog.registers id = other.registers id)
    (result : Option Watch) (effects : List Effect) :
    (catalog.carryOut (.ofEffects id result effects)).2.1 =
      (other.carryOut (.ofEffects id result effects)).2.1 := by
  induction effects generalizing catalog other with
  | nil => rfl
  | cons effect rest ih =>
    cases effect with
    | note notice => exact congrArg (notice :: ·) (ih same)
    | leave =>
      have told : (catalog.remove id).2 = (other.remove id).2 := by
        unfold remove
        rw [same]
        split <;> rfl
      have later : (catalog.remove id).1.registers id = (other.remove id).1.registers id := by
        rw [registers_remove, registers_remove, same]
      exact congrArg₂ (· ++ ·) told (ih later)

end Catalog

namespace World

variable {world next next' : World}

/-- Each visit tells the same, whatever watches were visited before. -/
theorem notices_notify (world : World) (change : AccessChange) {visits : List (WatchId × Unit)}
    (distinct : (visits.map Prod.fst).Nodup) {catalog start : Catalog Unit}
    (unvisited : ∀ id ∈ visits.map Prod.fst, catalog.registers id = start.registers id) :
    (Catalog.notify (world.react change) visits catalog).notices =
      visits.flatMap fun visit => (start.carryOut (world.react change visit.1 visit.2)).2.1 := by
  induction visits generalizing catalog with
  | nil => rfl
  | cons visit rest ih =>
    rw [List.map_cons, List.nodup_cons] at distinct
    rw [List.map_cons, List.forall_mem_cons] at unvisited
    have told := Catalog.notices_carryOut_congr unvisited.1 (world.response change visit.1).1
      (world.response change visit.1).2
    rw [← react_eq world change visit.1 visit.2] at told
    rw [Catalog.notify, List.flatMap_cons, ← told]
    dsimp only
    congr 1
    refine ih distinct.2 fun id member => ?_
    have other : visit.1 ≠ id := fun same => distinct.1 (same ▸ member)
    rw [react_eq, Catalog.registers_carryOut, unvisited.2 id member]
    simp [other]

theorem perm_notices_notify (world : World) (change : AccessChange)
    {visits visits' : List (WatchId × Unit)} (h : visits.Perm visits')
    (distinct : (visits.map Prod.fst).Nodup) (catalog : Catalog Unit) :
    (Catalog.notify (world.react change) visits catalog).notices.Perm
      (Catalog.notify (world.react change) visits' catalog).notices := by
  rw [notices_notify world change distinct fun _ _ => rfl,
    notices_notify world change ((h.map Prod.fst).nodup_iff.mp distinct) fun _ _ => rfl]
  exact h.flatMap_right _

theorem nodup_visits {catalog : Catalog Unit} {visits : List (WatchId × Unit)}
    (h : visits.Perm catalog.watchers.toList) : (visits.map Prod.fst).Nodup := by
  rw [(h.map Prod.fst).nodup_iff]
  refine List.Pairwise.map _ ?_ catalog.watchers.distinct_keys_toList
  intro first second distinct same
  exact distinct (Std.LawfulEqCmp.compare_eq_iff_eq.mpr same)

variable {arrange arrange' : List (WatchId × Unit) → List (WatchId × Unit)}

/-- The same is told in whatever order the registered watches are visited, though not in the same
order. -/
theorem perm_notices_performIn (h : ∀ visits, (arrange visits).Perm visits)
    (h' : ∀ visits, (arrange' visits).Perm visits) (world : World) (mutation : Mutation) :
    (world.performIn arrange mutation).2.Perm (world.performIn arrange' mutation).2 := by
  unfold performIn
  cases host : world.host with
  | real catalog =>
    simp only [Catalog.perform]
    generalize catalog.mutate mutation = mutated
    obtain ⟨after, _ | change⟩ := mutated
    · exact .refl _
    · have perm := (h after.watchers.toList).trans (h' after.watchers.toList).symm
      have told := perm_notices_notify world change perm (nodup_visits (h _)) after
      simp only [Catalog.dispatch, perm.length_eq]
      exact told.append_right _
  | _ => exact .refl _

/-- Two states that come from one by what happens to watches alone, with the same catalog and the
same of every watch, differ at most in the line. -/
theorem Beside.eq_of_glimpse (h : world.Beside next) (h' : world.Beside next')
    (host : next.host = next'.host) (glimpse : ∀ id, next.glimpse id = next'.glimpse id) :
    next' = { next with line := next'.line } := by
  have watches : next.watches = next'.watches :=
    Std.ExtTreeMap.ext_getElem? fun id => congrArg Glimpse.watch? (glimpse id)
  have handlers : next.handlers = next'.handlers :=
    Std.ExtTreeSet.ext_contains fun id => congrArg Glimpse.isHandled (glimpse id)
  obtain ⟨_, _, _, _, rfl⟩ := h
  obtain ⟨_, _, _, _, rfl⟩ := h'
  obtain rfl : _ = _ := host
  obtain rfl : _ = _ := watches
  obtain rfl : _ = _ := handlers
  rfl

/-- In whatever order the registered watches are visited, a mutation leaves the same state behind,
apart from the line. -/
theorem performIn_eq (h : ∀ visits, (arrange visits).Perm visits)
    (h' : ∀ visits, (arrange' visits).Perm visits) (world : World) (mutation : Mutation) :
    (world.performIn arrange' mutation).1 =
      { (world.performIn arrange mutation).1 with
        line := (world.performIn arrange' mutation).1.line } := by
  have glimpse (id : WatchId) : (world.performIn arrange mutation).1.glimpse id =
      (world.performIn arrange' mutation).1.glimpse id := by
    rw [glimpse_performIn h, glimpse_performIn h']
  refine (beside_performIn arrange world mutation).eq_of_glimpse
    (beside_performIn arrange' world mutation) ?_ glimpse
  cases host : world.host with
  | real catalog =>
    obtain ⟨after, hosted, accesses⟩ := @host_performIn world arrange catalog host mutation
    obtain ⟨after', hosted', accesses'⟩ := @host_performIn world arrange' catalog host mutation
    have registers (id : WatchId) : after.registers id = after'.registers id := by
      have same := congrArg Glimpse.isRegistered (glimpse id)
      simpa only [World.glimpse, hosted, hosted', Host.registers] using same
    rw [hosted, hosted', Catalog.eq_of_registers (accesses.trans accesses'.symm) registers]
  | _ => simp only [performIn, host]

/-- How often a relay is in line after its watch was stored. -/
def inLine (watch : Watch) (count : Nat) : Nat := if watch.isDue then max 1 count else count

theorem count_line_put (world : World) (other id : WatchId) (watch : Watch) :
    (world.put other watch).line.count id =
      if other = id then inLine watch (world.line.count id) else world.line.count id := by
  have member : world.line.contains other = decide (0 < world.line.count other) := by
    rw [Bool.eq_iff_iff, List.contains_iff_mem, decide_eq_true_iff, List.count_pos_iff]
  simp only [put, inLine, member]
  by_cases same : other = id
  · subst same
    cases watch.isDue <;> cases count : world.line.count other <;> simp [count]
  · cases watch.isDue <;> split <;> simp [same]

theorem count_line_checkFeed (world : World) (other id : WatchId) :
    (world.checkFeed other).line.count id =
      if other = id ∧ world.feeds id = false then
        world.watches[id]?.elim (world.line.count id) fun watch =>
          inLine watch.starve (world.line.count id)
      else world.line.count id := by
  unfold checkFeed
  by_cases same : other = id
  · subst same
    cases world.watches[other]? with
    | none => simp
    | some watch => cases fed : world.feeds other <;> simp [count_line_put]
  · cases world.watches[other]? with
    | none => simp [same]
    | some watch => cases fed : world.feeds other <;> simp [count_line_put, same]

/-- What storing a result changes of the watch it belongs to, and of how often its relay is in
line. -/
def absorbInLine (place : Glimpse × Nat) (result : WatchId × Option Watch) : Glimpse × Nat :=
  match result.2 with
  | some watch =>
    let stored := place.1.put watch
    let count := inLine watch place.2
    (stored.checkFeed, if stored.isFed then count else inLine watch.starve count)
  | none => place

theorem absorbInLine_some (world : World) (id : WatchId) (watch : Watch) :
    absorbInLine (world.glimpse id, world.line.count id) (id, some watch) =
      (((world.put id watch).checkFeed id).glimpse id,
        ((world.put id watch).checkFeed id).line.count id) := by
  have glimpse := glimpse_put world id watch
  have held : (world.put id watch).watches[id]? = some watch := congrArg Glimpse.watch? glimpse
  have fed : ((world.glimpse id).put watch).isFed = (world.put id watch).feeds id := by
    rw [← glimpse, isFed_glimpse]
  simp only [absorbInLine, glimpse_checkFeed, glimpse, count_line_checkFeed, count_line_put, held,
    fed]
  cases (world.put id watch).feeds id <;> simp

theorem place_store (results : List (WatchId × Option Watch)) (world : World) (id : WatchId) :
    ((world.store results).glimpse id, (world.store results).line.count id) =
      (results.filter (·.1 == id)).foldl absorbInLine (world.glimpse id, world.line.count id) := by
  induction results generalizing world with
  | nil => rfl
  | cons result rest ih =>
    obtain ⟨other, watch?⟩ := result
    have tail := fun world : World => ih world
    unfold store at tail ⊢
    rw [List.foldl_cons, tail]
    by_cases same : other = id
    · subst same
      cases watch? with
      | none => simp [absorbInLine]
      | some watch => simp [absorbInLine_some]
    · cases watch? with
      | none => simp [same]
      | some watch =>
        simp [same, glimpse_checkFeed_of_ne same, glimpse_put_of_ne same, count_line_checkFeed,
          count_line_put]

theorem count_line_notify (world : World) (change : AccessChange) (id : WatchId)
    (visits : List (WatchId × Unit)) (catalog : Catalog Unit) :
    let round := Catalog.notify (world.react change) visits catalog
    let mine := visits.filter (·.1 == id)
    ({ world with host := .real round.catalog }.store round.results).line.count id =
      ((mine.map fun visit => (visit.1, (world.response change visit.1).1)).foldl absorbInLine
        ({ world.glimpse id with
          isRegistered := catalog.registers id && !mine.any fun visit =>
            decide (.leave ∈ (world.response change visit.1).2) }, world.line.count id)).2 := by
  intro round mine
  have registers : round.catalog.registers id = _ := registers_notify ..
  have results : round.results.filter (·.1 == id) = mine.map fun visit =>
      (visit.1, (world.response change visit.1).1) := by
    rw [results_notify, List.filter_map]
    rfl
  have place := place_store round.results { world with host := .real round.catalog } id
  have start : ({ world with host := .real round.catalog } : World).glimpse id =
      { world.glimpse id with isRegistered := round.catalog.registers id } := rfl
  rw [results, start, registers] at place
  exact congrArg Prod.snd place

/-- The same relays are in line after a mutation, in whatever order the registered watches are
visited. -/
theorem perm_line_performIn (h : ∀ visits, (arrange visits).Perm visits)
    (h' : ∀ visits, (arrange' visits).Perm visits) (world : World) (mutation : Mutation) :
    (world.performIn arrange mutation).1.line.Perm (world.performIn arrange' mutation).1.line := by
  rw [List.perm_iff_count]
  intro id
  unfold performIn
  cases host : world.host with
  | real catalog =>
    simp only [Catalog.perform]
    generalize catalog.mutate mutation = mutated
    obtain ⟨after, _ | change⟩ := mutated
    · rfl
    · have visits := @Catalog.visits_of_perm after _ (h _) id
      have visits' := @Catalog.visits_of_perm after _ (h' _) id
      have count := count_line_notify world change id (arrange after.watchers.toList) after
      have count' := count_line_notify world change id (arrange' after.watchers.toList) after
      dsimp only at count count'
      rw [visits] at count
      rw [visits'] at count'
      exact count.trans count'.symm
  | _ => rfl

end World
end AccessFeed
