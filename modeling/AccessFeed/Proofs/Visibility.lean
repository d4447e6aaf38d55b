import AccessFeed.Proofs.Action

/-! Which namespaces a subscriber sees, and what a mutation of the catalog changes of that. -/
namespace AccessFeed

namespace Access

theorem allows_diff {previous latest : Access} {subscriber : Subscriber}
    (h : latest.allows subscriber = false) :
    (previous.diff latest).allows subscriber = previous.allows subscriber := by
  have outside := mt (allows_iff latest subscriber).mpr (by simp [h])
  simp only [not_or, not_exists, not_and] at outside
  rw [Bool.eq_iff_iff, allows_iff, allows_iff]
  simp only [diff, Std.ExtTreeSet.mem_diff_iff]
  constructor
  · rintro (⟨member, -⟩ | ⟨group, own, member, -⟩)
    · exact .inl member
    · exact .inr ⟨group, own, member⟩
  · rintro (member | ⟨group, own, member⟩)
    · exact .inl ⟨member, outside.1⟩
    · exact .inr ⟨group, own, member, outside.2 group own⟩

end Access

/-- What a change means to a subscriber depends only on whether the subscriber was allowed before
and is allowed after it. -/
theorem AccessChange.bearing_between (name : String) (previous latest : Access)
    (subscriber : Subscriber) :
    (between name previous latest).bearing subscriber =
      if latest.allows subscriber then .granted
      else if previous.allows subscriber then .revoked
      else .unaffected := by
  unfold bearing between
  cases allowed : latest.allows subscriber with
  | true => rfl
  | false => rw [Access.allows_diff allowed]

/-- The namespace that a mutation is about. -/
def Mutation.name : Mutation → String
  | .setAccess name _ | .forget name | .touch name => name

namespace Catalog

variable {ω : Type} {catalog : Catalog ω} {mutation : Mutation}

/-- Who may see a namespace; nobody may see an unknown one. -/
def accessOf (catalog : Catalog ω) (name : String) : Access := (catalog.access? name).getD .nobody

theorem mem_visible {subscriber : Subscriber} {name : String} :
    name ∈ catalog.visible subscriber ↔ (catalog.accessOf name).allows subscriber = true := by
  simp only [visible, List.mem_map, List.mem_filter, Prod.exists, exists_and_right, exists_eq_right,
    Std.ExtTreeMap.mem_toList_iff_getElem?_eq_some, accessOf, access?]
  cases found : catalog.accesses[name]? with
  | none => simp
  | some access => simp

theorem nodup_visible (catalog : Catalog ω) (subscriber : Subscriber) :
    (catalog.visible subscriber).Nodup := by
  have distinct := catalog.accesses.distinct_keys_toList
  refine List.Pairwise.map _ ?_ (distinct.filter _)
  rintro first second ne same
  exact ne (same ▸ Std.ReflCmp.compare_self)

/-- A change tells of one namespace who could see it before and who can see it after the
mutation. -/
theorem change_of_mutate {change : AccessChange} (h : (catalog.mutate mutation).2 = some change) :
    change = .between change.name (catalog.accessOf change.name)
        ((catalog.mutate mutation).1.accessOf change.name) ∧
      ∀ other, other ≠ change.name →
        (catalog.mutate mutation).1.accessOf other = catalog.accessOf other := by
  cases mutation with
  | setAccess name latest =>
    obtain rfl := Option.some.inj h
    refine ⟨by simp [mutate, accessOf, access?, AccessChange.between], fun other ne => ?_⟩
    simp only [AccessChange.between] at ne
    simp [mutate, accessOf, access?, Std.ExtTreeMap.getElem?_insert, Ne.symm ne]
  | forget name =>
    simp only [mutate] at h ⊢
    cases found : catalog.access? name with
    | none => simp [found] at h
    | some previous =>
      simp only [found] at h ⊢
      obtain rfl := Option.some.inj h
      refine ⟨?_, fun other ne => ?_⟩
      · simp [accessOf, access?, AccessChange.between] at found ⊢
        simp [found]
      · simp only [AccessChange.between] at ne
        simp [accessOf, access?, Std.ExtTreeMap.getElem?_erase, Ne.symm ne]
  | touch name =>
    simp only [mutate, Option.map_eq_some_iff] at h
    obtain ⟨current, found, rfl⟩ := h
    refine ⟨?_, fun other ne => rfl⟩
    simp [mutate, accessOf, AccessChange.between, found]

theorem name_of_mutate {change : AccessChange}
    (h : (catalog.mutate mutation).2 = some change) :
    change.name = mutation.name := by
  cases mutation with
  | setAccess name latest => exact (congrArg AccessChange.name (Option.some.inj h)).symm
  | forget name =>
    simp only [mutate] at h
    cases found : catalog.access? name with
    | none => simp [found] at h
    | some previous =>
      rw [found] at h
      exact (congrArg AccessChange.name (Option.some.inj h)).symm
  | touch name =>
    obtain ⟨current, -, rfl⟩ := Option.map_eq_some_iff.mp h
    rfl

/-- A mutation changes who may see the namespace that it is about, and no other. -/
theorem access?_mutate_of_ne {other : String} (h : mutation.name ≠ other) :
    (catalog.mutate mutation).1.access? other = catalog.access? other := by
  cases mutation with
  | setAccess name latest =>
    simp only [Mutation.name] at h
    simp [mutate, access?, Std.ExtTreeMap.getElem?_insert, h]
  | forget name =>
    simp only [Mutation.name] at h
    simp only [mutate]
    cases catalog.access? name with
    | none => rfl
    | some previous => simp [access?, Std.ExtTreeMap.getElem?_erase, h]
  | touch name => rfl

theorem mutate_of_none (h : (catalog.mutate mutation).2 = none) :
    (catalog.mutate mutation).1 = catalog := by
  cases mutation with
  | setAccess name latest => cases h
  | forget name =>
    simp only [mutate] at h ⊢
    cases found : catalog.access? name with
    | none => rfl
    | some previous => simp [found] at h
  | touch name => rfl

end Catalog

namespace Host

/-- Who may see what, while the catalog exists. -/
def accesses? : Host → Option (NameMap Access)
  | .real catalog => some catalog.accesses
  | _ => none

theorem accesses?_register (host : Host) (id : WatchId) :
    (host.register id).1.accesses? = host.accesses? := by
  cases host <;> rfl

theorem accesses?_remove (host : Host) (id : WatchId) :
    (host.remove id).1.accesses? = host.accesses? := by
  cases host with
  | real catalog => exact congrArg some (Catalog.accesses_remove catalog id)
  | _ => rfl

/-- The subscriber sees the namespace. -/
def sees (host : Host) (subscriber : Subscriber) (name : String) : Bool :=
  (host.accesses?.bind (·[name]?)).elim false (·.allows subscriber)

theorem sees_real {catalog : Catalog Unit} (subscriber : Subscriber) (name : String) :
    (Host.real catalog).sees subscriber name = (catalog.accessOf name).allows subscriber := by
  simp only [sees, accesses?, Catalog.accessOf, Catalog.access?, Option.bind_some]
  cases catalog.accesses[name]? with
  | none => exact (Access.allows_nobody subscriber).symm
  | some access => rfl

end Host

namespace World

theorem accesses?_unregister (world : World) (id : WatchId) :
    (world.unregister id).1.host.accesses? = world.host.accesses? := by
  rw [unregister, host_checkFeed]
  exact Host.accesses?_remove world.host id

theorem accesses?_carryOut (id : WatchId) (effects : List Effect) (world : World) :
    (carryOut id effects world).1.host.accesses? = world.host.accesses? := by
  induction effects generalizing world with
  | nil => rfl
  | cons effect rest ih =>
    cases effect with
    | note notice => exact ih world
    | leave => exact (ih _).trans (accesses?_unregister world id)

theorem accesses?_act (world : World) (id : WatchId) (action : Watch → Watch × List Effect) :
    (world.act id action).1.host.accesses? = world.host.accesses? := by
  unfold act
  split
  · exact accesses?_carryOut _ _ _
  · rfl

theorem accesses?_subscribe (world : World) (subscriber : Subscriber)
    (includeExisting : Option Bool) (options : WatchOptions) :
    (world.subscribe subscriber includeExisting options).2.1.host.accesses? =
      world.host.accesses? := by
  unfold subscribe
  obtain ⟨names, notices, opened⟩ | ⟨cause, notices, failed⟩ :=
    world.openWatch_cases subscriber includeExisting options
  · rw [opened]
    dsimp only
    rw [dropHandler, host_checkFeed]
    exact Host.accesses?_register world.host world.nextId
  · rw [failed]

/-- Only a mutation of the catalog changes who may see what, or the end of the catalog. -/
theorem accesses?_enact (world : World) (action : Action)
    (mutates : ∀ visiting mutation, action ≠ .perform visiting mutation)
    (keeps : action ≠ .dropHost) :
    (world.enact action).1.host.accesses? = world.host.accesses? := by
  cases action with
  | perform visiting mutation => exact absurd rfl (mutates visiting mutation)
  | dropHost => exact absurd rfl keeps
  | upsert object => rfl
  | removeObject name => rfl
  | setOutage name reason => cases reason <;> rfl
  | openWatch subscriber includeExisting options =>
    simp only [enact]
    obtain ⟨names, notices, opened⟩ | ⟨cause, notices, failed⟩ :=
      world.openWatch_cases subscriber includeExisting options
    · rw [opened]
      rfl
    · rw [failed]
  | subscribe subscriber includeExisting options => exact accesses?_subscribe world _ _ _
  | register other =>
    simp only [enact]
    split
    · exact Host.accesses?_register world.host other
    · rfl
  | unregister other => exact accesses?_unregister world other
  | dropHandler other =>
    simp only [enact, dropHandler, host_checkFeed]
  | handle other change =>
    simp only [enact]
    split
    · exact accesses?_act world other _
    · rfl
  | stop other => exact accesses?_act world other _
  | dropConsumer other =>
    simp only [enact, dropConsumer]
    split
    · exact accesses?_act { world with consumers := world.consumers.erase other } other _
    · rfl
  | poll other => exact accesses?_act { world with line := world.line.erase other } other _
  | take other =>
    simp only [enact, take]
    split
    · split <;> rfl
    · rfl

/-- The change that an action hands out to the registered watches. -/
def handed? (world : World) : Action → Option AccessChange
  | .perform _ mutation => world.change? mutation
  | _ => none

variable {world : World} {action : Action} {change : AccessChange} {subscriber : Subscriber}
  {name : String}

theorem real_of_change? {mutation : Mutation} (h : world.change? mutation = some change) :
    ∃ catalog, world.host = .real catalog ∧ (catalog.mutate mutation).2 = some change := by
  unfold change? at h
  split at h
  · rename_i catalog host
    exact ⟨catalog, host, h⟩
  · cases h

theorem sees_performIn {catalog : Catalog Unit} (host : world.host = .real catalog)
    (arrange : List (WatchId × Unit) → List (WatchId × Unit)) (mutation : Mutation)
    (subscriber : Subscriber) (name : String) :
    (world.performIn arrange mutation).1.host.sees subscriber name =
      ((catalog.mutate mutation).1.accessOf name).allows subscriber := by
  obtain ⟨after, hosted, same⟩ := @host_performIn world arrange catalog host mutation
  rw [hosted, Host.sees_real]
  simp only [Catalog.accessOf, Catalog.access?, same]

/-- Whether a subscriber sees a namespace changes only with a change of that namespace. -/
theorem sees_enact (keeps : action ≠ .dropHost)
    (h : ∀ change, world.handed? action = some change → change.name ≠ name) :
    (world.enact action).1.host.sees subscriber name = world.host.sees subscriber name := by
  obtain ⟨visiting, mutation, rfl⟩ | other := action.perform_or_ne
  · cases host : world.host with
    | real catalog =>
      rw [Host.sees_real]
      apply (sees_performIn host visiting.arrange mutation subscriber name).trans
      cases changed : (catalog.mutate mutation).2 with
      | none => rw [Catalog.mutate_of_none changed]
      | some change =>
        have handed : world.handed? (.perform visiting mutation) = some change := by
          simp only [handed?, change?, host, changed]
        rw [(Catalog.change_of_mutate changed).2 name (h change handed).symm]
    | double standIn =>
      simp only [enact, performIn, host]
    | gone => simp only [enact, performIn, host]
  · have same := accesses?_enact world action other keeps
    simp only [Host.sees, same]

/-- A subscriber reads a change as it changes what the subscriber sees. -/
theorem bearing_of_handed (h : world.handed? action = some change) (subscriber : Subscriber) :
    change.bearing subscriber =
      if (world.enact action).1.host.sees subscriber change.name then .granted
      else if world.host.sees subscriber change.name then .revoked
      else .unaffected := by
  cases action with
  | perform visiting mutation =>
    obtain ⟨catalog, host, changed⟩ := real_of_change? h
    have after := sees_performIn host visiting.arrange mutation subscriber change.name
    rw [enact, after, host, Host.sees_real, ← AccessChange.bearing_between change.name,
      ← (Catalog.change_of_mutate changed).1]
  | _ => cases h

end World
end AccessFeed
