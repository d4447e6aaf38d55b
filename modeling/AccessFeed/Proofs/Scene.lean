import AccessFeed.Proofs.Backdrop
import AccessFeed.Proofs.History.Follow
import AccessFeed.Proofs.Renumbering

/-! One watch as a machine of its own. What becomes of a watch among any others is what this machine
makes of the view that its subscriber has of the actions. -/
namespace AccessFeed

/-- What a subscriber's watch has to do with an action. -/
inductive Sight where
  /-- A mutation of a namespace that the subscriber saw before it or sees after it. -/
  | change (name : String) (isVisible : Bool)
  | deed (deed : Deed)
  deriving DecidableEq

namespace Sight

/-- There is no catalog afterwards. -/
def isEnd : Sight → Bool
  | .deed .dropHost => true
  | _ => false

/-- What names resolve to afterwards. -/
def resolver (before : Resolver) : Sight → Resolver
  | .change .. => before
  | .deed act => before.after act

/-- The consumer does not read any more afterwards. -/
def isClose : Sight → Bool
  | .deed .dropConsumer => true
  | _ => false

end Sight

namespace World

/-- The view of a mutation tells of the namespace, and whether the subscriber sees it afterwards; a
mutation of a namespace that the subscriber sees neither before nor after it is not in view, and
neither is what is done to other watches. -/
def sight? (subscriber : Subscriber) (id : WatchId) (world : World) (action : Action) :
    Option Sight :=
  match action with
  | .perform visiting mutation =>
    let isVisible :=
      (world.enact (.perform visiting mutation)).1.host.sees subscriber mutation.name
    if world.host.sees subscriber mutation.name || isVisible then
      some (.change mutation.name isVisible)
    else none
  | action => (action.deed? (some id)).map .deed

/-- The view of actions one after another. -/
def view (subscriber : Subscriber) (id : WatchId) : World → List Action → List Sight
  | _, [] => []
  | world, action :: actions =>
    (world.sight? subscriber id action).toList ++ view subscriber id (world.enact action).1 actions

end World

/-- What there is of one watch apart from its number, and what else it heeds. -/
@[ext] structure Scene where
  /-- The watch has the number zero. -/
  glimpse : Glimpse
  resolver : Resolver
  hasCatalog : Bool
  /-- The consumer still reads. -/
  isRead : Bool
  told : List Notice
  received : List Event

namespace Scene

/-- A change that makes a namespace visible to nobody but a subscriber, or takes it from them. -/
def plain (subscriber : Subscriber) (name : String) (isVisible : Bool) : AccessChange :=
  let own : Access := ⟨.ofNames [subscriber.name], ∅⟩
  if isVisible then .between name .nobody own else .between name own .nobody

theorem name_plain (subscriber : Subscriber) (name : String) (isVisible : Bool) :
    (plain subscriber name isVisible).name = name := by
  cases isVisible <;> rfl

theorem bearing_plain (subscriber : Subscriber) (name : String) (isVisible : Bool) :
    (plain subscriber name isVisible).bearing subscriber =
      if isVisible then .granted else .revoked := by
  have own : (⟨.ofNames [subscriber.name], ∅⟩ : Access).allows subscriber = true := by
    simp [Access.allows_iff, NameSet.mem_ofNames]
  cases isVisible <;> simp [plain, AccessChange.bearing_between, own]

/-- What the watch is to do. -/
def touch (subscriber : Subscriber) (scene : Scene) : Sight → Touch
  | .change name isVisible =>
    if scene.glimpse.isRegistered then
      .handle scene.resolver.lookup (plain subscriber name isVisible)
    else .none
  | .deed .register => if scene.hasCatalog && scene.glimpse.isHandled then .enter else .none
  | .deed .unregister | .deed .dropHost => .leave
  | .deed .dropHandler => .release
  | .deed (.handle change) =>
    if scene.glimpse.isHandled then .handle scene.resolver.lookup change else .none
  | .deed .stop => .stop
  | .deed .dropConsumer => if scene.isRead then .stop else .none
  | .deed .poll => .poll
  | .deed .take => if scene.isRead then .take else .none
  | .deed (.upsert _) | .deed (.removeObject _) | .deed (.setOutage ..) => .none

/-- What the watch makes of what is in view. -/
def after (subscriber : Subscriber) (scene : Scene) (sight : Sight) : Scene :=
  let touch := scene.touch subscriber sight
  { glimpse := scene.glimpse.after touch
    resolver := sight.resolver scene.resolver
    hasCatalog := scene.hasCatalog && !sight.isEnd
    isRead := scene.isRead && !sight.isClose
    told := scene.told ++ Notice.about 0 (Effect.notices (scene.glimpse.effects touch))
    received := scene.received ++ (scene.glimpse.delivered? touch).toList }

end Scene

/-- Two things that actions can mean to a watch come to the same. -/
structure Glimpse.Agree (glimpse : Glimpse) (touch touch' : Touch) : Prop where
  after_eq : glimpse.after touch = glimpse.after touch'
  effects_eq : glimpse.effects touch = glimpse.effects touch'
  delivered_eq : glimpse.delivered? touch = glimpse.delivered? touch'

namespace Glimpse

variable {glimpse : Glimpse} {lookup : Lookup} {change change' : AccessChange}

theorem Agree.refl (glimpse : Glimpse) (touch : Touch) : glimpse.Agree touch touch :=
  ⟨rfl, rfl, rfl⟩

/-- A watch heeds of a change only the namespace and what it means to its subscriber. -/
theorem agree_handle (name : change.name = change'.name)
    (bearing : ∀ watch, glimpse.watch? = some watch →
      change.bearing watch.subscriber = change'.bearing watch.subscriber) :
    glimpse.Agree (.handle lookup change) (.handle lookup change') := by
  obtain ⟨watch?, isHandled, isRegistered⟩ := glimpse
  cases watch? with
  | none => exact ⟨rfl, rfl, rfl⟩
  | some watch =>
    have same : watch.handle lookup change = watch.handle lookup change' := by
      simp only [Watch.handle, name, bearing watch rfl]
    exact ⟨by simp only [after, act, same], by simp only [effects, Option.elim, same], rfl⟩

theorem agree_none
    (bearing : ∀ watch, glimpse.watch? = some watch →
      change.bearing watch.subscriber = .unaffected) :
    glimpse.Agree (.handle lookup change) .none := by
  obtain ⟨watch?, isHandled, isRegistered⟩ := glimpse
  cases watch? with
  | none => exact ⟨rfl, rfl, rfl⟩
  | some watch =>
    have same : watch.handle lookup change = (watch, []) := by
      simp only [Watch.handle, bearing watch rfl]
    exact ⟨by simp [after, act, same, put], by simp [effects, same], rfl⟩

end Glimpse

namespace Notice

theorem watch?_renumber (id : WatchId) (notice : Notice) :
    (notice.renumber id).watch? = notice.watch?.map fun _ => id := by
  cases notice <;> rfl

theorem about_renumber {id : WatchId} {notices : List Notice}
    (own : ∀ notice ∈ notices, notice.isOwn id) (other : WatchId) :
    about other (notices.map (renumber other)) = (about id notices).map (renumber other) := by
  rw [about, List.filter_map, about]
  congr 1
  apply List.filter_congr
  intro notice member
  rw [Function.comp_apply, watch?_renumber]
  obtain none | mine := own notice member
  · simp [none]
  · simp [mine]

end Notice

namespace World

variable {world : World} {mutation : Mutation} {change : AccessChange}

theorem name_of_change? (h : world.change? mutation = some change) :
    change.name = mutation.name := by
  obtain ⟨catalog, -, changed⟩ := real_of_change? h
  exact Catalog.name_of_mutate changed

/-- A mutation hands out no change only where nobody sees the namespace, before it and after it. -/
theorem sees_of_change? (h : world.change? mutation = none) (visiting : Visiting)
    (subscriber : Subscriber) :
    world.host.sees subscriber mutation.name = false ∧
      (world.enact (.perform visiting mutation)).1.host.sees subscriber mutation.name = false := by
  have same : (world.enact (.perform visiting mutation)).1.host.sees subscriber mutation.name =
      world.host.sees subscriber mutation.name := by
    apply sees_enact (by simp)
    intro change handed
    rw [handed?, h] at handed
    cases handed
  rw [same, and_self]
  unfold change? at h
  cases host : world.host with
  | real catalog =>
    rw [host] at h
    rw [Host.sees_real]
    have unknown : catalog.access? mutation.name = none := by
      cases mutation with
      | setAccess name latest => cases h
      | forget name =>
        cases found : catalog.access? name with
        | none => exact found
        | some previous => simp [Catalog.mutate, found] at h
      | touch name => simpa [Catalog.mutate, Mutation.name] using h
    rw [Catalog.accessOf, unknown]
    exact Access.allows_nobody subscriber
  | _ => rfl

variable {id : WatchId} {subscriber : Subscriber}

theorem sight?_perform (world : World) (visiting : Visiting) (mutation : Mutation) :
    let sees (world : World) := world.host.sees subscriber mutation.name
    let next := (world.enact (.perform visiting mutation)).1
    (world.sight? subscriber id (.perform visiting mutation) = none ∧
        sees world = false ∧ sees next = false) ∨
      world.sight? subscriber id (.perform visiting mutation) =
          some (.change mutation.name (sees next)) ∧
        (sees world = true ∨ sees next = true) := by
  intro sees next
  unfold sight?
  dsimp only
  split
  · rename_i seen
    exact .inr ⟨rfl, by simpa using seen⟩
  · rename_i unseen
    exact .inl ⟨rfl, by simpa using unseen⟩

theorem sight?_eq {action : Action} (h : ∀ visiting mutation, action ≠ .perform visiting mutation)
    (world : World) :
    world.sight? subscriber id action = (action.deed? (some id)).map .deed := by
  cases action with
  | perform visiting mutation => exact absurd rfl (h visiting mutation)
  | _ => rfl

theorem resolver_sight? (world : World) (action : Action) :
    (world.enact action).1.resolver =
      (world.sight? subscriber id action).elim world.resolver (·.resolver world.resolver) := by
  rw [resolver_enact world action (some id)]
  obtain ⟨visiting, mutation, rfl⟩ | other := action.perform_or_ne
  · obtain ⟨unseen, -⟩ | ⟨seen, -⟩ := @sight?_perform id subscriber world visiting mutation
    · rw [unseen]
      rfl
    · rw [seen]
      rfl
  · rw [sight?_eq other]
    cases action.deed? (some id) <;> rfl

theorem isSome_accesses?_enact (world : World) (action : Action) :
    (world.enact action).1.host.accesses?.isSome =
      (world.sight? subscriber id action).elim world.host.accesses?.isSome
        fun sight => world.host.accesses?.isSome && !sight.isEnd := by
  have changed := congrArg Backdrop.accesses? (backdrop_enact world action (some id))
  have same : (world.enact action).1.host.accesses? =
      (world.enact action).1.backdrop.accesses? := rfl
  rw [same, changed]
  obtain ⟨visiting, mutation, rfl⟩ | other := action.perform_or_ne
  · obtain ⟨unseen, -⟩ | ⟨seen, -⟩ := @sight?_perform id subscriber world visiting mutation
    · simp [unseen, Action.kept?, Backdrop.after, backdrop]
    · simp [seen, Action.kept?, Backdrop.after, backdrop, Sight.isEnd]
  · rw [sight?_eq other, Action.kept?_eq other]
    cases action.deed? (some id) with
    | none => rfl
    | some deed =>
      cases deed with
      | dropHost => exact (Bool.and_false _).symm
      | _ => exact (Bool.and_true _).symm

/-- A consumer reads until it drops its watch. -/
theorem consumers_enact (h : id < world.nextId) (action : Action) :
    (world.enact action).1.consumers.contains id =
      (world.sight? subscriber id action).elim (world.consumers.contains id)
        fun sight => world.consumers.contains id && !sight.isClose := by
  have fresh : (world.consumers.insert world.nextId).contains id = world.consumers.contains id := by
    simp [Std.ExtTreeSet.contains_insert, Nat.ne_of_gt h]
  rw [(beside_around world action).consumers_eq]
  cases action with
  | perform visiting mutation =>
    obtain ⟨unseen, -⟩ | ⟨seen, -⟩ := @sight?_perform id subscriber world visiting mutation
    · rw [unseen]
      rfl
    · rw [seen]
      exact (Bool.and_true _).symm
  | dropConsumer other =>
    simp only [around, sight?, Action.deed?]
    by_cases same : id = other
    · subst same
      cases reads : world.consumers.contains id <;> simp [reads, Sight.isClose]
    · split <;> simp [same, Ne.symm same]
  | openWatch | subscribe =>
    simp only [around, sight?, Action.deed?]
    split
    · rename_i opened
      rw [eq_nextId_of_opened? opened]
      exact fresh
    · rfl
  | upsert | removeObject => exact (Bool.and_true _).symm
  | setOutage name reason => cases reason <;> exact (Bool.and_true _).symm
  | _ =>
    simp only [around, opened?, sight?, Action.deed?]
    (try split) <;> simp [Sight.isClose]

end World

namespace History

variable {history : History} {id : WatchId} {course : Course} {subscriber : Subscriber}

def scene (history : History) (id : WatchId) : Scene where
  glimpse := (history.world.glimpse id).renumber 0
  resolver := history.world.resolver
  hasCatalog := history.world.host.accesses?.isSome
  isRead := history.world.consumers.contains id
  told := (Notice.about id history.notices).map (Notice.renumber 0)
  received := history.received id

/-- A mutation comes to the same for a watch as its view of the mutation. -/
theorem agree_perform (own : ∀ watch, history.world.watches[id]? = some watch →
    watch.subscriber = subscriber) (visiting : Visiting) (mutation : Mutation) :
    (history.world.glimpse id).Agree (history.world.touch id (.perform visiting mutation))
      ((history.world.sight? subscriber id (.perform visiting mutation)).elim .none
        ((history.scene id).touch subscriber)) := by
  have registered : (history.scene id).glimpse.isRegistered =
      history.world.host.registers id := rfl
  have lookup : (history.scene id).resolver.lookup = history.world.lookup := rfl
  cases changed : history.world.change? mutation with
  | none =>
    obtain ⟨before, after⟩ := World.sees_of_change? changed visiting subscriber
    obtain ⟨sight, -⟩ | ⟨-, seen⟩ :=
      @World.sight?_perform id subscriber history.world visiting mutation
    · simp only [sight, World.touch, changed]
      exact .refl _ _
    · simp [before, after] at seen
  | some change =>
    have name := World.name_of_change? changed
    have handed : history.world.handed? (.perform visiting mutation) = some change := changed
    have bearing := World.bearing_of_handed handed subscriber
    rw [name] at bearing
    have mine : ∀ watch, (history.world.glimpse id).watch? = some watch →
        change.bearing watch.subscriber = change.bearing subscriber :=
      fun watch found => by rw [own watch found]
    obtain ⟨sight, before, after⟩ | ⟨sight, seen⟩ :=
      @World.sight?_perform id subscriber history.world visiting mutation
    · simp only [sight, World.touch, changed, Option.elim]
      split
      · refine Glimpse.agree_none fun watch found => ?_
        dsimp only at before after
        rw [mine watch found, bearing, before, after]
        rfl
      · exact .refl _ _
    · simp only [sight, World.touch, changed, Option.elim, Scene.touch, registered, lookup]
      split
      · refine Glimpse.agree_handle (name.trans (Scene.name_plain ..).symm) fun watch found => ?_
        rw [mine watch found, own watch found, Scene.bearing_plain, bearing]
        split
        · rfl
        · simp_all
      · exact .refl _ _

/-- An action comes to the same for a watch as what is in its view of the action. -/
theorem agree_touch (own : ∀ watch, history.world.watches[id]? = some watch →
    watch.subscriber = subscriber) (action : Action) :
    (history.world.glimpse id).Agree (history.world.touch id action)
      ((history.world.sight? subscriber id action).elim .none
        ((history.scene id).touch subscriber)) := by
  have aimed {other : WatchId} (deed : Deed) (touch : Touch)
      (same : other = id → touch = (history.scene id).touch subscriber (.deed deed)) :
      (if other = id then touch else .none) =
        ((if some id = some other then some deed else none).map Sight.deed).elim .none
          ((history.scene id).touch subscriber) := by
    by_cases eq : other = id
    · simp [eq, same eq]
    · simp [eq, Ne.symm eq]
  have guarded {other : WatchId} (deed : Deed) (possible : Bool) (touch : Touch)
      (same : other = id →
        (if possible then touch else .none) = (history.scene id).touch subscriber (.deed deed)) :
      (if possible && other == id then touch else .none) =
        ((if some id = some other then some deed else none).map Sight.deed).elim .none
          ((history.scene id).touch subscriber) := by
    rw [← aimed deed _ same]
    cases possible <;> simp
  have refl {touch touch' : Touch} (same : touch = touch') :
      (history.world.glimpse id).Agree touch touch' := same ▸ .refl _ touch
  cases action with
  | perform visiting mutation => exact agree_perform own visiting mutation
  | register other =>
    refine refl ?_
    simp only [World.touch]
    cases host : history.world.host with
    | real catalog =>
      have catalog : (history.scene id).hasCatalog = true := by simp [scene, host, Host.accesses?]
      refine guarded .register _ _ ?_
      rintro rfl
      rw [Scene.touch, catalog, Bool.true_and]
      rfl
    | _ =>
      have none : (history.scene id).hasCatalog = false := by simp [scene, host, Host.accesses?]
      refine (ite_self _).symm.trans (aimed .register .none ?_)
      rintro rfl
      rw [Scene.touch, none]
      rfl
  | unregister other => exact refl (aimed .unregister .leave fun _ => rfl)
  | dropHandler other => exact refl (aimed .dropHandler .release fun _ => rfl)
  | handle other change =>
    refine refl (guarded (.handle change) _ _ ?_)
    rintro rfl
    rfl
  | stop other => exact refl (aimed .stop .stop fun _ => rfl)
  | dropConsumer other =>
    refine refl (guarded .dropConsumer _ _ ?_)
    rintro rfl
    rfl
  | poll other => exact refl (aimed .poll .poll fun _ => rfl)
  | take other =>
    refine refl (guarded .take _ _ ?_)
    rintro rfl
    rfl
  | _ => exact .refl _ _

/-- A watch makes of an action what it makes of its view of the action. -/
theorem scene_next (h : history.Tracks id course) (own : course.watch.subscriber = subscriber)
    (action : Action) :
    (history.next action).scene id =
      (history.world.sight? subscriber id action).elim (history.scene id)
        ((history.scene id).after subscriber) := by
  have mine : ∀ watch, history.world.watches[id]? = some watch → watch.subscriber = subscriber := by
    intro watch found
    rw [h.watch_eq] at found
    exact Option.some.inj found ▸ own
  have agree := agree_touch mine action
  have glimpse : ((history.next action).scene id).glimpse = (history.scene id).glimpse.after
      ((history.world.sight? subscriber id action).elim .none
        ((history.scene id).touch subscriber)) := by
    have became := World.glimpse_enact h.lt_nextId action
    rw [agree.after_eq] at became
    exact (congrArg (Glimpse.renumber 0) became).trans (Glimpse.after_renumber 0 _ _).symm
  have told : ((history.next action).scene id).told = (history.scene id).told ++
      Notice.about 0 (Effect.notices ((history.scene id).glimpse.effects
        ((history.world.sight? subscriber id action).elim .none
          ((history.scene id).touch subscriber)))) := by
    have about := World.about_enact h.coherent action id
    rw [agree.effects_eq] at about
    have own := World.isOwn_effects h.coherent h.watch_eq
      ((history.world.sight? subscriber id action).elim .none ((history.scene id).touch subscriber))
    have zero := Notice.about_renumber own 0
    rw [← Effect.notices_renumber, ← Glimpse.effects_renumber, ← about] at zero
    simp only [scene, next, Notice.about_append, List.map_append]
    exact congrArg _ zero.symm
  have received : ((history.next action).scene id).received = (history.scene id).received ++
      ((history.scene id).glimpse.delivered?
        ((history.world.sight? subscriber id action).elim .none
          ((history.scene id).touch subscriber))).toList := by
    have got := received_next history action id
    rw [agree.delivered_eq, ← Glimpse.delivered?_renumber 0] at got
    exact got
  have resolver : ((history.next action).scene id).resolver = _ :=
    @World.resolver_sight? id subscriber history.world action
  have catalog : ((history.next action).scene id).hasCatalog = _ :=
    @World.isSome_accesses?_enact id subscriber history.world action
  have reads : ((history.next action).scene id).isRead = _ :=
    @World.consumers_enact history.world id subscriber h.lt_nextId action
  cases sight : history.world.sight? subscriber id action with
  | none =>
    rw [sight] at glimpse told received resolver catalog reads
    refine Scene.ext glimpse resolver catalog reads ?_ ?_
    · exact told.trans (List.append_nil _)
    · exact received.trans (List.append_nil _)
  | some sight' =>
    rw [sight] at glimpse told received resolver catalog reads
    exact Scene.ext glimpse resolver catalog reads told received

/-- What becomes of a watch is what it makes of its view. -/
theorem scene_run (h : history.Tracks id course) (own : course.watch.subscriber = subscriber)
    (actions : List Action) :
    (history.run actions).scene id =
      (history.world.view subscriber id actions).foldl (Scene.after subscriber)
        (history.scene id) := by
  induction actions generalizing history course with
  | nil => rfl
  | cons action actions ih =>
    obtain ⟨drops, _, rfl, tracks, -⟩ := h.next action
    rw [run_cons, ih tracks ((Course.subscriber_run _ _).trans own), scene_next h own, World.view,
      List.foldl_append]
    cases history.world.sight? subscriber id action <;> rfl

end History
end AccessFeed
