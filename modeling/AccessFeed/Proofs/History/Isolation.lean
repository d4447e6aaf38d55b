import AccessFeed.Proofs.Dispatch.Order
import AccessFeed.Proofs.History.Likeness
import AccessFeed.Proofs.Monitor

/-! Watches do not get in each other's way. -/
namespace AccessFeed

namespace Backdrop

/-- The subscriber sees the namespace. -/
def sees (backdrop : Backdrop) (subscriber : Subscriber) (name : String) : Bool :=
  (backdrop.accesses?.bind (·[name]?)).elim false (·.allows subscriber)

/-- The namespaces that a subscriber sees, in the order of their names. -/
def visible (backdrop : Backdrop) (subscriber : Subscriber) : List String :=
  backdrop.accesses?.elim [] fun accesses => (⟨accesses, ∅⟩ : Catalog Unit).visible subscriber

/-- The view of what can matter to a watch, as its subscriber has it. -/
def sight? (subscriber : Subscriber) (backdrop : Backdrop) : Mutation ⊕ Deed → Option Sight
  | .inl mutation =>
    let isVisible := (backdrop.after (.inl mutation)).sees subscriber mutation.name
    if backdrop.sees subscriber mutation.name || isVisible then
      some (.change mutation.name isVisible)
    else none
  | .inr deed => some (.deed deed)

def view (subscriber : Subscriber) : Backdrop → List (Mutation ⊕ Deed) → List Sight
  | _, [] => []
  | backdrop, kept :: rest =>
    (backdrop.sight? subscriber kept).toList ++ view subscriber (backdrop.after kept) rest

/-- A watch with possible options starts with what its subscriber sees. -/
def start? (backdrop : Backdrop) (subscriber : Subscriber) (includeExisting : Option Bool)
    (options : WatchOptions) (isRegistered : Bool) : Option (Subscriber × Scene) :=
  match options.check with
  | .ok () => some (subscriber, .opened backdrop.resolver subscriber includeExisting options
      (backdrop.visible subscriber) isRegistered)
  | .error _ => none

/-- The subscriber of the watch that an action opens, and the scene of the watch. -/
def opens? (backdrop : Backdrop) : Action → Option (Subscriber × Scene)
  | .openWatch subscriber includeExisting options =>
    backdrop.start? subscriber includeExisting options false
  | .subscribe subscriber includeExisting options =>
    backdrop.start? subscriber includeExisting options true
  | _ => none

end Backdrop

namespace World

variable {world : World} {catalog : Catalog Unit} {build : Action} {id : WatchId}

theorem sight?_backdrop (world : World) (subscriber : Subscriber) (id : WatchId)
    (action : Action) :
    world.sight? subscriber id action =
      (action.kept? (some id)).bind (world.backdrop.sight? subscriber) := by
  obtain ⟨visiting, mutation, rfl⟩ | other := action.perform_or_ne
  · have after : (world.enact (.perform visiting mutation)).1.backdrop =
        world.backdrop.after (.inl mutation) := backdrop_enact world _ (some id)
    have sees : (world.enact (.perform visiting mutation)).1.host.sees subscriber mutation.name =
        (world.backdrop.after (.inl mutation)).sees subscriber mutation.name := by
      rw [← after]
      rfl
    simp only [sight?, sees]
    rfl
  · rw [sight?_eq other, Action.kept?_eq other]
    cases action.deed? (some id) <;> rfl

/-- The view of actions is up to what watches stand before, and to what the actions are to the
watch. -/
theorem view_backdrop (world : World) (subscriber : Subscriber) (id : WatchId)
    (actions : List Action) :
    world.view subscriber id actions =
      world.backdrop.view subscriber (actions.filterMap (Action.kept? (some id))) := by
  induction actions generalizing world with
  | nil => rfl
  | cons action rest ih =>
    rw [view, ih, sight?_backdrop, backdrop_enact world action (some id)]
    cases kept : action.kept? (some id) with
    | none =>
      rw [List.filterMap_cons_none kept]
      rfl
    | some what =>
      rw [List.filterMap_cons_some kept]
      rfl

/-- With a catalog, and where relays can be run, whether an opening succeeds is up to the
options. -/
theorem opened?_backdrop (host : world.host = .real catalog) (runs : world.runtimeFault = none)
    (build : Action) :
    world.opened? build = (world.backdrop.opens? build).map fun _ => world.nextId := by
  have answer (subscriber : Subscriber) (includeExisting : Option Bool) (options : WatchOptions)
      (isRegistered : Bool) :
      (world.openWatch subscriber includeExisting options).1.toOption =
        (world.backdrop.start? subscriber includeExisting options isRegistered).map
          fun _ => world.nextId := by
    unfold openWatch Backdrop.start?
    rw [host, runs]
    cases options.check <;> rfl
  cases build with
  | openWatch subscriber includeExisting options => exact answer _ _ _ _
  | subscribe subscriber includeExisting options =>
    rw [opened?, result_subscribe]
    exact answer _ _ _ _
  | _ => rfl

/-- Whether there is a catalog shows in what watches stand before. -/
theorem real_of_backdrop_eq {other : World} (host : world.host = .real catalog)
    (same : world.backdrop = other.backdrop) : ∃ catalog', other.host = .real catalog' := by
  have accesses := congrArg Backdrop.accesses? same
  simp only [backdrop, host] at accesses
  cases host' : other.host with
  | real catalog' => exact ⟨catalog', rfl⟩
  | _ =>
    rw [host'] at accesses
    cases accesses

/-- Opening a watch changes nothing of what watches stand before. -/
theorem backdrop_opened (opened : world.opened? build = some id) :
    (world.enact build).1.backdrop = world.backdrop := by
  have unkept : build.kept? none = none := by
    cases build with
    | openWatch | subscribe => rfl
    | _ => cases opened
  rw [backdrop_enact world build none, unkept]
  rfl

end World

namespace History

variable {history : History} {catalog : Catalog Unit} {build : Action} {id : WatchId}

/-- What watches stand before after a run is up to what the run has in common with any other. -/
theorem backdrop_run (history : History) (id? : Option WatchId) (actions : List Action) :
    (history.run actions).world.backdrop =
      (actions.filterMap (Action.kept? id?)).foldl Backdrop.after history.world.backdrop := by
  induction actions generalizing history with
  | nil => rfl
  | cons action rest ih =>
    have after : (history.next action).world.backdrop = _ :=
      World.backdrop_enact history.world action id?
    rw [run_cons, ih, after]
    cases kept : action.kept? id? with
    | none => rw [List.filterMap_cons_none kept, Option.elim_none]
    | some what => rw [List.filterMap_cons_some kept, List.foldl_cons, Option.elim_some]

theorem runtimeFault_origin (actions : List Action) :
    (origin.run actions).world.runtimeFault = none := by
  induction actions using List.reverseRecOn with
  | nil => rfl
  | append_singleton actions action ih =>
    rw [run_append]
    exact (World.runtimeFault_enact _ action).trans ih

/-- A watch begins with a course and a scene that only what watches stand before decides. -/
theorem Unopened.scene_opened (h : history.Unopened id) (coherent : history.world.Coherent)
    (host : history.world.host = .real catalog) (opened : history.world.opened? build = some id) :
    ∃ course, (history.next build).Tracks id course ∧
      history.world.backdrop.opens? build =
        some (course.watch.subscriber, (history.next build).scene id) := by
  obtain ⟨silent, nothing⟩ := h.told coherent build
  obtain rfl := World.eq_nextId_of_opened? opened
  have visible (subscriber : Subscriber) :
      history.world.backdrop.visible subscriber = catalog.visible subscriber := by
    simp only [Backdrop.visible, World.backdrop, host]
    rfl
  have fresh : history.world.host.registers history.world.nextId = false :=
    congrArg Glimpse.isRegistered h.glimpse_eq
  cases build with
  | openWatch subscriber includeExisting options =>
    obtain ⟨told, hopen⟩ : ∃ told, history.world.openWatch subscriber includeExisting options =
        (.ok history.world.nextId,
          (history.next (.openWatch subscriber includeExisting options)).world, told) := by
      obtain ⟨-, names, told, success⟩ := World.openWatch_of_opened opened
      rw [History.next, World.enact, success]
      exact ⟨_, rfl⟩
    have possible := (World.openWatch_eq_ok host hopen).1
    have glimpse := World.glimpse_openWatch host fresh hopen
    refine ⟨.start (history.world.subscription catalog subscriber includeExisting options),
      h.tracks coherent ?_ rfl rfl, ?_⟩
    · rw [glimpse]
      exact ⟨rfl, rfl⟩
    · simp only [Backdrop.opens?, Backdrop.start?, possible, visible,
        scene_openWatch host fresh hopen silent nothing]
      rfl
  | subscribe subscriber includeExisting options =>
    obtain ⟨told, hopen⟩ : ∃ told, history.world.subscribe subscriber includeExisting options =
        (.ok history.world.nextId,
          (history.next (.subscribe subscriber includeExisting options)).world, told) := by
      rw [World.opened?, World.result_subscribe] at opened
      obtain ⟨-, names, told, success⟩ := World.openWatch_of_opened opened
      rw [History.next, World.enact, World.subscribe, success]
      exact ⟨_, rfl⟩
    have possible := (World.subscribe_eq_ok host hopen).1
    have glimpse := World.glimpse_subscribed host hopen
    refine ⟨.start (history.world.subscription catalog subscriber includeExisting options),
      h.tracks coherent ?_ rfl rfl, ?_⟩
    · rw [glimpse]
      exact ⟨rfl, rfl⟩
    · simp only [Backdrop.opens?, Backdrop.start?, possible, visible,
        scene_subscribed host hopen silent nothing]
      rfl
  | _ => cases opened

/-- Watches do not get in each other's way. In whatever order a mutation visits the registered
watches, it leaves the same state behind, apart from the order of the relays in line; the same is
told, though not in the same order, and the counters are the same. And when two runs mutate the
catalog and change the directory in the same way, open a watch at the same point, and do the same to
it, then it comes to the same in both, from the snapshot it starts with on, whatever other watches
there are and whatever is done to them. -/
theorem isolated :
    (∀ (world : World) (visiting visiting' : Visiting) (mutation : Mutation),
      let round := world.enact (.perform visiting mutation)
      let round' := world.enact (.perform visiting' mutation)
      (∃ line, line.Perm round.1.line ∧ round'.1 = { round.1 with line }) ∧
        round'.2.Perm round.2 ∧
        ∀ monitor : Monitor,
          (monitor.observeAll round'.2).peak = (monitor.observeAll round.2).peak ∧
            (monitor.observeAll round'.2).metrics = (monitor.observeAll round.2).metrics) ∧
    ∀ {before before' : List Action} {build : Action} {catalog : Catalog Unit} {id : WatchId},
      (origin.run before).world.host = .real catalog →
      before.filterMap (Action.kept? none) = before'.filterMap (Action.kept? none) →
      (origin.run before).world.opened? build = some id →
      ∃ id', (origin.run before').world.opened? build = some id' ∧
        ∀ {after after' : List Action},
          after.filterMap (Action.kept? (some id)) = after'.filterMap (Action.kept? (some id')) →
          (origin.run (before ++ build :: after)).Alike id
            (origin.run (before' ++ build :: after')) id' := by
  constructor
  · intro world visiting visiting' mutation round round'
    have told := World.perm_notices_performIn visiting'.perm visiting.perm world mutation
    exact ⟨⟨_, World.perm_line_performIn visiting'.perm visiting.perm world mutation,
      World.performIn_eq visiting.perm visiting'.perm world mutation⟩, told,
      Monitor.exported_perm told⟩
  · intro before before' build catalog id host same opened
    have backdrop : (origin.run before).world.backdrop = (origin.run before').world.backdrop := by
      rw [backdrop_run origin none, backdrop_run origin none, same]
    obtain ⟨catalog', host'⟩ := World.real_of_backdrop_eq host backdrop
    have opened' : (origin.run before').world.opened? build =
        some (origin.run before').world.nextId := by
      rw [World.opened?_backdrop host (runtimeFault_origin before), backdrop] at opened
      rw [World.opened?_backdrop host' (runtimeFault_origin before')]
      obtain ⟨begun, begins, -⟩ := Option.map_eq_some_iff.mp opened
      rw [begins, Option.map_some]
    refine ⟨_, opened', @fun after after' kept => ?_⟩
    have fresh := unopened_origin (Nat.le_refl (origin.run before).world.nextId)
    have fresh' := unopened_origin (Nat.le_refl (origin.run before').world.nextId)
    obtain rfl := World.eq_nextId_of_opened? opened
    -- both watches begin with the scene that the common backdrop gives
    obtain ⟨course, tracks, begins⟩ := fresh.scene_opened (coherent_origin before) host opened
    obtain ⟨course', tracks', begins'⟩ :=
      fresh'.scene_opened (coherent_origin before') host' opened'
    rw [backdrop, begins'] at begins
    obtain ⟨own, scene⟩ := Prod.mk.inj (Option.some.inj begins)
    -- and make the same of what is to come, since they have the same view of it
    have views : ((origin.run before).next build).world.view course.watch.subscriber
          (origin.run before).world.nextId after =
        ((origin.run before').next build).world.view course.watch.subscriber
          (origin.run before').world.nextId after' := by
      have stays : ((origin.run before).next build).world.backdrop = _ :=
        World.backdrop_opened opened
      have stays' : ((origin.run before').next build).world.backdrop = _ :=
        World.backdrop_opened opened'
      rw [World.view_backdrop, World.view_backdrop, stays, stays', backdrop, kept]
    have scenes := scene_run tracks rfl after
    have scenes' := scene_run tracks' own after'
    rw [views, ← scene, ← scenes'] at scenes
    obtain ⟨_, tracks⟩ := tracks.run after
    obtain ⟨_, tracks'⟩ := tracks'.run after'
    rw [run_append, run_cons, run_append, run_cons]
    exact alike_of_scene_eq tracks tracks' scenes

theorem isolated_stalled :
    let inOrder : Visiting := ⟨fun visits => visits, fun _ => .refl _⟩
    let reversed : Visiting := ⟨List.reverse, List.reverse_perm⟩
    let both : Access := ⟨.ofNames ["u", "v"], ∅⟩
    let before : List Action := [.upsert (.active "a"), .upsert (.active "b"),
      .perform inOrder (.setAccess "a" both)]
    let before' : List Action := [.upsert (.active "a"), .subscribe ⟨"v", []⟩ none ⟨1, 1, true⟩,
      .upsert (.active "b"), .perform reversed (.setAccess "a" both), .poll 1, .take 1]
    let build : Action := .subscribe ⟨"u", []⟩ none ⟨2, 1, true⟩
    let after : List Action := [.perform inOrder (.setAccess "b" both), .poll 1, .take 1,
      .perform inOrder (.forget "a"), .poll 1, .take 1, .stop 1, .poll 1]
    let after' : List Action := [.perform reversed (.setAccess "b" both), .poll 2, .take 2,
      .perform reversed (.forget "a"), .dropConsumer 1, .poll 1, .poll 2, .take 2, .stop 2,
      .subscribe ⟨"u", []⟩ none ⟨2, 1, true⟩, .poll 2]
    let run := origin.run (before ++ build :: after)
    let run' := origin.run (before' ++ build :: after')
    before.filterMap (Action.kept? none) = before'.filterMap (Action.kept? none) ∧
      (origin.run before).world.opened? build = some 1 ∧
      (origin.run before').world.opened? build = some 2 ∧
      after.filterMap (Action.kept? (some 1)) = after'.filterMap (Action.kept? (some 2)) ∧
      (run'.rejected 1).map (·.kind) = [.deleted] ∧
      (run.received 1).map (·.kind) = [.added, .added] ∧ run'.received 2 = run.received 1 := by
  intro inOrder reversed both before before' build after after' run run'
  have host : (origin.run before).world.host = .real _ := rfl
  have same : before.filterMap (Action.kept? none) = before'.filterMap (Action.kept? none) := by
    decide +kernel
  have opened : (origin.run before).world.opened? build = some 1 := by decide +kernel
  have opened' : (origin.run before').world.opened? build = some 2 := by decide +kernel
  have kept : after.filterMap (Action.kept? (some 1)) =
      after'.filterMap (Action.kept? (some 2)) := by decide +kernel
  obtain ⟨id', given, alike⟩ := isolated.2 host same opened
  obtain rfl : 2 = id' := Option.some.inj (opened'.symm.trans given)
  exact ⟨same, opened, opened', kept, by decide +kernel, by decide +kernel, (alike kept).received⟩

end History
end AccessFeed
