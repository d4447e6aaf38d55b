import AccessFeed.Proofs.History.Likeness

/-! A watch tells nothing but what its subscriber may know. -/
namespace AccessFeed
namespace History

variable {world world' opened opened' : World} {subscriber : Subscriber}
  {includeExisting : Option Bool} {options : WatchOptions} {id id' : WatchId}
  {told told' : List Notice} {catalog catalog' : Catalog Unit}

/-- Two subscriptions of the same subscriber come to the same as long as what the subscriber sees,
and what names resolve to, is the same at first and changes in the same way. Whatever else
differs, such as who else may see what, which namespaces the subscriber never sees, or the other
watches, makes no difference. -/
theorem alike_of_view_eq (reachable : world.Reachable) (reachable' : world'.Reachable)
    (host : world.host = .real catalog) (host' : world'.host = .real catalog')
    (hopen : world.subscribe subscriber includeExisting options = (.ok id, opened, told))
    (hopen' : world'.subscribe subscriber includeExisting options = (.ok id', opened', told'))
    (visible : catalog.visible subscriber = catalog'.visible subscriber)
    (directory : world.directory = world'.directory) (outages : world.outages = world'.outages)
    {later later' : List Action}
    (view : opened.view subscriber id later = opened'.view subscriber id' later') :
    world.initialEvents includeExisting options (catalog.visible subscriber) =
        world'.initialEvents includeExisting options (catalog'.visible subscriber) ∧
      ((start opened).run later).Alike id ((start opened').run later') id' := by
  have resolver : world.resolver = world'.resolver := by
    rw [World.resolver, World.resolver, directory, outages]
  have lookup : world.lookup = world'.lookup := by
    rw [← World.lookup_resolver, resolver, World.lookup_resolver]
  have follows := follows_start reachable.coherent host hopen
  have follows' := follows_start reachable'.coherent host' hopen'
  obtain ⟨course, tracks⟩ := follows.tracks.run later
  obtain ⟨course', tracks'⟩ := follows'.tracks.run later'
  refine ⟨?_, alike_of_scene_eq tracks tracks' ?_⟩
  · rw [World.initialEvents, World.initialEvents, visible, lookup]
  · have scene := scene_run follows.tracks rfl later
    have scene' := scene_run follows'.tracks rfl later'
    have first := @scene_subscribed (start opened) _ _ _ _ _ _ _ host hopen rfl rfl
    have first' := @scene_subscribed (start opened') _ _ _ _ _ _ _ host' hopen' rfl rfl
    rw [first] at scene
    rw [first'] at scene'
    rw [scene, scene', ← resolver, ← visible]
    exact congrArg (List.foldl _ _) view

theorem alike_of_view_eq_hidden :
    let inOrder : Visiting := ⟨fun visits => visits, fun _ => .refl _⟩
    let set (name : String) (users groups : List String) : Action :=
      .perform inOrder (.setAccess name ⟨.ofNames users, .ofNames groups⟩)
    let user : Subscriber := ⟨"u", ["g"]⟩
    let options : WatchOptions := ⟨4, 1, true⟩
    let world := (origin.run [.upsert (.active "a"), .upsert (.active "b"),
      set "a" ["u"] []]).world
    let world' := (origin.run [.upsert (.active "a"), .upsert (.active "b"),
      .subscribe ⟨"v", []⟩ none options, set "hidden" ["v"] ["h"], set "a" ["v"] ["g"]]).world
    let opened := (world.subscribe user none options).2.1
    let opened' := (world'.subscribe user none options).2.1
    let later : List Action := [.poll 1, set "b" ["u"] [], .take 1, set "b" [] [], .poll 1,
      .take 1]
    let later' : List Action := [set "hidden" ["v", "w"] [], .poll 2, set "b" ["v"] ["g", "h"],
      .poll 1, .take 2, .perform inOrder (.forget "b"), .perform inOrder (.forget "hidden"),
      .poll 2, .take 2]
    (world.subscribe user none options).1 = .ok 1 ∧
      (world'.subscribe user none options).1 = .ok 2 ∧
      opened.view user 1 later = opened'.view user 2 later' ∧
      (((start opened).run later).received 1).map (·.kind) = [.added, .added] ∧
      ((start opened').run later').received 2 = ((start opened).run later).received 1 := by
  intro inOrder set user options world world' opened opened' later later'
  have reachable : world.Reachable := ⟨_, rfl⟩
  have reachable' : world'.Reachable := ⟨_, rfl⟩
  have host : world.host = .real _ := rfl
  obtain ⟨catalog', host'⟩ : ∃ catalog', world'.host = .real catalog' := by
    have registered : world'.host.registers 1 = true := by decide +kernel
    cases host : world'.host with
    | real catalog' => exact ⟨catalog', rfl⟩
    | _ =>
      rw [host] at registered
      cases registered
  have first : (world.subscribe user none options).1 = .ok 1 := by decide +kernel
  have hopen : world.subscribe user none options =
      (.ok 1, opened, (world.subscribe user none options).2.2) := by rw [← first]
  have second : (world'.subscribe user none options).1 = .ok 2 := by decide +kernel
  have hopen' : world'.subscribe user none options =
      (.ok 2, opened', (world'.subscribe user none options).2.2) := by rw [← second]
  have view : opened.view user 1 later = opened'.view user 2 later' := by decide +kernel
  have listed : world.host.list user = .ok ["a"] := by decide +kernel
  have listed' : world'.host.list user = .ok ["a"] := by decide +kernel
  rw [host] at listed
  rw [host'] at listed'
  obtain ⟨-, alike⟩ := alike_of_view_eq reachable reachable' host host' hopen hopen'
    (Except.ok.inj (listed.trans listed'.symm)) (by decide +kernel) (by decide +kernel) view
  exact ⟨first, second, view, by decide +kernel, alike.received⟩

end History
end AccessFeed
