import AccessFeed.Proofs.Action

/-! Whatever an action is, it means one of a few things to a single watch, and what becomes of the
watch, what is told of it and what its consumer gets depends on that alone. -/
namespace AccessFeed

/-- What an action means to one watch. -/
inductive Touch where
  | none
  | handle (lookup : Lookup) (change : AccessChange)
  | poll
  | take
  | stop
  /-- It is registered. -/
  | enter
  /-- It is taken out of the registry. -/
  | leave
  /-- Its creator gives up handing it changes. -/
  | release

namespace World

/-- What an action means to the watch of the given id. -/
def touch (world : World) (id : WatchId) : Action → Touch
  | .perform _ mutation =>
    match world.change? mutation with
    | some change => if world.host.registers id then .handle world.lookup change else .none
    | none => .none
  | .register other =>
    match world.host with
    | .real _ => if world.handlers.contains other && other == id then .enter else .none
    | _ => .none
  | .unregister other => if other = id then .leave else .none
  | .dropHandler other => if other = id then .release else .none
  | .handle other change =>
    if world.handlers.contains other && other == id then .handle world.lookup change else .none
  | .stop other => if other = id then .stop else .none
  | .dropConsumer other => if world.consumers.contains other && other == id then .stop else .none
  | .poll other => if other = id then .poll else .none
  | .take other => if world.consumers.contains other && other == id then .take else .none
  | .dropHost => .leave
  | _ => .none

end World

namespace Glimpse

/-- What becomes of a watch. -/
def after (glimpse : Glimpse) : Touch → Glimpse
  | .none => glimpse
  | .handle lookup change => glimpse.act (·.handle lookup change)
  | .poll => glimpse.act (Watch.poll glimpse.isFed World.turnLimit)
  | .take => { glimpse with watch? := glimpse.watch?.map (·.take.2) }
  | .stop => glimpse.act Watch.stop
  | .enter => { glimpse with isRegistered := true }
  | .leave => glimpse.dismiss
  | .release => { glimpse with isHandled := false }.checkFeed

/-- What the watch itself does then. -/
def effects (glimpse : Glimpse) : Touch → List Effect
  | .handle lookup change => glimpse.watch?.elim [] fun watch => (watch.handle lookup change).2
  | .poll => glimpse.watch?.elim [] fun watch => (watch.poll glimpse.isFed World.turnLimit).2
  | .stop => glimpse.watch?.elim [] fun watch => watch.stop.2
  | _ => []

/-- The event that its consumer gets then. -/
def delivered? (glimpse : Glimpse) : Touch → Option Event
  | .take => glimpse.watch?.bind fun watch => watch.outbox.head?
  | _ => none

/-- Where there is no watch, nothing but an opening makes one. -/
theorem watch?_after_of_absent {glimpse : Glimpse} (h : glimpse.watch? = none) (touch : Touch) :
    (glimpse.after touch).watch? = none := by
  cases touch <;> simp [after, act, dismiss, checkFeed, h]

end Glimpse

namespace World

variable {world : World} {id : WatchId}

theorem glimpse_opening_of_ne (ne : world.nextId ≠ id) (subscriber : Subscriber)
    (includeExisting : Option Bool) (options : WatchOptions) (names : List String) :
    (world.opening subscriber includeExisting options names).glimpse id = world.glimpse id := by
  have handled : (world.handlers.insert world.nextId).contains id = world.handlers.contains id := by
    simp [Std.ExtTreeSet.contains_insert, ne]
  rw [opening, glimpse_put_of_ne ne]
  simp only [glimpse, handled]

theorem glimpse_register_of_ne {other : WatchId} (h : other ≠ id) (world : World) :
    (world.register other).1.glimpse id = world.glimpse id := by
  simp only [register, glimpse, Host.registers_register_of_ne h]

theorem glimpse_register {catalog : Catalog Unit} (host : world.host = .real catalog)
    (id : WatchId) :
    (world.register id).1.glimpse id = { world.glimpse id with isRegistered := true } := by
  simp [register, glimpse, host, Host.register, Host.registers]

theorem glimpse_dropHandler (world : World) (id : WatchId) :
    (world.dropHandler id).glimpse id = { world.glimpse id with isHandled := false }.checkFeed := by
  rw [dropHandler, glimpse_checkFeed]
  congr 1
  simp [glimpse]

theorem glimpse_dropHandler_of_ne {other : WatchId} (h : other ≠ id) (world : World) :
    (world.dropHandler other).glimpse id = world.glimpse id := by
  rw [dropHandler, glimpse_checkFeed_of_ne h]
  simp [glimpse, h]

/-- The watch that an action opens. -/
def opened? (world : World) : Action → Option WatchId
  | .openWatch subscriber includeExisting options =>
    (world.openWatch subscriber includeExisting options).1.toOption
  | .subscribe subscriber includeExisting options =>
    (world.subscribe subscriber includeExisting options).1.toOption
  | _ => none

theorem result_subscribe (world : World) (subscriber : Subscriber)
    (includeExisting : Option Bool) (options : WatchOptions) :
    (world.subscribe subscriber includeExisting options).1 =
      (world.openWatch subscriber includeExisting options).1 := by
  unfold subscribe
  obtain ⟨names, notices, opened⟩ | ⟨cause, notices, failed⟩ :=
    world.openWatch_cases subscriber includeExisting options
  · rw [opened]
  · rw [failed]

theorem glimpse_subscribe {subscriber : Subscriber} {includeExisting : Option Bool}
    {options : WatchOptions}
    (h : (world.subscribe subscriber includeExisting options).1.toOption ≠ some id) :
    (world.subscribe subscriber includeExisting options).2.1.glimpse id = world.glimpse id := by
  rw [result_subscribe] at h
  unfold subscribe
  obtain ⟨names, notices, opened⟩ | ⟨cause, notices, failed⟩ :=
    world.openWatch_cases subscriber includeExisting options
  · rw [opened] at h ⊢
    have ne : world.nextId ≠ id := by simpa [Except.toOption] using h
    dsimp only
    rw [glimpse_dropHandler_of_ne ne, glimpse_register_of_ne ne, glimpse_opening_of_ne ne]
  · rw [failed]

theorem glimpse_foldl_checkFeed (ids : List WatchId) (world : World) (id : WatchId) :
    (ids.foldl checkFeed world).glimpse id =
      if id ∈ ids then (world.glimpse id).checkFeed else world.glimpse id := by
  induction ids generalizing world with
  | nil => rfl
  | cons other rest ih =>
    rw [List.foldl_cons, ih]
    by_cases same : other = id
    · subst same
      simp [glimpse_checkFeed, Glimpse.checkFeed_checkFeed]
    · simp [glimpse_checkFeed_of_ne same, Ne.symm same]

theorem glimpse_dropHost (world : World) (id : WatchId) :
    world.dropHost.glimpse id = (world.glimpse id).dismiss := by
  have gone : ({ world with host := .gone } : World).glimpse id =
      { world.glimpse id with isRegistered := false } := rfl
  rw [dropHost, glimpse_foldl_checkFeed, gone]
  split
  · rfl
  · rename_i absent
    rw [Std.ExtTreeMap.mem_keys] at absent
    have missing : (world.glimpse id).watch? = none :=
      Std.ExtTreeMap.getElem?_eq_none absent
    simp [Glimpse.dismiss, Glimpse.checkFeed, missing]

theorem glimpse_take (world : World) (id : WatchId) :
    (world.take id).2.glimpse id =
      { world.glimpse id with watch? := (world.glimpse id).watch?.map (·.take.2) } := by
  unfold take
  cases found : world.watches[id]? with
  | none =>
    have same : (world.glimpse id).watch? = none := found
    simp only [same, Option.map_none]
    rw [← same]
  | some watch =>
    have same : (world.glimpse id).watch? = some watch := found
    simp [same, glimpse_put, Glimpse.put]

theorem glimpse_take_of_ne {other : WatchId} (h : other ≠ id) (world : World) :
    (world.take other).2.glimpse id = world.glimpse id := by
  unfold take
  split
  · exact glimpse_put_of_ne h world _
  · rfl

/-- An operation that is aimed at one watch and does nothing where it is not possible. -/
theorem glimpse_guarded {other : WatchId} {touch : Touch} {result : World × List Notice}
    (possible : Bool) (self : other = id → result.1.glimpse id = (world.glimpse id).after touch)
    (frame : other ≠ id → result.1.glimpse id = world.glimpse id) :
    (if possible = true then result else (world, [])).1.glimpse id =
      (world.glimpse id).after (if possible && other == id then touch else .none) := by
  cases possible with
  | false => rfl
  | true =>
    by_cases same : other = id
    · rw [if_pos rfl, if_pos (by simp [same])]
      exact self same
    · rw [if_pos rfl, if_neg (by simp [same])]
      exact frame same

theorem glimpse_aimed {other : WatchId} {touch : Touch} {next : World}
    (self : other = id → next.glimpse id = (world.glimpse id).after touch)
    (frame : other ≠ id → next.glimpse id = world.glimpse id) :
    next.glimpse id = (world.glimpse id).after (if other = id then touch else .none) := by
  split
  · exact self ‹_›
  · exact frame ‹_›

/-- What becomes of a watch that is not just being opened depends only on what the action means to
it. -/
theorem glimpse_enact_of_ne {action : Action} (h : world.opened? action ≠ some id) :
    (world.enact action).1.glimpse id = (world.glimpse id).after (world.touch id action) := by
  cases action with
  | upsert object => rfl
  | removeObject name => rfl
  | setOutage name reason => cases reason <;> rfl
  | perform visiting mutation =>
    have visited := glimpse_performIn visiting.perm world mutation id
    simp only [enact, touch]
    rw [visited]
    cases world.change? mutation with
    | none => rfl
    | some change =>
      dsimp only
      split <;> rfl
  | openWatch subscriber includeExisting options =>
    simp only [enact, touch]
    obtain ⟨names, notices, opened⟩ | ⟨cause, notices, failed⟩ :=
      world.openWatch_cases subscriber includeExisting options
    · have ne : world.nextId ≠ id := by simpa [opened?, opened, Except.toOption] using h
      rw [opened]
      exact glimpse_opening_of_ne ne _ _ _ _
    · rw [failed]
      rfl
  | subscribe subscriber includeExisting options => exact glimpse_subscribe h
  | register other =>
    simp only [enact, touch]
    cases host : world.host with
    | real catalog =>
      refine glimpse_guarded _ ?_ fun ne => glimpse_register_of_ne ne world
      rintro rfl
      exact glimpse_register host other
    | _ =>
      split
      · simp [register, glimpse, host, Host.register, Host.registers, Glimpse.after]
      · rfl
  | unregister other =>
    refine glimpse_aimed ?_ fun ne => glimpse_unregister_of_ne ne world
    rintro rfl
    exact glimpse_unregister world other
  | dropHandler other =>
    refine glimpse_aimed ?_ fun ne => glimpse_dropHandler_of_ne ne world
    rintro rfl
    exact glimpse_dropHandler world other
  | handle other change =>
    refine glimpse_guarded _ ?_ fun ne => glimpse_act_of_ne ne world _
    rintro rfl
    exact glimpse_act world other _
  | stop other =>
    refine glimpse_aimed ?_ fun ne => glimpse_act_of_ne ne world _
    rintro rfl
    exact glimpse_act world other _
  | dropConsumer other =>
    let left : World := { world with consumers := world.consumers.erase other }
    refine glimpse_guarded _ ?_ fun ne => glimpse_act_of_ne ne left _
    rintro rfl
    exact glimpse_act left other _
  | poll other =>
    let next : World := { world with line := world.line.erase other }
    refine glimpse_aimed ?_ fun ne => glimpse_act_of_ne ne next _
    rintro rfl
    exact glimpse_act next other _
  | take other =>
    refine @glimpse_guarded world id other .take ((world.take other).2, []) _ ?_ fun ne =>
      glimpse_take_of_ne ne world
    rintro rfl
    exact glimpse_take world other
  | dropHost => exact glimpse_dropHost world id

/-- A new watch gets the next number. -/
theorem eq_nextId_of_opened? {action : Action} (h : world.opened? action = some id) :
    id = world.nextId := by
  cases action with
  | openWatch subscriber includeExisting options => exact (openWatch_of_opened h).1
  | subscribe subscriber includeExisting options =>
    rw [opened?, result_subscribe] at h
    exact (openWatch_of_opened h).1
  | _ => cases h

theorem glimpse_enact (h : id < world.nextId) (action : Action) :
    (world.enact action).1.glimpse id = (world.glimpse id).after (world.touch id action) := by
  refine glimpse_enact_of_ne fun opened => ?_
  exact absurd (eq_nextId_of_opened? opened) (Nat.ne_of_lt h)

theorem about_openWatch (world : World) (id : WatchId) (subscriber : Subscriber)
    (includeExisting : Option Bool) (options : WatchOptions) :
    Notice.about id (world.openWatch subscriber includeExisting options).2.2 = [] := by
  refine Notice.about_eq_nil_of_none ?_ id
  have warned : ∀ notice ∈ options.warnings, notice.watch? = none := by
    unfold WatchOptions.warnings
    split
    · split <;> simp [Notice.watch?]
    · simp
  have resolved (listing : List (String × Answer)) :
      ∀ notice ∈ (snapshot subscriber.name listing).2, notice.watch? = none := by
    induction listing with
    | nil => simp [snapshot]
    | cons entry rest ih =>
      obtain ⟨name, answer⟩ := entry
      cases answer with
      | ok object => simpa [snapshot, Notice.watch?] using ih
      | error cause => simpa [snapshot, Notice.watch?] using ih
  simp only [openWatch, ofListing_answers]
  split
  · simp
  · exact warned
  · exact warned
  · intro notice member
    simp only [List.mem_append, List.mem_singleton] at member
    obtain member | member | rfl := member
    · exact warned notice member
    · unfold replay at member
      split at member
      · exact resolved _ notice member
      · cases member
    · rfl

theorem about_register (world : World) (other id : WatchId) :
    Notice.about id (world.register other).2 = [] := by
  unfold register
  cases world.host <;> rfl

theorem about_subscribe (world : World) (id : WatchId) (subscriber : Subscriber)
    (includeExisting : Option Bool) (options : WatchOptions) :
    Notice.about id (world.subscribe subscriber includeExisting options).2.2 = [] := by
  have silent := about_openWatch world id subscriber includeExisting options
  unfold subscribe
  split
  · rename_i opened
    rw [opened] at silent
    simp only [Notice.about_append, about_register, List.append_nil]
    exact silent
  · exact silent

theorem isOwn_effects (h : world.Coherent) {other : WatchId} {watch : Watch}
    (found : world.watches[other]? = some watch) (touch : Touch) :
    ∀ notice ∈ Effect.notices ((world.glimpse other).effects touch), notice.isOwn other := by
  have present : (world.glimpse other).watch? = some watch := found
  have own (fed : Bool) (move : Move) (notice : Notice)
      (member : notice ∈ ((⟨watch, fed, false, [], []⟩ : Course).make move).notices) :
      notice.isOwn other := by
    rw [← h.id_eq other watch found]
    exact Course.isOwn_of_mem_make rfl member
  intro notice member
  cases touch <;> simp only [Glimpse.effects, present, Option.elim] at member
  case handle lookup change => exact own true (.handle lookup change) notice member
  case poll => exact own _ (.poll turnLimit) notice member
  case stop => exact own true .stop notice member
  all_goals cases member

theorem effects_of_absent {glimpse : Glimpse} (h : glimpse.watch? = none) (touch : Touch) :
    glimpse.effects touch = [] := by
  cases touch <;> simp [Glimpse.effects, h]

theorem about_acting (h : world.Coherent) {acting : World} (watches : acting.watches = world.watches)
    {other : WatchId} {touch : Touch} {action : Watch → Watch × List Effect}
    (same : ∀ watch, world.watches[other]? = some watch →
      (action watch).2 = (world.glimpse other).effects touch) (id : WatchId) :
    Notice.about id (acting.act other action).2 =
      Notice.about id (Effect.notices
        ((world.glimpse id).effects (if other = id then touch else .none))) := by
  split
  · rename_i eq
    subst eq
    cases found : world.watches[other]? with
    | none =>
      have absent : (world.glimpse other).watch? = none := found
      rw [effects_of_absent absent, act, watches, found]
      rfl
    | some watch => rw [about_act (watches ▸ found), same watch found]
  · rename_i ne
    apply about_act_of_ne ne
    intro watch found
    rw [watches] at found
    rw [same watch found]
    exact isOwn_effects h found touch

theorem about_guarded {other : WatchId} {touch : Touch} {result : World × List Notice}
    (possible : Bool)
    (told : Notice.about id result.2 = Notice.about id (Effect.notices
      ((world.glimpse id).effects (if other = id then touch else .none)))) :
    Notice.about id (if possible = true then result else (world, [])).2 =
      Notice.about id (Effect.notices
        ((world.glimpse id).effects (if possible && other == id then touch else .none))) := by
  cases possible with
  | false => rfl
  | true =>
    simp only [if_true, Bool.true_and, beq_iff_eq]
    exact told

/-- What an action tells of a watch is what the watch itself tells then. -/
theorem about_enact (h : world.Coherent) (action : Action) (id : WatchId) :
    Notice.about id (world.enact action).2 =
      Notice.about id (Effect.notices ((world.glimpse id).effects (world.touch id action))) := by
  have acted (watch : Watch) (other : WatchId) (found : world.watches[other]? = some watch) :
      (world.glimpse other).watch? = some watch := found
  cases action with
  | upsert object => rfl
  | removeObject name => rfl
  | setOutage name reason => rfl
  | perform visiting mutation =>
    have told := about_performIn visiting.perm h.id_eq mutation id
    simp only [enact, touch]
    rw [told]
    cases world.change? mutation with
    | none => rfl
    | some change =>
      dsimp only
      split
      · unfold response Glimpse.effects glimpse
        cases world.watches[id]? <;> rfl
      · rfl
  | openWatch subscriber includeExisting options => exact about_openWatch world id _ _ _
  | subscribe subscriber includeExisting options => exact about_subscribe world id _ _ _
  | register other =>
    have told : Notice.about id (world.enact (.register other)).2 = [] := by
      simp only [enact]
      split
      · exact about_register world other id
      · rfl
    rw [told]
    simp only [touch]
    cases world.host with
    | real catalog =>
      dsimp only
      split <;> rfl
    | _ => rfl
  | unregister other =>
    apply (about_unregister world other id).trans
    simp only [touch]
    split <;> rfl
  | dropHandler other =>
    simp only [touch]
    split <;> rfl
  | handle other change =>
    have told := @about_acting world h world rfl other (.handle world.lookup change)
      (·.handle world.lookup change)
      (fun watch found => by rw [Glimpse.effects, acted watch other found]; rfl) id
    exact about_guarded _ told
  | stop other =>
    exact @about_acting world h world rfl other .stop Watch.stop
      (fun watch found => by rw [Glimpse.effects, acted watch other found]; rfl) id
  | dropConsumer other =>
    have told := @about_acting world h
      { world with consumers := world.consumers.erase other } rfl other .stop Watch.stop
      (fun watch found => by rw [Glimpse.effects, acted watch other found]; rfl) id
    exact about_guarded _ told
  | poll other =>
    exact @about_acting world h { world with line := world.line.erase other } rfl other .poll
      (Watch.poll (world.feeds other) turnLimit)
      (fun watch found => by rw [Glimpse.effects, acted watch other found]; rfl) id
  | take other =>
    simp only [enact, touch]
    split <;> split <;> rfl
  | dropHost => rfl

theorem take_eq (world : World) (id : WatchId) :
    ∀ event, (world.take id).1 = .event event ↔
      ((world.glimpse id).watch?.bind fun watch => watch.outbox.head?) = some event := by
  intro event
  unfold take glimpse
  cases world.watches[id]? with
  | none => simp
  | some watch =>
    simp only [Option.bind_some, Watch.take]
    cases watch.outbox with
    | nil =>
      simp only [List.head?_nil]
      split <;> simp
    | cons first rest => simp

theorem delivery?_enact (world : World) (action : Action) (id : WatchId) (event : Event) :
    world.delivery? action = some (id, event) ↔
      (world.glimpse id).delivered? (world.touch id action) = some event := by
  cases action with
  | take other =>
    by_cases read : world.consumers.contains other = true
    · by_cases same : other = id
      · subst same
        simp only [delivery?, touch, read, if_true, Bool.true_and, beq_self_eq_true,
          Glimpse.delivered?, ← take_eq]
        cases (world.take other).1 <;> simp
      · have distinct : (other == id) = false := beq_eq_false_iff_ne.mpr same
        simp only [delivery?, touch, read, if_true, Bool.true_and, distinct, Bool.false_eq_true,
          if_false, Glimpse.delivered?]
        cases (world.take other).1 <;> simp [same]
    · simp [delivery?, touch, read, Glimpse.delivered?]
  | _ =>
    simp only [delivery?, touch]
    repeat' split
    all_goals simp [Glimpse.delivered?]

end World
end AccessFeed
