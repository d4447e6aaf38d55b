import AccessFeed.Proofs.History.Convergence

/-! A watch that its creator registers some time after opening it.

What it knows comes from the listing at its opening, and changes are handed to it only from its
registration on. What happens in between is lost on it: about each name it is right again with the
first later change of that name that concerns its subscriber, and not before. -/
namespace AccessFeed

namespace Action

/-- The creator of a watch hands it a change. -/
def hands (id : WatchId) : Action → Bool
  | .handle other _ => other == id
  | _ => false

/-- The creator of a watch registers it or gives it up. -/
def places (id : WatchId) : Action → Bool
  | .register other | .dropHandler other => other == id
  | _ => false

end Action

namespace World

variable {world : World} {action : Action} {id : WatchId} {subscriber : Subscriber} {name : String}

/-- An action hands out a change of the namespace that concerns the subscriber. -/
def concerns (world : World) (subscriber : Subscriber) (name : String) (action : Action) : Prop :=
  ∃ change, world.handed? action = some change ∧ change.name = name ∧
    change.bearing subscriber ≠ .unaffected

theorem unaffected_of_not_concerns {change : AccessChange}
    (h : ¬ world.concerns subscriber change.name action)
    (handed : world.handed? action = some change) : change.bearing subscriber = .unaffected :=
  by_contra fun concerned => h ⟨change, handed, rfl, concerned⟩

/-- What a subscriber sees of a namespace changes only with a change that concerns it. -/
theorem sees_enact_of_not_concerns (keeps : action ≠ .dropHost)
    (h : ¬ world.concerns subscriber name action) :
    (world.enact action).1.host.sees subscriber name = world.host.sees subscriber name := by
  by_cases handed : ∃ change, world.handed? action = some change ∧ change.name = name
  · obtain ⟨change, handed, rfl⟩ := handed
    have bearing := bearing_of_handed handed subscriber
    rw [unaffected_of_not_concerns h handed] at bearing
    grind
  · exact sees_enact keeps fun change found same => handed ⟨change, found, same⟩

/-- A catalog stays until it is dropped. -/
theorem exists_real_enact {catalog : Catalog Unit} (host : world.host = .real catalog)
    (keeps : action ≠ .dropHost) : ∃ after, (world.enact action).1.host = .real after := by
  obtain ⟨visiting, mutation, rfl⟩ | other := action.perform_or_ne
  · obtain ⟨after, hosted, -⟩ := @host_performIn world visiting.arrange catalog host mutation
    exact ⟨after, hosted⟩
  · have same := accesses?_enact world action other keeps
    rw [host] at same
    cases hosted : (world.enact action).1.host with
    | real after => exact ⟨after, rfl⟩
    | _ =>
      rw [hosted] at same
      cases same

theorem touch_of_not_places (h : action.places id = false) :
    world.touch id action ≠ .enter ∧ world.touch id action ≠ .release := by
  cases action with
  | register other | dropHandler other =>
    simp only [Action.places, beq_eq_false_iff_ne] at h
    simp only [touch]
    (repeat' split) <;> simp_all
  | _ =>
    simp only [touch]
    (repeat' split) <;> simp

end World

namespace Watch

variable {watch : Watch} {world : World} {action : Action} {change : AccessChange} {name : String}

/-- A change that concerns the subscriber makes the watch right about its namespace. -/
theorem mem_knownAfter_of_concerns (h : world.concerns watch.subscriber name action)
    (found : ∀ change, world.handed? action = some change →
      ∀ cause, .note (.changeSkipped watch.id change.name cause) ∉
        (watch.handle world.lookup change).2) :
    name ∈ watch.knownAfter world action ↔
      (world.enact action).1.host.sees watch.subscriber name = true := by
  obtain ⟨change, handed, rfl, concerned⟩ := h
  have bearing := World.bearing_of_handed handed watch.subscriber
  simp only [knownAfter, handed, mem_known_handle_self fun aside => absurd aside concerned]
  constructor
  · rintro ⟨granted, -⟩
    rw [granted] at bearing
    grind
  · intro sees
    rw [if_pos sees] at bearing
    exact ⟨bearing, .inr (resolved_of_granted bearing (found change handed))⟩

/-- Any other change leaves the watch as right or wrong about a namespace as it was. -/
theorem mem_knownAfter_of_not_concerns (h : ¬ world.concerns watch.subscriber name action) :
    name ∈ watch.knownAfter world action ↔ name ∈ watch.known := by
  unfold knownAfter
  cases handed : world.handed? action with
  | none => rfl
  | some change =>
    by_cases same : change.name = name
    · subst same
      simp [handle, World.unaffected_of_not_concerns h handed]
    · exact mem_known_handle_of_ne (Ne.symm same)

end Watch

namespace History

variable {history since : History} {id : WatchId} {course : Course} {action : Action}
  {later : List Action} {subscriber : Subscriber} {name : String} {seeded : NameSet}

/-- Since then a change of the namespace that concerned the subscriber was handed out. -/
def Renewed (since : History) (subscriber : Subscriber) (name : String) :
    List Action → Prop :=
  Since (fun _ => True) fun past action => (since.run past).world.concerns subscriber name action

theorem renewed_concat :
    since.Renewed subscriber name (later ++ [action]) ↔
      since.Renewed subscriber name later ∨
        (since.run later).world.concerns subscriber name action := by
  simp [Renewed, since_concat]

theorem not_renewed_nil : ¬ since.Renewed subscriber name [] := by
  rintro ⟨past, action, rest, split, -⟩
  simp at split

/-- A watch that was opened and is not registered yet. -/
structure Waits (history : History) (id : WatchId) (seeded : NameSet) (course : Course) :
    Prop where
  runs : history.Runs id course
  isHandled_eq : (history.world.glimpse id).isHandled = true
  unregistered : history.world.host.registers id = false
  host : ∃ catalog, history.world.host = .real catalog
  known_eq : course.watch.known = seeded

/-- What happens before a watch is registered is lost on it. -/
theorem Waits.next (h : history.Waits id seeded course)
    (blame : ∀ moves, (course.run moves).Blame) (departs : ∀ moves, (course.run moves).Departs)
    (kept : action.dismisses id = false) (calm : action.stops id = false)
    (alone : action.hands id = false) (apart : action.places id = false)
    (fits : (history.next action).rejected id = []) :
    ∃ moves, (history.next action).Waits id seeded (course.run moves) := by
  obtain ⟨drops, next, made, tracks, on⟩ := h.runs.tracks.next action
  obtain ⟨active, running, -⟩ := h.runs.active_next made tracks on blame departs calm fits
  have keeps : action ≠ .dropHost := by
    rintro rfl
    cases kept
  obtain ⟨unentered, unreleased⟩ := @World.touch_of_not_places history.world _ _ apart
  have unhandled (lookup : Lookup) (change : AccessChange) :
      history.world.touch id action ≠ .handle lookup change := by
    intro touch
    obtain ⟨registered, -⟩ | ⟨-, rfl⟩ := cases_of_touch_handle touch
    · rw [h.unregistered] at registered
      cases registered
    · simp [Action.hands] at alone
  have glimpse := World.glimpse_enact h.runs.tracks.lt_nextId action
  have handled : ((history.next action).world.glimpse id).isHandled = true := by
    rw [History.next, glimpse, isHandled_after_of_ne unreleased, h.isHandled_eq]
  refine ⟨(history.world.touch id action).moves ++ List.replicate drops Move.drop, ?_⟩
  rw [← made]
  refine ⟨⟨tracks, Bool.or_eq_true_iff.mpr (.inl handled), active, running⟩, handled, ?_, ?_, ?_⟩
  · rw [← Bool.not_eq_true, h.runs.tracks.registers_next action, h.unregistered]
    simp [unentered]
  · obtain ⟨catalog, host⟩ := h.host
    exact World.exists_real_enact host keeps
  · rw [made, Course.run_append, known_drops,
      Course.run_moves_eq (·.watch.known) Course.known_make unhandled, h.known_eq]

/-- A watch that was registered at some time since has known, of each name, what was listed at its
opening or, once a change renewed that, what is visible. -/
structure Catches (since : History) (later : List Action) (id : WatchId) (seeded : NameSet)
    (course : Course) : Prop where
  runs : (since.run later).Runs id course
  registered : (since.run later).world.host.registers id = true
  mem_known_iff : ∀ name, since.Renewed course.watch.subscriber name later →
    (name ∈ course.watch.known ↔
      (since.run later).world.host.sees course.watch.subscriber name = true)
  unrenewed : ∀ name, ¬ since.Renewed course.watch.subscriber name later →
    (name ∈ course.watch.known ↔ name ∈ seeded) ∧
      ((since.run later).world.host.sees course.watch.subscriber name = true ↔
        since.world.host.sees course.watch.subscriber name = true)

theorem Waits.register (h : history.Waits id seeded course)
    (blame : ∀ moves, (course.run moves).Blame) (departs : ∀ moves, (course.run moves).Departs)
    (fits : (history.next (.register id)).rejected id = []) :
    ∃ moves, (history.next (.register id)).Catches [] id seeded (course.run moves) := by
  obtain ⟨catalog, host⟩ := h.host
  have handled : history.world.handlers.contains id = true := h.isHandled_eq
  have enter : history.world.touch id (.register id) = .enter := by
    simp [World.touch, host, handled]
  obtain ⟨drops, next, made, tracks, on⟩ := h.runs.tracks.next (.register id)
  obtain ⟨active, running, stays⟩ := h.runs.active_next made tracks on blame departs rfl fits
  have registered : (history.next (.register id)).world.host.registers id = true :=
    (h.runs.tracks.registers_next _).mpr ⟨.inr enter, rfl, stays⟩
  have known : next.watch.known = seeded := by
    rw [made, enter, ← h.known_eq]
    exact known_drops course drops
  refine ⟨(history.world.touch id (.register id)).moves ++ List.replicate drops Move.drop, ?_⟩
  rw [← made]
  exact ⟨⟨tracks, Bool.or_eq_true_iff.mpr (.inr registered), active, running⟩, registered,
    fun name renewed => absurd renewed not_renewed_nil, fun name _ => ⟨by rw [known], .rfl⟩⟩

/-- Each change that concerns the subscriber makes the watch right about one more name. -/
theorem Catches.next (h : since.Catches later id seeded course)
    (blame : ∀ moves, (course.run moves).Blame) (departs : ∀ moves, (course.run moves).Departs)
    (kept : action.dismisses id = false) (calm : action.stops id = false)
    (alone : action.hands id = false)
    (fits : (since.run (later ++ [action])).rejected id = [])
    (found : (since.run (later ++ [action])).skipped id = []) :
    ∃ moves, since.Catches (later ++ [action]) id seeded (course.run moves) := by
  rw [run_append, run_cons, run_nil] at fits found
  obtain ⟨drops, next, made, tracks, on⟩ := h.runs.tracks.next action
  obtain ⟨active, running, stays⟩ := h.runs.active_next made tracks on blame departs calm fits
  have keeps : action ≠ .dropHost := by
    rintro rfl
    cases kept
  have registered : ((since.run later).next action).world.host.registers id = true :=
    (h.runs.tracks.registers_next action).mpr ⟨.inl h.registered, kept, stays⟩
  have subscriber : next.watch.subscriber = course.watch.subscriber := by
    rw [made, Course.subscriber_run]
  have known : next.watch.known = course.watch.knownAfter (since.run later).world action := by
    refine known_of_touch made h.registered fun silent lookup change touch => ?_
    obtain ⟨-, handed⟩ | ⟨-, rfl⟩ := cases_of_touch_handle touch
    · rw [silent] at handed
      cases handed
    · simp [Action.hands] at alone
  have unskipped (change : AccessChange)
      (handed : (since.run later).world.handed? action = some change) :=
    unskipped_touch tracks on h.runs.tracks (touch_of_handed h.registered handed) found
  refine ⟨(((since.run later).world.touch id action).moves ++ List.replicate drops Move.drop), ?_⟩
  rw [← made]
  -- only a change that concerns the subscriber moves a name from one law to the other
  refine ⟨?_, ?_, fun name renewed => ?_, fun name unrenewed => ?_⟩
  · rw [run_append]
    exact ⟨tracks, Bool.or_eq_true_iff.mpr (.inr registered), active, running⟩
  · rw [run_append]
    exact registered
  · rw [subscriber, known, run_append]
    rw [subscriber, renewed_concat] at renewed
    by_cases concerned : (since.run later).world.concerns course.watch.subscriber name action
    · exact Watch.mem_knownAfter_of_concerns concerned unskipped
    · rw [Watch.mem_knownAfter_of_not_concerns concerned,
        h.mem_known_iff name (renewed.resolve_right concerned), run_cons, run_nil, History.next,
        World.sees_enact_of_not_concerns keeps concerned]
  · rw [subscriber, known, run_append]
    rw [subscriber, renewed_concat, not_or] at unrenewed
    obtain ⟨same, visible⟩ := h.unrenewed name unrenewed.1
    rw [Watch.mem_knownAfter_of_not_concerns unrenewed.2, run_cons, run_nil, History.next,
      World.sees_enact_of_not_concerns keeps unrenewed.2]
    exact ⟨same, visible⟩

variable {world opened : World} {catalog : Catalog Unit} {includeExisting : Option Bool}
  {options : WatchOptions} {told : List Notice} {between : List Action}

section Opened

variable (reachable : world.Reachable) (host : world.host = .real catalog)
  (hopen : world.openWatch subscriber includeExisting options = (.ok id, opened, told))
  (apart : ∀ action ∈ between, action.dismisses id = false ∧ action.stops id = false ∧
    action.hands id = false ∧ action.places id = false)

include reachable host hopen in
theorem waits_start :
    (start opened).Waits id (.ofNames (catalog.visible subscriber))
      (.start (world.subscription catalog subscriber includeExisting options)) := by
  have fresh : world.host.registers world.nextId = false := by
    obtain ⟨actions, rfl⟩ := reachable
    exact congrArg Glimpse.isRegistered (unopened_origin (Nat.le_refl _)).glimpse_eq
  have seen := World.glimpse_openWatch host fresh hopen
  obtain ⟨-, -, rfl⟩ := World.openWatch_eq_ok host hopen
  have coherent := reachable.coherent.opening subscriber includeExisting options
    (catalog.visible subscriber)
  have fed := congrArg Glimpse.isFed seen
  exact ⟨⟨⟨⟨congrArg Glimpse.watch? seen, fed⟩, rfl, rfl, coherent⟩, fed, rfl, rfl⟩,
    congrArg Glimpse.isHandled seen, congrArg Glimpse.isRegistered seen, ⟨catalog, host⟩, rfl⟩

include reachable host hopen apart in
theorem waits_run (fits : ((start opened).run between).rejected id = []) :
    ∃ moves, ((start opened).run between).Waits id (.ofNames (catalog.visible subscriber))
      ((Course.start (world.subscription catalog subscriber includeExisting options)).run
        moves) := by
  induction between using List.reverseRecOn with
  | nil => exact ⟨[], waits_start reachable host hopen⟩
  | append_singleton between action ih =>
    rw [run_append] at fits ⊢
    obtain ⟨moves, waits⟩ := ih
      (fun action member => apart action (List.mem_append_left _ member)) (rejected_of_run fits)
    obtain ⟨kept, calm, alone, apart⟩ := apart action (by simp)
    obtain ⟨more, waits⟩ := waits.next (blame_subscription moves) (departs_subscription moves)
      kept calm alone apart fits
    exact ⟨moves ++ more, by rw [Course.run_append]; exact waits⟩

include reachable host hopen apart in
theorem catches_start (fits : (((start opened).run between).next (.register id)).rejected id = []) :
    ∃ moves, (((start opened).run between).next (.register id)).Catches [] id
      (.ofNames (catalog.visible subscriber))
      ((Course.start (world.subscription catalog subscriber includeExisting options)).run
        moves) := by
  have waiting : ((start opened).run between).rejected id = [] :=
    @rejected_of_run _ _ [.register id] fits
  obtain ⟨moves, waits⟩ := waits_run reachable host hopen apart waiting
  obtain ⟨more, catches⟩ := waits.register (blame_subscription moves) (departs_subscription moves)
    fits
  exact ⟨moves ++ more, by rw [Course.run_append]; exact catches⟩

include reachable host hopen apart in
theorem catches_run
    (calm : ∀ action ∈ later, action.dismisses id = false ∧ action.stops id = false ∧
      action.hands id = false)
    (fits : ((((start opened).run between).next (.register id)).run later).rejected id = [])
    (found : ((((start opened).run between).next (.register id)).run later).skipped id = []) :
    ∃ moves, (((start opened).run between).next (.register id)).Catches later id
      (.ofNames (catalog.visible subscriber))
      ((Course.start (world.subscription catalog subscriber includeExisting options)).run
        moves) := by
  induction later using List.reverseRecOn with
  | nil => exact catches_start reachable host hopen apart fits
  | append_singleton later action ih =>
    have split := run_append (((start opened).run between).next (.register id)) later [action]
    obtain ⟨moves, catches⟩ := ih
      (fun action member => calm action (List.mem_append_left _ member))
      (rejected_of_run (split ▸ fits)) (skipped_of_run (split ▸ found))
    obtain ⟨kept, calm, alone⟩ := calm action (by simp)
    obtain ⟨more, catches⟩ := catches.next (blame_subscription moves) (departs_subscription moves)
      kept calm alone fits found
    exact ⟨moves ++ more, by rw [Course.run_append]; exact catches⟩

end Opened

/-- A watch that is registered some time after it was opened, then neither stopped nor removed, in
time with its events and able to resolve every name, takes each name as it was listed at the opening
until a change that concerns its subscriber is handed out, and as it is listed now from then on. So
it knows what is listed exactly if each name that came or went before the registration was renewed
since. -/
theorem known_eq_iff_renewed (reachable : world.Reachable) (host : world.host = .real catalog)
    (hopen : world.openWatch subscriber includeExisting options = (.ok id, opened, told))
    (apart : ∀ action ∈ between, action.dismisses id = false ∧ action.stops id = false ∧
      action.hands id = false ∧ action.places id = false)
    (calm : ∀ action ∈ later, action.dismisses id = false ∧ action.stops id = false ∧
      action.hands id = false)
    (fits : ((((start opened).run between).next (.register id)).run later).rejected id = [])
    (found : ((((start opened).run between).next (.register id)).run later).skipped id = []) :
    let registered := ((start opened).run between).next (.register id)
    let now := registered.run later
    ∃ watch seeded listed names, now.world.watches[id]? = some watch ∧
      now.world.host.registers id = true ∧
      world.host.list subscriber = .ok seeded ∧
      registered.world.host.list subscriber = .ok listed ∧
      now.world.host.list subscriber = .ok names ∧
      (∀ name, registered.Renewed subscriber name later →
        (name ∈ watch.known ↔ name ∈ names)) ∧
      (∀ name, ¬ registered.Renewed subscriber name later →
        (name ∈ watch.known ↔ name ∈ seeded) ∧ (name ∈ names ↔ name ∈ listed)) ∧
      (watch.known = .ofNames names ↔
        ∀ name, (name ∈ seeded ↔ name ∈ listed) ∨ registered.Renewed subscriber name later) := by
  intro registered now
  obtain ⟨moves, catches⟩ := catches_run reachable host hopen apart calm fits found
  have same : ((Course.start (world.subscription catalog subscriber includeExisting options)).run
      moves).watch.subscriber = subscriber := Course.subscriber_run _ moves
  generalize (Course.start (world.subscription catalog subscriber includeExisting options)).run
    moves = course at catches same
  subst same
  obtain ⟨_, atFirst⟩ := catches_start reachable host hopen apart (rejected_of_run fits)
  obtain ⟨listed, listed_eq, -, seenThen⟩ :=
    @list_of_registers _ course.watch.subscriber _ atFirst.registered
  obtain ⟨names, names_eq, -, seenNow⟩ :=
    @list_of_registers _ course.watch.subscriber _ catches.registered
  have renewed (name : String)
      (again : registered.Renewed course.watch.subscriber name later) :
      name ∈ course.watch.known ↔ name ∈ names := by
    rw [seenNow]
    exact catches.mem_known_iff name again
  have unrenewed (name : String)
      (never : ¬ registered.Renewed course.watch.subscriber name later) :
      (name ∈ course.watch.known ↔ name ∈ catalog.visible course.watch.subscriber) ∧
        (name ∈ names ↔ name ∈ listed) := by
    rw [seenNow, seenThen, ← NameSet.mem_ofNames (catalog.visible course.watch.subscriber)]
    exact catches.unrenewed name never
  refine ⟨course.watch, _, listed, names, catches.runs.tracks.watch_eq,
    catches.registered, by rw [host]; rfl, listed_eq, names_eq, renewed, unrenewed, ?_⟩
  constructor
  · intro known name
    by_cases again : registered.Renewed course.watch.subscriber name later
    · exact .inr again
    · obtain ⟨before, after⟩ := unrenewed name again
      rw [← before, ← after, known, NameSet.mem_ofNames]
      exact .inl .rfl
  · intro caught
    apply Std.ExtTreeSet.ext_mem
    intro name
    rw [NameSet.mem_ofNames]
    obtain kept | again := caught name
    · by_cases again : registered.Renewed course.watch.subscriber name later
      · exact renewed name again
      · obtain ⟨before, after⟩ := unrenewed name again
        rw [before, after, kept]
    · exact renewed name again

/-- A name comes between the opening of a watch and its registration, and the watch knows it when it
has changed once more. -/
theorem known_eq_iff_renewed_again :
    let inOrder : Visiting := ⟨fun visits => visits, fun _ => .refl _⟩
    let visible : Access := ⟨.ofNames ["u"], ∅⟩
    let world := ((start (.fresh (.real .empty))).run [.upsert (.active "a")]).world
    let result := world.openWatch ⟨"u", []⟩ none ⟨4, 1, false⟩
    let between : List Action := [.perform inOrder (.setAccess "a" visible)]
    let later : List Action := [.dropHandler 1, .perform inOrder (.touch "a"), .poll 1]
    let now := (((start result.2.1).run between).next (.register 1)).run later
    world.Reachable ∧ world.host = .real .empty ∧ result.1 = .ok 1 ∧
      (∀ action ∈ between, action.dismisses 1 = false ∧ action.stops 1 = false ∧
        action.hands 1 = false ∧ action.places 1 = false) ∧
      (∀ action ∈ later, action.dismisses 1 = false ∧ action.stops 1 = false ∧
        action.hands 1 = false) ∧
      now.rejected 1 = [] ∧ now.skipped 1 = [] ∧
      ∃ watch, now.world.watches[1]? = some watch ∧ watch.known = .ofNames ["a"] := by
  intro inOrder visible world result between later
  have reachable : world.Reachable := ⟨_, rfl⟩
  have hopen : world.openWatch ⟨"u", []⟩ none ⟨4, 1, false⟩ = (.ok 1, result.2.1, result.2.2) := rfl
  have apart : ∀ action ∈ between, action.dismisses 1 = false ∧ action.stops 1 = false ∧
    action.hands 1 = false ∧ action.places 1 = false := by decide
  have calm : ∀ action ∈ later, action.dismisses 1 = false ∧ action.stops 1 = false ∧
    action.hands 1 = false := by decide
  have fits : ((((start result.2.1).run between).next (.register 1)).run later).rejected 1 = [] := by
    decide +kernel
  have found : ((((start result.2.1).run between).next (.register 1)).run later).skipped 1 = [] := by
    decide +kernel
  have law := known_eq_iff_renewed reachable rfl hopen apart calm fits found
  have touched : ((((start result.2.1).run between).next (.register 1)).run
      [.dropHandler 1]).world.handed? (.perform inOrder (.touch "a")) =
        some (.between "a" visible visible) := by decide +kernel
  have first : world.host.list ⟨"u", []⟩ = .ok [] := by decide +kernel
  have listed : (((start result.2.1).run between).next (.register 1)).world.host.list
      ⟨"u", []⟩ = .ok ["a"] := by decide +kernel
  have last : ((((start result.2.1).run between).next (.register 1)).run later).world.host.list
      ⟨"u", []⟩ = .ok ["a"] := by decide +kernel
  generalize ((start result.2.1).run between).next (.register 1) = registered at *
  have renewed : registered.Renewed ⟨"u", []⟩ "a" later :=
    ⟨[.dropHandler 1], _, [.poll 1], rfl, ⟨_, touched, rfl, by decide⟩, fun _ _ => trivial⟩
  refine ⟨reachable, rfl, rfl, apart, calm, fits, found, ?_⟩
  obtain ⟨watch, seeded, then', names, held, -, seeded_eq, then_eq, names_eq, -, -, caught⟩ := law
  obtain rfl : seeded = [] := Except.ok.inj (seeded_eq.symm.trans first)
  obtain rfl : then' = ["a"] := Except.ok.inj (then_eq.symm.trans listed)
  obtain rfl : names = ["a"] := Except.ok.inj (names_eq.symm.trans last)
  refine ⟨watch, held, caught.mpr fun name => ?_⟩
  by_cases came : name = "a"
  · exact .inr (came ▸ renewed)
  · simp [came]

/-- Without such changes it stays wrong, however much else happens. -/
theorem known_ne_of_gap :
    let inOrder : Visiting := ⟨fun visits => visits, fun _ => .refl _⟩
    let visible : Access := ⟨.ofNames ["u"], ∅⟩
    let world := ((start (.fresh (.real .empty))).run
      [.upsert (.active "a"), .upsert (.active "b"),
        .perform inOrder (.setAccess "b" visible)]).world
    let result := world.openWatch ⟨"u", []⟩ none ⟨4, 1, false⟩
    let between : List Action := [.perform inOrder (.setAccess "a" visible),
      .perform inOrder (.forget "b")]
    let later : List Action := [.dropHandler 1,
      .perform inOrder (.setAccess "c" ⟨.ofNames ["v"], ∅⟩), .poll 1]
    let now := (((start result.2.1).run between).next (.register 1)).run later
    world.Reachable ∧ result.1 = .ok 1 ∧ now.rejected 1 = [] ∧ now.skipped 1 = [] ∧
      now.world.host.registers 1 = true ∧ now.world.host.list ⟨"u", []⟩ = .ok ["a"] ∧
      now.world.watches[1]?.map (·.known.toList) = some ["b"] := by
  intro inOrder visible world result between later now
  exact ⟨⟨_, rfl⟩, rfl, by decide +kernel, by decide +kernel, by decide +kernel, by decide +kernel,
    by decide +kernel⟩

end History
end AccessFeed
