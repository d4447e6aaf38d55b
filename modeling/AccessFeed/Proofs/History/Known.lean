import AccessFeed.Proofs.Course.Departure
import AccessFeed.Proofs.History.Subscription

/-! What a registered watch knows, told from the history alone, and the event that it makes of a
change.

A name is known as long as the subscriber sees it without interruption, since the watch was opened or
since a change of it could be resolved. -/
namespace AccessFeed

namespace Notice

/-- The event that a watch handed to its relay, whatever became of it there. -/
def offered? (id : WatchId) : Notice → Option Event
  | .queued other event | .overflowed other _ event | .discarded other event =>
    if other = id then some event else none
  | _ => none

theorem offered?_of_ne {id : WatchId} {notice : Notice} (h : notice.watch? ≠ some id) :
    notice.offered? id = none := by
  cases notice <;> simp_all [offered?, watch?]

end Notice

/-- The event that a change of a namespace calls for, if it calls for one. -/
def announcement? (lookup : Lookup) (name : String) (isKnown isSeen : Bool) : Option Event :=
  if isSeen then
    (lookup name).toOption.map fun object =>
      if isKnown then .modified object.project else .added object.project
  else if isKnown then some (.deleted (.named name))
  else none

namespace Watch

variable {watch : Watch} {lookup : Lookup} {change : AccessChange}

theorem offered_arrival {event : Event} {next : Watch} {effects : List Effect}
    (arrival : Arrival watch event next effects) :
    (Effect.notices effects).filterMap (Notice.offered? watch.id) = [event] := by
  cases arrival <;> simp [Notice.offered?]

/-- What a watch makes of a change that it reads rightly. -/
theorem offered_handle {before after : Bool}
    (bearing : change.bearing watch.subscriber =
      if after then .granted else if before then .revoked else .unaffected)
    (known : change.name ∈ watch.known → before = true) :
    (Effect.notices (watch.handle lookup change).2).filterMap (Notice.offered? watch.id) =
      (announcement? lookup change.name (decide (change.name ∈ watch.known)) after).toList := by
  have handling := watch.handling_handle lookup change
  generalize watch.handle lookup change = result at handling ⊢
  obtain ⟨next, effects⟩ := result
  dsimp only at handling ⊢
  have seen (granted : change.bearing watch.subscriber = .granted) : after = true := by
    rw [bearing] at granted
    cases after with
    | true => rfl
    | false => cases before <;> cases granted
  cases handling with
  | ignore unconcerned =>
    cases after with
    | true => simp [bearing] at unconcerned
    | false =>
      have unknown : change.name ∉ watch.known := by
        intro member
        simp [bearing, known member, member] at unconcerned
      simp [announcement?, unknown]
  | skip granted unresolved =>
    simp [announcement?, seen granted, unresolved, Notice.offered?, Except.toOption]
  | revoke revoked member arrival =>
    have unseen : after = false := by
      rw [bearing] at revoked
      cases after with
      | true => cases revoked
      | false => rfl
    have offered := offered_arrival arrival
    simp [announcement?, unseen, member, offered]
  | grant granted resolved arrival =>
    have seen := seen granted
    rw [Effect.notices_note, List.filterMap_cons_none rfl]
    apply (offered_arrival arrival).trans
    simp [announcement?, seen, resolved, Except.toOption]

/-- What a watch knows after an action that hands it a change only through its catalog. -/
def knownAfter (watch : Watch) (world : World) (action : Action) : NameSet :=
  match world.handed? action with
  | some change => (watch.handle world.lookup change).1.known
  | none => watch.known

end Watch

namespace History

variable {history : History} {id : WatchId} {course : Course} {action : Action}
  {subscriber : Subscriber}

/-- The events that a watch handed to its relay, oldest first. -/
def offered (history : History) (id : WatchId) : List Event :=
  history.notices.filterMap (Notice.offered? id)

theorem Follows.offered_eq (h : history.Follows id course) :
    history.offered id = course.notices.filterMap (Notice.offered? id) :=
  h.filterMap_eq fun _ other => Notice.offered?_of_ne other

/-- A registered watch is handed each change that an action hands out. -/
theorem touch_of_handed {world : World} {change : AccessChange}
    (registered : world.host.registers id = true) (h : world.handed? action = some change) :
    world.touch id action = .handle world.lookup change := by
  cases action with
  | perform visiting mutation =>
    have changed : world.change? mutation = some change := h
    simp only [World.touch, changed, registered, if_true]
  | _ => cases h

/-- A watch is handed a change by the catalog that it is registered with, or by its creator. -/
theorem cases_of_touch_handle {world : World} {lookup : Lookup} {change : AccessChange}
    (h : world.touch id action = .handle lookup change) :
    (world.host.registers id = true ∧ world.handed? action = some change) ∨
      ((world.glimpse id).isHandled = true ∧ action = .handle id change) := by
  cases action with
  | perform visiting mutation =>
    simp only [World.touch] at h
    split at h
    · rename_i given changed
      split at h
      · rename_i registered
        obtain ⟨-, rfl⟩ := Touch.handle.inj h
        exact .inl ⟨registered, changed⟩
      · cases h
    · cases h
  | handle other given =>
    simp only [World.touch] at h
    split at h
    · rename_i possible
      simp only [Bool.and_eq_true, beq_iff_eq] at possible
      obtain ⟨handled, rfl⟩ := possible
      obtain ⟨-, rfl⟩ := Touch.handle.inj h
      exact .inr ⟨handled, rfl⟩
    · cases h
  | _ =>
    simp only [World.touch] at h
    repeat' split at h
    all_goals cases h

/-- A watch that its creator no longer hands changes is handed nothing else. -/
theorem touch_ne_handle {world : World} (unhandled : (world.glimpse id).isHandled = false)
    (h : world.handed? action = none) (lookup : Lookup) (change : AccessChange) :
    world.touch id action ≠ .handle lookup change := by
  intro touch
  obtain ⟨-, handed⟩ | ⟨handled, -⟩ := cases_of_touch_handle touch
  · rw [h] at handed
    cases handed
  · rw [unhandled] at handled
    cases handled

theorem known_drops (course : Course) (drops : Nat) :
    (course.run (List.replicate drops Move.drop)).watch.known = course.watch.known := by
  induction drops generalizing course with
  | zero => rfl
  | succ drops ih => exact (ih _).trans (@Course.known_make .drop (by simp) course)

theorem known_of_touch {next : Course} {drops : Nat}
    (made : next = course.run
      ((history.world.touch id action).moves ++ List.replicate drops Move.drop))
    (registered : history.world.host.registers id = true)
    (other : history.world.handed? action = none →
      ∀ lookup change, history.world.touch id action ≠ .handle lookup change) :
    next.watch.known = course.watch.knownAfter history.world action := by
  rw [made, Course.run_append, known_drops, Watch.knownAfter]
  cases handed : history.world.handed? action with
  | some change =>
    rw [touch_of_handed registered handed]
    rfl
  | none =>
    exact Course.run_moves_eq (·.watch.known) (fun unhandled => Course.known_make unhandled)
      (other handed) course

/-- The course of a registered watch after an action, by what the action hands out. -/
theorem known_next {next : Course} {drops : Nat}
    (made : next = course.run
      ((history.world.touch id action).moves ++ List.replicate drops Move.drop))
    (h : history.Follows id course) (registered : history.world.host.registers id = true) :
    next.watch.known =
      match history.world.handed? action with
      | some change => (course.watch.handle history.world.lookup change).1.known
      | none => course.watch.known :=
  known_of_touch made registered (touch_ne_handle h.isHandled_eq)

/-- One action makes a namespace known if it is visible afterwards and a change of it could be
resolved, and unknown if it is no longer visible. -/
theorem mem_known_next {next : Course} {drops : Nat} {name : String}
    (made : next = course.run
      ((history.world.touch id action).moves ++ List.replicate drops Move.drop))
    (h : history.Follows id course) (registered : history.world.host.registers id = true)
    (keeps : action ≠ .dropHost)
    (seen : ∀ name ∈ course.watch.known,
      history.world.host.sees course.watch.subscriber name = true) :
    name ∈ next.watch.known ↔
      (history.next action).world.host.sees course.watch.subscriber name = true ∧
        (name ∈ course.watch.known ∨ ∃ change object, history.world.handed? action = some change ∧
          change.name = name ∧ history.world.lookup name = .ok object) := by
  rw [known_next made h registered]
  by_cases concerned : ∃ change, history.world.handed? action = some change ∧ change.name = name
  · obtain ⟨change, handed, rfl⟩ := concerned
    have bearing := World.bearing_of_handed handed course.watch.subscriber
    have unaffected : change.bearing course.watch.subscriber = .unaffected →
        change.name ∉ course.watch.known := by
      intro aside member
      rw [bearing, seen _ member] at aside
      split at aside <;> cases aside
    have granted : change.bearing course.watch.subscriber = .granted ↔
        (history.next action).world.host.sees course.watch.subscriber change.name = true := by
      have after : (history.next action).world = (history.world.enact action).1 := rfl
      rw [bearing, after]
      split
      · simp_all
      · split <;> simp_all
    simp only [handed, Watch.mem_known_handle_self unaffected, granted]
    simp
  · have same : (history.next action).world.host.sees course.watch.subscriber name =
        history.world.host.sees course.watch.subscriber name :=
      World.sees_enact keeps fun change handed same => concerned ⟨change, handed, same⟩
    have unchanged : name ∈ (match history.world.handed? action with
        | some change => (course.watch.handle history.world.lookup change).1.known
        | none => course.watch.known) ↔ name ∈ course.watch.known := by
      cases handed : history.world.handed? action with
      | none => rfl
      | some change =>
        exact Watch.mem_known_handle_of_ne fun same => concerned ⟨change, handed, same.symm⟩
    rw [unchanged, same]
    constructor
    · intro member
      exact ⟨seen name member, .inl member⟩
    · rintro ⟨-, member | ⟨change, object, handed, same, -⟩⟩
      · exact member
      · exact absurd ⟨change, handed, same⟩ concerned

/-- It has been so all along. -/
def Throughout (holds : List Action → Prop) (later : List Action) : Prop :=
  ∀ past, past <+: later → holds past

/-- It has been so since an action of the given kind. -/
def Since (holds : List Action → Prop) (begins : List Action → Action → Prop)
    (later : List Action) : Prop :=
  ∃ past action rest, later = past ++ action :: rest ∧ begins past action ∧
    ∀ more, more <+: rest → holds (past ++ action :: more)

theorem throughout_concat {holds : List Action → Prop} {later : List Action} :
    Throughout holds (later ++ [action]) ↔
      holds (later ++ [action]) ∧ Throughout holds later := by
  constructor
  · intro all
    exact ⟨all _ List.prefix_rfl, fun past within => all past (within.trans (List.prefix_append _ _))⟩
  · rintro ⟨last, all⟩ past within
    obtain rfl | within := List.prefix_concat_iff.mp within
    · exact last
    · exact all past within

theorem since_concat {holds : List Action → Prop} {begins : List Action → Action → Prop}
    {later : List Action} :
    Since holds begins (later ++ [action]) ↔
      holds (later ++ [action]) ∧ (Since holds begins later ∨ begins later action) := by
  constructor
  · rintro ⟨past, first, rest, split, begun, all⟩
    have last : holds (later ++ [action]) := split ▸ all rest List.prefix_rfl
    refine ⟨last, ?_⟩
    obtain rfl | ⟨rest, final, rfl⟩ := rest.eq_nil_or_concat
    · obtain ⟨rfl, same⟩ := List.append_inj' split rfl
      exact .inr (List.singleton_inj.mp same ▸ begun)
    · rw [List.concat_eq_append] at split all
      rw [← List.cons_append, ← List.append_assoc] at split
      obtain ⟨rfl, -⟩ := List.append_inj' split rfl
      exact .inl ⟨past, first, rest, rfl, begun,
        fun more within => all more (within.trans (List.prefix_append _ _))⟩
  · rintro ⟨last, ⟨past, first, rest, rfl, begun, all⟩ | begun⟩
    · refine ⟨past, first, rest ++ [action], by simp, begun, fun more within => ?_⟩
      obtain rfl | within := List.prefix_concat_iff.mp within
      · simpa using last
      · exact all more within
    · refine ⟨later, action, [], rfl, begun, fun more within => ?_⟩
      rw [List.prefix_nil.mp within]
      exact last

theorem Throughout.last {holds : List Action → Prop} {later : List Action}
    (h : Throughout holds later) : holds later := h later List.prefix_rfl

theorem Since.last {holds : List Action → Prop} {begins : List Action → Action → Prop}
    {later : List Action} (h : Since holds begins later) : holds later := by
  obtain ⟨past, action, rest, rfl, -, all⟩ := h
  exact all rest List.prefix_rfl

section Subscribed

variable {world opened : World} {catalog : Catalog Unit} {includeExisting : Option Bool}
  {options : WatchOptions} {told : List Notice}

/-- The action hands out a change of the namespace, which the directory can resolve. -/
def Resolves (world : World) (name : String) (action : Action) : Prop :=
  ∃ change object, world.handed? action = some change ∧ change.name = name ∧
    world.lookup name = .ok object

theorem known_run (coherent : world.Coherent) (host : world.host = .real catalog)
    (hopen : world.subscribe subscriber includeExisting options = (.ok id, opened, told))
    (later : List Action) :
    ∃ course, ((start opened).run later).Follows id course ∧ course.watch.subscriber = subscriber ∧
      (((start opened).run later).world.host.registers id = true →
        ∀ name, name ∈ course.watch.known ↔
          ((start opened).run later).world.host.sees subscriber name = true ∧
            (Throughout (fun past =>
                ((start opened).run past).world.host.sees subscriber name = true) later ∨
              Since (fun past =>
                  ((start opened).run past).world.host.sees subscriber name = true)
                (fun past => Resolves ((start opened).run past).world name) later)) := by
  -- on the last action, since `Throughout` and `Since` look back from there
  induction later using List.reverseRecOn with
  | nil =>
    refine ⟨_, follows_start coherent host hopen, rfl, fun _ name => ?_⟩
    apply (World.mem_known_subscription host hopen name).trans
    constructor
    · intro seen
      refine ⟨seen, .inl fun past within => ?_⟩
      rw [List.prefix_nil.mp within]
      exact seen
    · exact fun h => h.1
  | append_singleton later action ih =>
    obtain ⟨course, follows, same, known⟩ := ih
    obtain ⟨drops, next, made, follows', -⟩ := follows.next action
    rw [run_append]
    refine ⟨next, follows', ?_, fun registered => ?_⟩
    · rw [made, Course.subscriber_run, same]
    · obtain ⟨before, kept, -⟩ := (follows.registers_next action).mp registered
      have keeps : action ≠ .dropHost := by
        rintro rfl
        cases kept
      have known := known before
      have seen : ∀ name ∈ course.watch.known,
          ((start opened).run later).world.host.sees course.watch.subscriber name = true := by
        intro name member
        rw [same]
        exact ((known name).mp member).1
      intro name
      rw [mem_known_next made follows before keeps seen, same, throughout_concat, since_concat,
        known name, run_append]
      constructor
      · rintro ⟨visible, ⟨-, all | since⟩ | resolved⟩
        · exact ⟨visible, .inl ⟨visible, all⟩⟩
        · exact ⟨visible, .inr ⟨visible, .inl since⟩⟩
        · exact ⟨visible, .inr ⟨visible, .inr resolved⟩⟩
      · rintro ⟨visible, ⟨-, all⟩ | ⟨-, since | resolved⟩⟩
        · exact ⟨visible, .inl ⟨all.last, .inl all⟩⟩
        · exact ⟨visible, .inl ⟨since.last, .inr since⟩⟩
        · exact ⟨visible, .inr resolved⟩

theorem name_of_lookup (h : world.Coherent) {name : String} {object : Namespace}
    (found : world.lookup name = .ok object) : object.name = name := by
  unfold World.lookup Directory.find at found
  split at found
  · cases found
  · split at found
    · rename_i held
      cases found
      exact h.name_eq name _ held
    · cases found

theorem list_of_registers (h : world.host.registers id = true) :
    ∃ names, world.host.list subscriber = .ok names ∧ names.Nodup ∧
      ∀ name, name ∈ names ↔ world.host.sees subscriber name = true := by
  cases host : world.host with
  | real catalog =>
    refine ⟨_, rfl, catalog.nodup_visible subscriber, fun name => ?_⟩
    rw [Catalog.mem_visible, Host.sees_real]
  | double standIn =>
    rw [host] at h
    cases h
  | gone =>
    rw [host] at h
    cases h

/-- A change that is handed out while the watch is registered makes it hand its relay the event that
the change calls for, and nothing else. -/
theorem Follows.offered_next (h : history.Follows id course)
    (registered : history.world.host.registers id = true)
    (seen : ∀ name ∈ course.watch.known,
      history.world.host.sees course.watch.subscriber name = true)
    {change : AccessChange} (handed : history.world.handed? action = some change) :
    (history.next action).offered id = history.offered id ++
      (announcement? history.world.lookup change.name (decide (change.name ∈ course.watch.known))
        ((history.next action).world.host.sees course.watch.subscriber change.name)).toList := by
  obtain ⟨drops, next, -, follows, on⟩ := h.next action
  have effects : (history.world.glimpse id).effects (history.world.touch id action) =
      (course.watch.handle history.world.lookup change).2 := by
    rw [touch_of_handed registered handed, Glimpse.effects, h.sight.watch_eq]
    rfl
  have made := @Watch.offered_handle course.watch history.world.lookup change _ _
    (World.bearing_of_handed handed course.watch.subscriber) (seen change.name)
  rw [follows.offered_eq, on.notices_eq, List.filterMap_append, effects, h.offered_eq]
  rw [h.id_eq] at made
  exact congrArg _ made

/-- As long as a watch is registered, it knows a namespace exactly if its subscriber sees the
namespace and has seen it without interruption, since the watch was opened or since a change of it
could be resolved. So it knows nothing that a listing does not give. Of a change that is handed out it
makes the event that the change calls for: a deletion by name alone of what is known and no longer
visible, the announcement of an object that is visible and can be resolved, or nothing. -/
theorem mem_known_iff (reachable : world.Reachable) (host : world.host = .real catalog)
    (hopen : world.subscribe subscriber includeExisting options = (.ok id, opened, told))
    {later : List Action}
    (registered : ((start opened).run later).world.host.registers id = true) :
    let state (past : List Action) := (start opened).run past
    let sees (past : List Action) (name : String) :=
      (state past).world.host.sees subscriber name = true
    ∃ watch, (state later).world.watches[id]? = some watch ∧ watch.subscriber = subscriber ∧
      (∀ name, name ∈ watch.known ↔ sees later name ∧
        (Throughout (sees · name) later ∨
          Since (sees · name) (fun past => Resolves (state past).world name) later)) ∧
      (∃ names, (state later).world.host.list subscriber = .ok names ∧
        ∀ name ∈ watch.known, name ∈ names) ∧
      ∀ action change, (state later).world.handed? action = some change →
        (∀ object, (state later).world.lookup change.name = .ok object →
          object.name = change.name) ∧
        (state (later ++ [action])).offered id = (state later).offered id ++
          (announcement? (state later).world.lookup change.name
            (decide (change.name ∈ watch.known))
            ((state (later ++ [action])).world.host.sees subscriber change.name)).toList := by
  intro state sees
  obtain ⟨course, follows, rfl, known⟩ := known_run reachable.coherent host hopen later
  have known := known registered
  have seen : ∀ name ∈ course.watch.known, sees later name :=
    fun name member => ((known name).mp member).1
  obtain ⟨names, listed, -, visible⟩ := list_of_registers registered
  refine ⟨course.watch, follows.watch_eq, rfl, known, ⟨names, listed, ?_⟩, ?_⟩
  · exact fun name member => (visible name).mpr (seen name member)
  · intro action change handed
    refine ⟨fun object found => name_of_lookup follows.coherent found, ?_⟩
    have offered := follows.offered_next registered seen handed
    simpa only [state, run_append, run_cons, run_nil] using offered

theorem mem_known_iff_resolved_late :
    let inOrder : Visiting := ⟨fun visits => visits, fun _ => .refl _⟩
    let visible : Access := ⟨.ofNames ["u"], ∅⟩
    let catalog : Catalog Unit := (Catalog.empty.mutate (.setAccess "a" visible)).1
    let world := ((start (.fresh (.real .empty))).run
      [.perform inOrder (.setAccess "a" visible)]).world
    let opened := (world.subscribe ⟨"u", []⟩ none ⟨4, 4, false⟩).2.1
    let early : List Action := [.perform inOrder (.setAccess "b" visible),
      .perform inOrder (.forget "a"), .upsert (.active "b")]
    let now := (start opened).run (early ++ [.perform inOrder (.touch "b")])
    world.Reachable ∧ world.host = .real catalog ∧
      (world.subscribe ⟨"u", []⟩ none ⟨4, 4, false⟩).1 = .ok 1 ∧
      now.world.host.registers 1 = true ∧
      ∃ watch, now.world.watches[1]? = some watch ∧ "a" ∉ watch.known ∧ "b" ∈ watch.known := by
  intro inOrder visible catalog world opened early now
  have reachable : world.Reachable := ⟨_, rfl⟩
  have host : world.host = .real catalog := rfl
  have hopen : world.subscribe ⟨"u", []⟩ none ⟨4, 4, false⟩ = (.ok 1, opened, _) := rfl
  have registered : now.world.host.registers 1 = true := by decide
  obtain ⟨watch, found, -, known, -⟩ := mem_known_iff reachable host hopen registered
  refine ⟨reachable, host, rfl, registered, watch, found, ?_, ?_⟩
  · intro member
    have seen : now.world.host.sees ⟨"u", []⟩ "a" = true := ((known "a").mp member).1
    have unseen : now.world.host.sees ⟨"u", []⟩ "a" = false := by decide
    rw [unseen] at seen
    cases seen
  · have seen : now.world.host.sees ⟨"u", []⟩ "b" = true := by decide
    have touched : (((start opened).run early).world.handed?
        (.perform inOrder (.touch "b"))).map (·.name) = some "b" := by decide
    obtain ⟨change, handed, named⟩ := Option.map_eq_some_iff.mp touched
    have resolved : Resolves ((start opened).run early).world "b"
        (.perform inOrder (.touch "b")) :=
      ⟨change, .active "b", handed, named, by decide⟩
    refine (known "b").mpr ⟨seen, .inr ⟨early, _, [], rfl, resolved, fun more within => ?_⟩⟩
    rw [List.prefix_nil.mp within]
    exact seen

end Subscribed

end History
end AccessFeed
