import AccessFeed.Proofs.Course.Presence
import AccessFeed.Proofs.History.Convergence
import AccessFeed.Proofs.History.Registration
import AccessFeed.Proofs.History.Stopping

/-! What a consumer that asks for the existing projects is told of one of them, from first to last.

A project is announced before it is modified or deleted, unless it was listed and could not be
resolved when the watch was opened: such a project is known from then on and was never announced. -/
namespace AccessFeed

open scoped Computability
open EventKind

/-- The listed names that cannot be resolved. -/
def leftOut (lookup : Lookup) (names : List String) : List String :=
  names.filter fun name => (lookup name).toOption.isNone

/-- The listed names that can be resolved. -/
def resolvable (lookup : Lookup) (names : List String) : List String :=
  names.filter fun name => (lookup name).toOption.isSome

theorem announcements_resolvable (lookup : Lookup) (names : List String) :
    announcements lookup (resolvable lookup names) = announcements lookup names := by
  rw [announcements, resolvable, List.filterMap_filter, announcements]
  apply List.filterMap_congr
  intro name _
  cases (lookup name).toOption <;> rfl

theorem ofNames_leftOut (lookup : Lookup) (names : List String) :
    (resolvable lookup names).foldl (fun set name => set.insert name)
      (NameSet.ofNames (leftOut lookup names)) = .ofNames names := by
  apply Std.ExtTreeSet.ext_mem
  intro name
  rw [NameSet.mem_foldl_insert, NameSet.mem_ofNames, NameSet.mem_ofNames, resolvable, leftOut,
    List.mem_filter, List.mem_filter]
  cases (lookup name).toOption <;> simp

/-- A consumer that knows the names that cannot be resolved gets to know the others. -/
theorem absorbAll?_announcements_leftOut {lookup : Lookup} {names : List String}
    (named : ∀ name object, lookup name = .ok object → object.name = name)
    (distinct : names.Nodup) :
    (NameSet.ofNames (leftOut lookup names)).absorbAll? (announcements lookup names) =
      some (.ofNames names) := by
  rw [← announcements_resolvable, absorbAll?_announcements, ofNames_leftOut]
  · intro name member
    obtain ⟨-, resolved⟩ := List.mem_filter.mp member
    cases found : lookup name with
    | ok object => exact ⟨object, rfl, named name object found⟩
    | error cause => simp [found, Except.toOption] at resolved
  · exact distinct.filter _
  · intro name member
    obtain ⟨-, resolved⟩ := List.mem_filter.mp member
    rw [NameSet.mem_ofNames, leftOut, List.mem_filter]
    cases found : (lookup name).toOption <;> simp_all

theorem kindOf?_ofOverflow (name : String) (cause : Overflow) :
    (Event.ofOverflow cause).kindOf? name = none := rfl

namespace Course

variable {course : Course} {snapshot : List Event} {replica names : NameSet}

/-- What was sent for each name is in order if all that there was to send is. -/
theorem Flow.exists_append_mem (h : course.Flow snapshot)
    (absorbed : replica.absorbAll? (snapshot ++ course.accepted) = some names) (name : String) :
    ∃ rest, course.sent.filterMap (Event.kindOf? name) ++ rest ∈
      if name ∈ replica then stay * presence∗ else presence∗ := by
  obtain ⟨regular, within, sent⟩ := h.sent
  have same : course.sent.filterMap (Event.kindOf? name) =
      regular.filterMap (Event.kindOf? name) := by
    obtain all | ⟨cause, -, all⟩ := sent
    · rw [all]
    · simp [all, kindOf?_ofOverflow]
  obtain ⟨then', inOrder⟩ := foldlM_of_prefix (within.filterMap (Event.kindOf? name))
    (NameSet.foldlM_of_absorbAll? absorbed name)
  have goesOn := EventKind.exists_append_mem inOrder
  rw [same]
  simpa using goesOn

end Course

namespace History

variable {history : History} {id : WatchId} {course : Course} {kept : Prop} {replica : NameSet}
  {snapshot : List Event}

/-- A consumer takes in all events that a watch starts with or accepts, and as long as the watch is
registered it comes to know what the watch knows. -/
structure Informs (history : History) (id : WatchId) (kept : Prop) (replica : NameSet)
    (snapshot : List Event) (course : Course) : Prop where
  enrols : history.Enrols id kept course
  absorbed : ∃ names, replica.absorbAll? (snapshot ++ course.accepted) = some names ∧
    (history.world.host.registers id = true → names = course.watch.known)

/-- A change that meets a full intake takes the watch out of the registry, and no other change puts
what the watch knows at odds with what the consumer makes of the accepted events. -/
theorem Informs.absorbed_handle (h : history.Informs id kept replica snapshot course)
    {change : AccessChange} (registered : history.world.host.registers id = true) :
    let next := course.make (.handle history.world.lookup change)
    ∃ names, replica.absorbAll? (snapshot ++ next.accepted) = some names ∧
      (next.rejected = [] → names = next.watch.known) := by
  intro next
  obtain ⟨names, absorbed, known⟩ := h.absorbed
  obtain rfl := known registered
  obtain ⟨-, active, fits⟩ := h.enrols.registers_iff_active.mp registered
  obtain same | ⟨accepted, event, rejected⟩ :=
    Course.rejected_handle course history.world.lookup change
  · obtain ⟨events, accepted, more⟩ := Course.absorb_make_handle active (same.trans fits)
      fun object found => name_of_lookup h.enrols.follows.coherent found
    refine ⟨next.watch.known, ?_, fun _ => rfl⟩
    rw [accepted, ← List.append_assoc, NameSet.absorbAll?_append, absorbed, Option.bind_some, more]
  · refine ⟨course.watch.known, ?_, fun none => ?_⟩
    · rw [accepted, absorbed]
    · rw [rejected] at none
      simp at none

theorem Informs.next (h : history.Informs id kept replica snapshot course) (action : Action) :
    ∃ moves, (history.next action).Informs id (kept ∧ action.dismisses id = false) replica snapshot
      (course.run moves) := by
  obtain ⟨moves, enrols⟩ := h.enrols.next action
  refine ⟨moves, enrols, ?_⟩
  -- both are courses of the watch after the action, and of this one the moves are known
  obtain ⟨drops, next, made, follows, -⟩ := h.enrols.follows.next action
  have watch : (course.run moves).watch = next.watch :=
    Option.some.inj (enrols.follows.watch_eq.symm.trans follows.watch_eq)
  have accepted : (course.run moves).accepted = next.accepted := by
    rw [← enrols.follows.tracks.accepted_eq, follows.tracks.accepted_eq]
  have fits (registered : (history.next action).world.host.registers id = true) :
      next.rejected = [] := by
    rw [← follows.rejected_eq, enrols.follows.rejected_eq]
    exact (enrols.registers_iff_active.mp registered).2.2
  rw [accepted, watch]
  have dropped := Course.run_drops (course.run (history.world.touch id action).moves) drops
  have known := known_drops (course.run (history.world.touch id action).moves) drops
  rw [← Course.run_append, ← made] at dropped known
  obtain ⟨notices, same, -⟩ := dropped
  rw [Course.rejected, notices, same, ← Course.rejected] at fits
  rw [Course.accepted, notices, same, ← Course.accepted, known]
  have stayed : (history.next action).world.host.registers id = true →
      history.world.host.registers id = true :=
    fun registered => ((h.enrols.follows.registers_next action).mp registered).1
  by_cases handled : ∃ lookup change, history.world.touch id action = .handle lookup change
  · obtain ⟨lookup, change, touch⟩ := handled
    have registered := registers_of_touch h.enrols.follows.isHandled_eq touch
    cases handed : history.world.handed? action with
    | none => exact absurd touch (touch_ne_handle h.enrols.follows.isHandled_eq handed _ _)
    | some change =>
      rw [touch_of_handed registered handed] at fits ⊢
      obtain ⟨names, absorbed, known⟩ := h.absorbed_handle registered
      exact ⟨names, absorbed, fun registered => known (fits registered)⟩
  · have unhandled (lookup : Lookup) (change : AccessChange) :
        history.world.touch id action ≠ .handle lookup change :=
      fun touch => handled ⟨lookup, change, touch⟩
    obtain ⟨names, absorbed, known⟩ := h.absorbed
    rw [Course.run_moves_eq (·.accepted) Course.accepted_make unhandled,
      Course.run_moves_eq (·.watch.known) Course.known_make unhandled]
    exact ⟨names, absorbed, fun registered => known (stayed registered)⟩

section Subscribed

variable {earlier : List Action} {catalog : Catalog Unit} {subscriber : Subscriber}
  {includeExisting : Option Bool} {options : WatchOptions} {opened : World} {told : List Notice}

theorem informs_run (host : (origin.run earlier).world.host = .real catalog)
    (hopen : (origin.run earlier).world.subscribe subscriber includeExisting options =
      (.ok id, opened, told)) (later : List Action) :
    ∃ kept moves, (((origin.run earlier).next
        (.subscribe subscriber includeExisting options)).run later).Informs id kept
      (.ofNames (leftOut (origin.run earlier).world.lookup (catalog.visible subscriber)))
      (announcements (origin.run earlier).world.lookup (catalog.visible subscriber))
      ((Course.start ((origin.run earlier).world.subscription catalog subscriber includeExisting
        options)).run moves) := by
  induction later using List.reverseRecOn with
  | nil =>
    refine ⟨True, [], enrols_subscribed host hopen, .ofNames (catalog.visible subscriber), ?_,
      fun _ => rfl⟩
    have named (name : String) (object : Namespace)
        (found : (origin.run earlier).world.lookup name = .ok object) : object.name = name :=
      name_of_lookup (coherent_origin earlier) found
    exact (congrArg _ (List.append_nil _)).trans
      (absorbAll?_announcements_leftOut named (catalog.nodup_visible subscriber))
  | append_singleton later action ih =>
    obtain ⟨kept, moves, informs⟩ := ih
    obtain ⟨more, informs⟩ := informs.next action
    rw [run_append, run_cons, run_nil]
    exact ⟨_, moves ++ more, by rw [Course.run_append]; exact informs⟩

/-- Of a watch that was opened with existing projects requested, the events of one project are, at
any time and whatever has happened, the first part of a word of announcements, each followed by
modifications and a deletion. A project that was listed and could not be resolved when the watch was
opened is the exception: it is taken as announced, and the first the consumer is told of it is that
it was modified or deleted. -/
theorem lifecycle (host : (origin.run earlier).world.host = .real catalog)
    (hopen : (origin.run earlier).world.subscribe subscriber includeExisting options =
      (.ok id, opened, told))
    (existing : includeExisting.getD options.includeExisting = true) (later : List Action)
    (name : String) :
    let before := origin.run earlier
    let now := (before.next (.subscribe subscriber includeExisting options)).run later
    let kinds := (now.pushed id).filterMap (Event.kindOf? name)
    ∃ rest, kinds ++ rest ∈
      if name ∈ leftOut before.world.lookup (catalog.visible subscriber) then stay * presence∗
      else presence∗ := by
  intro before now kinds
  obtain ⟨kept, moves, informs⟩ := informs_run host hopen later
  obtain ⟨names, absorbed, -⟩ := informs.absorbed
  have tracks := informs.enrols.follows.tracks
  have flow := (@sound_subscription before.world catalog subscriber includeExisting options
    moves).flow
  have fresh : (Course.start (before.world.subscription catalog subscriber includeExisting
      options)).pushed = (Course.start (before.world.subscription catalog subscriber
        includeExisting options)).sent := rfl
  have pushed := Course.pushed_run fresh moves
  rw [World.initialEvents, if_pos existing] at flow
  obtain ⟨rest, member⟩ := flow.exists_append_mem absorbed name
  refine ⟨rest, ?_⟩
  have same : kinds = ((Course.start (before.world.subscription catalog subscriber includeExisting
      options)).run moves).sent.filterMap (Event.kindOf? name) := by
    rw [← pushed, ← tracks.pushed_eq]
  rw [same]
  simpa using member

theorem lifecycle_replaced :
    let inOrder : Visiting := ⟨fun visits => visits, fun _ => .refl _⟩
    let visible : Access := ⟨.ofNames ["u"], ∅⟩
    let catalog : Catalog Unit := (Catalog.empty.mutate (.setAccess "a" visible)).1
    let before := origin.run [.upsert (.active "a"), .perform inOrder (.setAccess "a" visible)]
    let later : List Action := [.poll 1, .perform inOrder (.forget "a"),
      .perform inOrder (.setAccess "a" visible), .perform inOrder (.touch "a"), .poll 1]
    let now := (before.next (.subscribe ⟨"u", []⟩ (some true) ⟨4, 4, false⟩)).run later
    let kinds := (now.pushed 1).filterMap (Event.kindOf? "a")
    before.world.host = .real catalog ∧
      (before.world.subscribe ⟨"u", []⟩ (some true) ⟨4, 4, false⟩).1 = .ok 1 ∧
      kinds = [.added, .deleted, .added, .modified] ∧ ∃ rest, kinds ++ rest ∈ presence∗ := by
  intro inOrder visible catalog before later now kinds
  have host : before.world.host = .real catalog := rfl
  have hopen : before.world.subscribe ⟨"u", []⟩ (some true) ⟨4, 4, false⟩ = (.ok 1, _, _) := rfl
  have announced : "a" ∉ leftOut before.world.lookup (catalog.visible ⟨"u", []⟩) := by decide
  have held := lifecycle host hopen rfl later "a"
  dsimp only at held
  rw [if_neg announced] at held
  exact ⟨host, rfl, by decide, held⟩

/-- A project that cannot be resolved at first is modified without ever having been announced. -/
theorem lifecycle_unannounced :
    let inOrder : Visiting := ⟨fun visits => visits, fun _ => .refl _⟩
    let visible : Access := ⟨.ofNames ["u"], ∅⟩
    let before := origin.run [.perform inOrder (.setAccess "a" visible)]
    let later : List Action := [.upsert (.active "a"), .perform inOrder (.touch "a"), .poll 1]
    let now := (before.next (.subscribe ⟨"u", []⟩ (some true) ⟨4, 4, false⟩)).run later
    let kinds := (now.pushed 1).filterMap (Event.kindOf? "a")
    (before.world.subscribe ⟨"u", []⟩ (some true) ⟨4, 4, false⟩).1 = .ok 1 ∧
      kinds = [.modified] ∧ ¬ ∃ rest, kinds ++ rest ∈ presence∗ := by
  intro inOrder visible before later now kinds
  have told : kinds = [.modified] := by decide
  refine ⟨rfl, told, ?_⟩
  rintro ⟨rest, member⟩
  rw [told] at member
  cases head?_of_mem_kstar member

end Subscribed

end History
end AccessFeed
