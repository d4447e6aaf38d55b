import AccessFeed.Proofs.History.Known
import AccessFeed.Proofs.Told

/-! What goes wrong in a run: a name cannot be resolved, or an event meets a full intake.

Both are read off the states before the actions. `History.incidents_run` says that each such
incident is told when it happens, once, and that no other is told. -/
namespace AccessFeed

/-- Something that goes wrong while a watch is opened or is handed a change. -/
inductive Incident where
  /-- A change was of a namespace that could not be resolved. -/
  | skipped (id : WatchId) (name : String) (cause : LookupError)
  /-- A listed namespace could not be resolved when a watch was opened. -/
  | leftOut (user name : String) (cause : LookupError)
  /-- An event met a full intake. -/
  | rejected (id : WatchId) (user : String) (event : Event)
  deriving DecidableEq

/-- The incident is a lookup that failed. -/
def Incident.isUnresolved : Incident → Bool
  | .rejected .. => false
  | _ => true

namespace Notice

/-- The incident that a notice tells of. -/
def incident? : Notice → Option Incident
  | .changeSkipped id name cause => some (.skipped id name cause)
  | .snapshotSkipped user name cause => some (.leftOut user name cause)
  | .overflowed id user event => some (.rejected id user event)
  | _ => none

/-- The incidents that are told of, oldest first. -/
def incidents (notices : List Notice) : List Incident := notices.filterMap incident?

/-- The directory was asked for a name and could not resolve it. -/
def isMiss : Notice → Bool
  | .asked _ resolved => !resolved
  | _ => false

/-- Tells of no lookup and no incident. -/
def isCalm : Notice → Bool
  | .asked .. | .changeSkipped .. | .snapshotSkipped .. | .overflowed .. => false
  | _ => true

/-- As many lookups failed as there are incidents of that kind. -/
def Balanced (notices : List Notice) : Prop :=
  notices.countP isMiss = (incidents notices).countP Incident.isUnresolved

variable {notices more : List Notice}

@[simp] theorem incidents_append (first second : List Notice) :
    incidents (first ++ second) = incidents first ++ incidents second :=
  List.filterMap_append

theorem incidents_cons (notice : Notice) (rest : List Notice) :
    incidents (notice :: rest) = incidents [notice] ++ incidents rest :=
  incidents_append [notice] rest

theorem incidents_flatMap {α : Type} (items : List α) (tell : α → List Notice) :
    incidents (items.flatMap tell) = items.flatMap fun item => incidents (tell item) :=
  List.filterMap_flatMap

theorem incidents_of_isCalm (h : ∀ notice ∈ notices, notice.isCalm = true) :
    incidents notices = [] := by
  refine List.filterMap_eq_nil_iff.mpr fun notice member => ?_
  have calm := h notice member
  cases notice <;> simp_all [isCalm, incident?]

theorem balanced_of_isCalm (h : ∀ notice ∈ notices, notice.isCalm = true) : Balanced notices := by
  rw [Balanced, incidents_of_isCalm h, List.countP_nil, List.countP_eq_zero]
  intro notice member
  have calm := h notice member
  cases notice <;> simp_all [isCalm, isMiss]

theorem Balanced.append (h : Balanced notices) (h' : Balanced more) :
    Balanced (notices ++ more) := by
  rw [Balanced, List.countP_append, incidents_append, List.countP_append, h, h']

theorem balanced_flatMap {α : Type} {items : List α} {tell : α → List Notice}
    (h : ∀ item ∈ items, Balanced (tell item)) : Balanced (items.flatMap tell) := by
  induction items with
  | nil => rfl
  | cons item rest ih =>
    rw [List.forall_mem_cons] at h
    exact h.1.append (ih h.2)

end Notice

namespace Watch

/-- The event that a watch makes of a change. -/
def announced? (watch : Watch) (lookup : Lookup) (change : AccessChange) : Option Event :=
  match change.bearing watch.subscriber with
  | .granted => announcement? lookup change.name (change.name ∈ watch.known) true
  | .revoked => announcement? lookup change.name (change.name ∈ watch.known) false
  | .unaffected => none

/-- Why a change that a watch should announce cannot be resolved. -/
def unresolved? (watch : Watch) (lookup : Lookup) (change : AccessChange) : Option LookupError :=
  match change.bearing watch.subscriber, lookup change.name with
  | .granted, .error cause => some cause
  | _, _ => none

/-- The relay has not ended, and its intake has no room for a further event. -/
def isFull (watch : Watch) : Bool :=
  !watch.phase.isFinished && decide (watch.intakeLimit ≤ watch.intake.length)

/-- What goes wrong when a watch is handed a change. -/
def incidents (watch : Watch) (lookup : Lookup) (change : AccessChange) : List Incident :=
  ((watch.unresolved? lookup change).map (.skipped watch.id change.name)).toList ++
    if watch.isFull then
      ((watch.announced? lookup change).map (.rejected watch.id watch.subscriber.name)).toList
    else []

variable {watch next : Watch} {effects : List Effect}

theorem incidents_arrival {event : Event} (arrival : Arrival watch event next effects) :
    Notice.incidents (Effect.notices effects) =
      if watch.isFull then [.rejected watch.id watch.subscriber.name event] else [] := by
  cases arrival with
  | discard finished => simp [isFull, finished, Notice.incidents, Notice.incident?]
  | accept active room =>
    have fits : ¬ watch.intakeLimit ≤ watch.intake.length := Nat.not_le.mpr room
    simp [isFull, active, fits, Notice.incidents, Notice.incident?]
  | fail active full fault => simp [isFull, active, full, Notice.incidents, Notice.incident?]
  | failAgain active full fault => simp [isFull, active, full, Notice.incidents, Notice.incident?]

theorem balanced_arrival {event : Event} (arrival : Arrival watch event next effects) :
    Notice.Balanced (Effect.notices effects) := by
  cases arrival <;> rfl

/-- What goes wrong when a watch is handed a change is what the watch tells to have gone wrong. -/
theorem incidents_handle (watch : Watch) (lookup : Lookup) (change : AccessChange) :
    Notice.incidents (Effect.notices (watch.handle lookup change).2) =
        watch.incidents lookup change ∧
      Notice.Balanced (Effect.notices (watch.handle lookup change).2) := by
  have handling := watch.handling_handle lookup change
  generalize watch.handle lookup change = result at handling ⊢
  obtain ⟨next, effects⟩ := result
  dsimp only at handling ⊢
  cases handling with
  | ignore unconcerned =>
    refine ⟨?_, rfl⟩
    obtain unaffected | ⟨revoked, unknown⟩ := unconcerned
    · simp [incidents, unresolved?, announced?, unaffected, Notice.incidents]
    · simp [incidents, unresolved?, announced?, announcement?, revoked, unknown, Notice.incidents]
  | @skip cause granted unresolved =>
    have told : Notice.incidents [.asked change.name false,
        .changeSkipped watch.id change.name cause] = [.skipped watch.id change.name cause] := rfl
    refine ⟨?_, rfl⟩
    simp [incidents, unresolved?, announced?, announcement?, granted, unresolved, Except.toOption,
      told]
  | revoke revoked known arrival =>
    refine ⟨?_, balanced_arrival arrival⟩
    rw [incidents_arrival arrival]
    simp [incidents, unresolved?, announced?, announcement?, revoked, known, isFull]
  | grant granted resolved arrival =>
    have found : Notice.Balanced [.asked change.name true] := rfl
    refine ⟨?_, found.append (balanced_arrival arrival)⟩
    rw [Effect.notices_note, Notice.incidents_cons, incidents_arrival arrival]
    simp [incidents, unresolved?, announced?, announcement?, granted, resolved, Except.toOption,
      isFull, Notice.incidents, Notice.incident?]

/-- Nothing goes wrong while a relay runs. -/
theorem isCalm_poll (watch : Watch) (fed : Bool) (limit : Nat) :
    ∀ notice ∈ Effect.notices (watch.poll fed limit).2, notice.isCalm = true := by
  refine @forall_mem_poll fed (·.isCalm = true) (fun advance => ?_) (fun _ => rfl) watch limit
  cases advance <;> simp [finish, Notice.isCalm]

theorem isCalm_stop (watch : Watch) :
    ∀ notice ∈ Effect.notices watch.stop.2, notice.isCalm = true := by
  unfold stop
  split <;> simp [Notice.isCalm]

end Watch

/-- The listed names that cannot be resolved, each with the cause. -/
def missing (lookup : Lookup) (user : String) : List String → List Incident :=
  List.filterMap fun name =>
    match lookup name with
    | .ok _ => none
    | .error cause => some (.leftOut user name cause)

theorem incidents_snapshot (lookup : Lookup) (user : String) (names : List String) :
    Notice.incidents (snapshot user (lookup.answers names)).2 = missing lookup user names ∧
      Notice.Balanced (snapshot user (lookup.answers names)).2 := by
  induction names with
  | nil => exact ⟨rfl, rfl⟩
  | cons name rest ih =>
    obtain ⟨told, balanced⟩ := ih
    rw [Lookup.answers, List.map_cons, snapshot, missing, List.filterMap_cons]
    cases lookup name with
    | ok object =>
      have found : Notice.Balanced [.asked name true] := rfl
      exact ⟨told, found.append balanced⟩
    | error cause =>
      have lost : Notice.Balanced [.asked name false, .snapshotSkipped user name cause] := rfl
      exact ⟨congrArg (Incident.leftOut user name cause :: ·) told, lost.append balanced⟩

/-- What goes wrong at a watch. -/
def Glimpse.incidents (glimpse : Glimpse) : Touch → List Incident
  | .handle lookup change => glimpse.watch?.elim [] (·.incidents lookup change)
  | _ => []

theorem Glimpse.incidents_effects (glimpse : Glimpse) (touch : Touch) :
    Notice.incidents (Effect.notices (glimpse.effects touch)) = glimpse.incidents touch ∧
      Notice.Balanced (Effect.notices (glimpse.effects touch)) := by
  have quiet {told : List Notice} (calm : ∀ notice ∈ told, notice.isCalm = true) :
      Notice.incidents told = [] ∧ Notice.Balanced told :=
    ⟨Notice.incidents_of_isCalm calm, Notice.balanced_of_isCalm calm⟩
  cases touch with
  | handle lookup change =>
    unfold effects incidents
    cases glimpse.watch? with
    | none => exact ⟨rfl, rfl⟩
    | some watch => exact watch.incidents_handle lookup change
  | poll =>
    unfold effects incidents
    cases glimpse.watch? with
    | none => exact ⟨rfl, rfl⟩
    | some watch => exact quiet (watch.isCalm_poll _ _)
  | stop =>
    unfold effects incidents
    cases glimpse.watch? with
    | none => exact ⟨rfl, rfl⟩
    | some watch => exact quiet watch.isCalm_stop
  | _ => exact ⟨rfl, rfl⟩

namespace World

/-- What goes wrong in an action, in order. -/
def incidentsOf (world : World) (action : Action) : List Incident :=
  missing world.lookup (world.listing action).1 (world.listing action).2 ++
    (world.touches action).flatMap fun (id, touch) => (world.glimpse id).incidents touch

/-- What goes wrong in actions one after another, oldest first. -/
def incidents (world : World) : List Action → List Incident
  | [] => []
  | action :: rest => world.incidentsOf action ++ (world.enact action).1.incidents rest

theorem incidents_told (world : World) (action : Action) :
    Notice.incidents (world.told action) = world.incidentsOf action ∧
      Notice.Balanced (world.told action) := by
  obtain ⟨lost, balanced⟩ :=
    incidents_snapshot world.lookup (world.listing action).1 (world.listing action).2
  constructor
  · simp only [told, Notice.incidents_append, lost, Notice.incidents_flatMap, incidentsOf,
      (Glimpse.incidents_effects _ _).1]
  · exact balanced.append (Notice.balanced_flatMap fun visit _ =>
      ((world.glimpse visit.1).incidents_effects visit.2).2)

/-- Each incident of an action is told, and nothing else is told as one. -/
theorem incidents_enact (world : World) (action : Action) :
    Notice.incidents (world.enact action).2 = world.incidentsOf action ∧
      Notice.Balanced (world.enact action).2 := by
  obtain ⟨told, balanced⟩ := world.incidents_told action
  have incidents : Notice.incidents (world.enact action).2 =
      Notice.incidents (world.told action) := by
    refine filterMap_enact (fun notice clerical => ?_) world action
    cases notice <;> simp_all [Notice.isClerical, Notice.incident?]
  have misses : (world.enact action).2.countP Notice.isMiss =
      (world.told action).countP Notice.isMiss := by
    refine countP_enact (fun notice clerical => ?_) world action
    cases notice <;> simp_all [Notice.isClerical, Notice.isMiss]
  exact ⟨incidents.trans told, misses.trans (balanced.trans (congrArg _ incidents.symm))⟩

end World

/-- All incidents of a run are told, in order, and nothing else is told as one. -/
theorem History.incidents_run {history : History} (balanced : Notice.Balanced history.notices)
    (actions : List Action) :
    Notice.incidents (history.run actions).notices =
        Notice.incidents history.notices ++ history.world.incidents actions ∧
      Notice.Balanced (history.run actions).notices := by
  induction actions generalizing history with
  | nil => exact ⟨(List.append_nil _).symm, balanced⟩
  | cons action rest ih =>
    obtain ⟨told, now⟩ := history.world.incidents_enact action
    obtain ⟨later, last⟩ := @ih (history.next action) (balanced.append now)
    refine ⟨?_, last⟩
    rw [run_cons, later, World.incidents, next, Notice.incidents_append, told, List.append_assoc]

example :
    let inOrder : Visiting := ⟨fun visits => visits, fun _ => .refl _⟩
    let grant (name : String) : Action :=
      .perform inOrder (.setAccess name ⟨.ofNames ["u"], ∅⟩)
    (World.fresh (.real .empty)).incidents [.upsert (.active "a"), grant "a", grant "b",
      .subscribe ⟨"u", []⟩ (some true) ⟨1, 1, false⟩, grant "b", grant "a", grant "a"] =
      [.leftOut "u" "b" (.notFound "b"), .skipped 1 "b" (.notFound "b"),
        .rejected 1 "u" (.modified (Namespace.active "a").project)] := by
  decide

end AccessFeed
