import AccessFeed.Proofs.Edit
import AccessFeed.Proofs.Incident
import AccessFeed.Proofs.Monitor
import AccessFeed.Proofs.Request

/-! Names that cannot be resolved. Handing a watch a change of such a name is told and counted, and
in all else it is as if it had not been done. A watch that is opened meanwhile starts without the
projects of such names, and knows the names all the same. -/
namespace AccessFeed

section Trace

variable {σ τ α : Type} (next : σ → τ → σ)

/-- The steps of a run, each with the state that it meets. -/
def trace : σ → List τ → List (σ × τ)
  | _, [] => []
  | state, step :: rest => (state, step) :: trace (next state step) rest

/-- The steps of a run without those that are idle in the state that they meet. -/
def kept (idle : σ → τ → Bool) (state : σ) (steps : List τ) : List τ :=
  ((trace next state steps).filter fun met => !idle met.1 met.2).map Prod.snd

/-- Under an invariant, idle steps leave the state as it is. -/
structure IsIdle (invariant : σ → Prop) (idle : σ → τ → Bool) : Prop where
  keeps : ∀ {state : σ}, invariant state → ∀ step, invariant (next state step)
  noop : ∀ {state : σ} {step : τ}, invariant state → idle state step = true →
    next state step = state

variable {next} {invariant : σ → Prop} {idle : σ → τ → Bool}

theorem kept_cons_of_idle {state : σ} {step : τ} (h : idle state step = true) (rest : List τ) :
    kept next idle state (step :: rest) = kept next idle (next state step) rest := by
  simp [kept, trace, h]

theorem kept_cons_of_not {state : σ} {step : τ} (h : idle state step = false) (rest : List τ) :
    kept next idle state (step :: rest) = step :: kept next idle (next state step) rest := by
  simp [kept, trace, h]

variable (idles : IsIdle next invariant idle)

include idles

/-- Without the idle steps, every other step meets the state that it would have met with them, and
the last state is the same. -/
theorem trace_kept {state : σ} (h : invariant state) (steps : List τ) :
    trace next state (kept next idle state steps) =
        (trace next state steps).filter (fun met => !idle met.1 met.2) ∧
      (kept next idle state steps).foldl next state = steps.foldl next state := by
  induction steps generalizing state with
  | nil => exact ⟨rfl, rfl⟩
  | cons step rest ih =>
    obtain ⟨traced, last⟩ := ih (idles.keeps h step)
    cases spared : idle state step with
    | true =>
      -- The rest of the run begins where the idle step began.
      have same := idles.noop h spared
      rw [kept_cons_of_idle spared, trace, List.foldl_cons]
      rw [same] at traced last ⊢
      exact ⟨by simpa [spared] using traced, last⟩
    | false =>
      rw [kept_cons_of_not spared, trace, trace, List.foldl_cons, List.foldl_cons]
      exact ⟨by simpa [spared] using traced, last⟩

theorem invariant_of_mem_trace {state : σ} (h : invariant state) {steps : List τ} {met : σ × τ}
    (member : met ∈ trace next state steps) : invariant met.1 := by
  induction steps generalizing state with
  | nil => cases member
  | cons step rest ih =>
    obtain rfl | later := List.mem_cons.mp member
    · exact h
    · exact ih (idles.keeps h step) later

/-- What idle steps do not tell is told all the same without them. -/
theorem flatMap_trace_kept (tell : σ → τ → List α) {state : σ} (h : invariant state)
    (silent : ∀ {state : σ} {step : τ}, invariant state → idle state step = true →
      tell state step = []) (steps : List τ) :
    ((trace next state (kept next idle state steps)).flatMap fun met => tell met.1 met.2) =
      (trace next state steps).flatMap fun met => tell met.1 met.2 := by
  induction steps generalizing state with
  | nil => rfl
  | cons step rest ih =>
    have later := ih (idles.keeps h step)
    cases spared : idle state step with
    | true =>
      rw [idles.noop h spared] at later
      rw [kept_cons_of_idle spared, idles.noop h spared, later]
      simp [trace, silent h spared, idles.noop h spared]
    | false =>
      rw [kept_cons_of_not spared]
      simp [trace, later]

end Trace

namespace Watch

/-- A change that cannot be resolved is told, and the watch does not change. -/
theorem handle_of_unresolved {watch : Watch} {lookup : Lookup} {change : AccessChange}
    {cause : LookupError} (h : watch.unresolved? lookup change = some cause) :
    watch.handle lookup change =
      (watch, [.note (.asked change.name false),
        .note (.changeSkipped watch.id change.name cause)]) := by
  unfold unresolved? at h
  split at h
  · rename_i granted unresolved
    obtain rfl := Option.some.inj h
    simp [handle, granted, grant, unresolved]
  · cases h

end Watch

/-- Nothing is read off the notices of names that were asked for and changes that were skipped. -/
def Notice.DisregardsLookups {α : Type} (select : Notice → Option α) : Prop :=
  (∀ name resolved, select (.asked name resolved) = none) ∧
    ∀ id name cause, select (.changeSkipped id name cause) = none

/-- Something that happens to a state: a party acts, or a change is handed to a watch while names
are resolved in a way of their own. -/
inductive Happening where
  | action (action : Action)
  | call (id : WatchId) (lookup : Lookup) (change : AccessChange)

namespace World

variable {world : World} {id : WatchId} {happening : Happening}

/-- The state after something happened, and what was told. -/
def happen (world : World) : Happening → World × List Notice
  | .action action => world.enact action
  | .call id lookup change => world.act id (·.handle lookup change)

def next (world : World) (happening : Happening) : World := (world.happen happening).1

/-- The change that is handed to a watch, and how names are resolved meanwhile. -/
def call? (world : World) : Happening → Option (WatchId × Lookup × AccessChange)
  | .call id lookup change => some (id, lookup, change)
  | .action (.handle id change) =>
    if world.handlers.contains id then some (id, world.lookup, change) else none
  | .action _ => none

/-- The watch that is handed a change which it cannot resolve, the name and the cause. -/
def missed? (world : World) (happening : Happening) : Option (WatchId × String × LookupError) :=
  (world.call? happening).bind fun (id, lookup, change) =>
    world.watches[id]?.bind fun watch =>
      (watch.unresolved? lookup change).map fun cause => (id, change.name, cause)

/-- A change is handed to a watch which it cannot resolve. -/
def misses (world : World) (happening : Happening) : Bool := (world.missed? happening).isSome

theorem happen_of_call {lookup : Lookup} {change : AccessChange}
    (called : world.call? happening = some (id, lookup, change)) :
    world.happen happening = world.act id (·.handle lookup change) := by
  cases happening with
  | call other given handed =>
    cases called
    rfl
  | action action =>
    cases action with
    | handle other handed =>
      simp only [call?] at called
      split at called
      · rename_i held
        cases called
        rw [happen, enact, if_pos held]
        rfl
      · cases called
    | _ => cases called

/-- The state stays as it is when a change cannot be resolved, and just that is told. -/
theorem happen_of_missed (coherent : world.Coherent) (queued : world.Queued) {name : String}
    {cause : LookupError} (missed : world.missed? happening = some (id, name, cause)) :
    world.happen happening = (world, [.asked name false, .changeSkipped id name cause]) := by
  simp only [missed?, Option.bind_eq_some_iff, Option.map_eq_some_iff, Prod.mk.injEq] at missed
  obtain ⟨⟨_, lookup, change⟩, called, watch, found, _, unresolved, rfl, rfl, rfl⟩ := missed
  rw [happen_of_call called, act, found]
  dsimp only
  rw [Watch.handle_of_unresolved unresolved, put_self queued found, coherent.id_eq _ watch found]
  rfl

/-- The event that a consumer gets then. -/
def got? (world : World) : Happening → Option (WatchId × Event)
  | .action action => world.delivery? action
  | .call .. => none

theorem got?_of_misses (misses : world.misses happening = true) : world.got? happening = none := by
  cases happening with
  | call other lookup change => rfl
  | action action =>
    cases action with
    | take other => simp [World.misses, missed?, call?] at misses
    | _ => rfl

theorem Coherent.next (h : world.Coherent) (happening : Happening) :
    (world.next happening).Coherent := by
  cases happening with
  | action action => exact h.enact action
  | call id lookup change => exact h.act (fun watch => id_handle watch _ _) id

theorem Queued.next (h : world.Queued) (happening : Happening) :
    (world.next happening).Queued := by
  cases happening with
  | action action => exact h.enact action
  | call id lookup change => exact (edits_act world id _).induction Queued.edit h

theorem isIdle_misses :
    IsIdle World.next (fun world => world.Coherent ∧ world.Queued) World.misses where
  keeps h happening := ⟨h.1.next happening, h.2.next happening⟩
  noop h misses := by
    obtain ⟨⟨id, name, cause⟩, missed⟩ := Option.isSome_iff_exists.mp misses
    rw [World.next, happen_of_missed h.1 h.2 missed]

/-- Every state that comes of one without watches is coherent, and what is due in it is in line. -/
theorem coherent_queued (host : Host) (happenings : List Happening) :
    (happenings.foldl World.next (fresh host)).Coherent ∧
      (happenings.foldl World.next (fresh host)).Queued := by
  refine List.foldlRecOn (motive := fun world : World => world.Coherent ∧ world.Queued)
    happenings _ ⟨?_, ?_⟩ fun world kept happening _ => isIdle_misses.keeps kept happening
  · constructor <;> simp [fresh]
  · intro id watch present
    simp [fresh] at present

/-- What is told while one thing happens after another. -/
def tale (world : World) (happenings : List Happening) : List Notice :=
  (trace World.next world happenings).flatMap fun met => (met.1.happen met.2).2

/-- The events that consumers get meanwhile, oldest first. -/
def gains (world : World) (happenings : List Happening) : List (WatchId × Event) :=
  (trace World.next world happenings).flatMap fun met => (met.1.got? met.2).toList

/-- What a change that cannot be resolved adds to what a monitor keeps. -/
theorem observeAll_missed (monitor : Monitor) (id : WatchId) (name : String)
    (cause : LookupError) :
    monitor.observeAll [.asked name false, .changeSkipped id name cause] =
      { monitor with
        metrics := { monitor.metrics with
          lookupFailures := monitor.metrics.lookupFailures + 1 }
        journal := monitor.journal ++ [⟨.warn, "skipping membership change",
          [("watcher_id", .count id), ("namespace", .text name), ("error", .text cause.message)]⟩]
        questions := monitor.questions ++ [name] } := rfl

/-- What is read off the notices of anything but lookups is the same without the changes that could
not be resolved. -/
theorem filterMap_tale_kept {α : Type} {select : Notice → Option α}
    (disregards : Notice.DisregardsLookups select)
    (coherent : world.Coherent) (queued : world.Queued) (happenings : List Happening) :
    (world.tale (kept World.next World.misses world happenings)).filterMap select =
      (world.tale happenings).filterMap select := by
  simp only [tale, List.filterMap_flatMap]
  refine flatMap_trace_kept isIdle_misses (fun world happening =>
    (world.happen happening).2.filterMap select) ⟨coherent, queued⟩ ?_ happenings
  intro state step invariant misses
  obtain ⟨⟨id, name, cause⟩, missed⟩ := Option.isSome_iff_exists.mp misses
  simp [happen_of_missed invariant.1 invariant.2 missed, disregards.1, disregards.2]

theorem gains_kept (coherent : world.Coherent) (queued : world.Queued)
    (happenings : List Happening) :
    world.gains (kept World.next World.misses world happenings) = world.gains happenings := by
  refine flatMap_trace_kept isIdle_misses (fun world happening => (world.got? happening).toList)
    ⟨coherent, queued⟩ ?_ happenings
  intro state step _ misses
  simp [got?_of_misses misses]

end World

namespace Glimpse

/-- The name that a watch cannot resolve when it is touched, with the cause. -/
def missed? (glimpse : Glimpse) : Touch → Option (String × LookupError)
  | .handle lookup change =>
    glimpse.watch?.bind fun watch =>
      (watch.unresolved? lookup change).map fun cause => (change.name, cause)
  | _ => none

/-- A watch is handed a change which it cannot resolve. -/
def misses (glimpse : Glimpse) (touch : Touch) : Bool := (glimpse.missed? touch).isSome

theorem after_of_missed {glimpse : Glimpse} {touch : Touch} {name : String} {cause : LookupError}
    (missed : glimpse.missed? touch = some (name, cause)) :
    glimpse.after touch = glimpse ∧ ∃ watch, glimpse.watch? = some watch ∧
      Effect.notices (glimpse.effects touch) =
        [.asked name false, .changeSkipped watch.id name cause] := by
  cases touch with
  | handle lookup change =>
    simp only [missed?, Option.bind_eq_some_iff, Option.map_eq_some_iff, Prod.mk.injEq] at missed
    obtain ⟨watch, found, _, unresolved, rfl, rfl⟩ := missed
    have handled := Watch.handle_of_unresolved unresolved
    refine ⟨?_, watch, found, ?_⟩
    · have same : glimpse.put watch = glimpse := by rw [put, ← found]
      simp [after, act, found, handled, same]
    · simp [effects, found, handled]
  | _ => cases missed

theorem isIdle_misses : IsIdle after (fun _ => True) misses where
  keeps _ _ := trivial
  noop _ misses := by
    obtain ⟨⟨name, cause⟩, missed⟩ := Option.isSome_iff_exists.mp misses
    exact (after_of_missed missed).1

/-- What a watch tells while it is touched one time after another. -/
def tale (glimpse : Glimpse) (touches : List Touch) : List Notice :=
  (trace after glimpse touches).flatMap fun met => Effect.notices (met.1.effects met.2)

theorem filterMap_tale_kept {α : Type} {select : Notice → Option α}
    (disregards : Notice.DisregardsLookups select)
    (glimpse : Glimpse) (touches : List Touch) :
    (glimpse.tale (kept after misses glimpse touches)).filterMap select =
      (glimpse.tale touches).filterMap select := by
  simp only [tale, List.filterMap_flatMap]
  refine flatMap_trace_kept isIdle_misses (fun glimpse touch =>
    (Effect.notices (glimpse.effects touch)).filterMap select) trivial ?_ touches
  intro state step _ misses
  obtain ⟨⟨name, cause⟩, missed⟩ := Option.isSome_iff_exists.mp misses
  obtain ⟨-, watch, -, told⟩ := after_of_missed missed
  simp [told, disregards.1, disregards.2]

end Glimpse

namespace World

variable {world : World} {id : WatchId}

/-- What something that happens means to one watch. -/
def touchOf (world : World) (id : WatchId) : Happening → Touch
  | .action action => world.touch id action
  | .call other lookup change => if other = id then .handle lookup change else .none

theorem nextId_le_next (world : World) (happening : Happening) :
    world.nextId ≤ (world.next happening).nextId := by
  cases happening with
  | action action => exact nextId_le_enact world action
  | call other lookup change =>
    exact Nat.le_of_eq (edits_act world other _).constant.1.symm

theorem glimpse_next (h : id < world.nextId) (happening : Happening) :
    (world.next happening).glimpse id = (world.glimpse id).after (world.touchOf id happening) := by
  cases happening with
  | action action => exact glimpse_enact h action
  | call other lookup change =>
    refine glimpse_aimed ?_ fun ne => glimpse_act_of_ne ne world _
    rintro rfl
    exact glimpse_act world other _

/-- What things that happen one after another mean to one watch. -/
def touchesOf (world : World) (id : WatchId) (happenings : List Happening) : List Touch :=
  (trace World.next world happenings).map fun met => met.1.touchOf id met.2

theorem glimpse_foldl_next (h : id < world.nextId) (happenings : List Happening) :
    (happenings.foldl World.next world).glimpse id =
      (world.touchesOf id happenings).foldl Glimpse.after (world.glimpse id) := by
  induction happenings generalizing world with
  | nil => rfl
  | cons happening rest ih =>
    have later := ih (Nat.lt_of_lt_of_le h (nextId_le_next world happening))
    rw [List.foldl_cons, later, glimpse_next h]
    rfl

theorem about_happen (h : world.Coherent) (happening : Happening) (id : WatchId) :
    Notice.about id (world.happen happening).2 = Notice.about id (Effect.notices
      ((world.glimpse id).effects (world.touchOf id happening))) := by
  cases happening with
  | action action => exact about_enact h action id
  | call other lookup change =>
    refine @about_acting world h world rfl other (.handle lookup change) (·.handle lookup change)
      (fun watch found => ?_) id
    have held : (world.glimpse other).watch? = some watch := found
    rw [Glimpse.effects, held]
    rfl

/-- What is told of a watch is what the watch tells. -/
theorem about_tale (h : world.Coherent) (bound : id < world.nextId)
    (happenings : List Happening) :
    Notice.about id (world.tale happenings) =
      Notice.about id ((world.glimpse id).tale (world.touchesOf id happenings)) := by
  induction happenings generalizing world with
  | nil => rfl
  | cons happening rest ih =>
    have later := ih (h.next happening)
      (Nat.lt_of_lt_of_le bound (nextId_le_next world happening))
    rw [glimpse_next bound] at later
    simp only [tale, touchesOf, Glimpse.tale, trace, List.flatMap_cons, List.map_cons,
      Notice.about_append] at later ⊢
    rw [later, about_happen h]

end World

/-- The record that tells of a listed name that was left out of what a watch starts with. -/
def leftOutRecord? (user : String) : String × Answer → Option LogRecord
  | (_, .ok _) => none
  | (name, .error cause) => some ⟨.warn, "leaving namespace out of initial snapshot",
      [("user", .text user), ("namespace", .text name), ("error", .text cause.message)]⟩

/-- Every listed name is asked for as often as it is listed, and each time that it cannot be resolved
is counted and recorded. -/
theorem observeAll_snapshot (monitor : Monitor) (user : String)
    (listing : List (String × Answer)) :
    monitor.observeAll (snapshot user listing).2 =
      { monitor with
        metrics := { monitor.metrics with
          lookupFailures := monitor.metrics.lookupFailures +
            listing.countP fun entry => entry.2.toOption.isNone }
        journal := monitor.journal ++ listing.filterMap (leftOutRecord? user)
        questions := monitor.questions ++ listing.map Prod.fst } := by
  induction listing generalizing monitor with
  | nil => simp [snapshot, Monitor.observeAll]
  | cons entry rest ih =>
    obtain ⟨name, answer⟩ := entry
    rw [snapshot]
    cases answer with
    | ok object =>
      simp only [Monitor.observeAll_cons, ih]
      simp [Monitor.observe, List.filterMap_cons, leftOutRecord?, Except.toOption]
    | error cause =>
      simp only [Monitor.observeAll_cons, ih]
      simp [Monitor.observe, Monitor.count, Monitor.log, Notice.record?, leftOutRecord?,
        Except.toOption, Nat.add_assoc, Nat.add_comm 1]

/-- A new watch knows all that was listed, starts with what of it was resolved, if it includes what
exists, and nothing is told but of the names that were asked for and of the watch itself. -/
theorem Watch.ofListing_eq (id : WatchId) (subscriber : Subscriber) (options : WatchOptions)
    (includes : Bool) (listing : List (String × Answer)) :
    let (watch, notices) := ofListing id subscriber options includes listing
    let asked := if includes then listing else []
    watch.known = .ofNames (listing.map Prod.fst) ∧
      watch.phase = .replaying
        (asked.filterMap fun entry => entry.2.toOption.map Namespace.project) ∧
      notices = (snapshot subscriber.name asked).2 ++
        [.created id subscriber.name watch.known.size (snapshot subscriber.name asked).1.length
          options.bufferSize] := by
  cases includes with
  | false => exact ⟨rfl, rfl, rfl⟩
  | true => exact ⟨rfl, congrArg Phase.replaying (snapshot_eq subscriber.name listing), rfl⟩

namespace World

/-- What is told while a request is met: the warnings about its options, then what concerns the
names that are looked up, then nothing of lookups. -/
theorem told_build {world : World} {request : Request} {id : WatchId} {names : List String}
    (met : (world.build request).1 = .ok id)
    (listed : world.host.list request.subscriber = .ok names) :
    ∃ rest, (world.build request).2.2 = request.options.warnings ++
        (world.replay request.subscriber request.includeExisting request.options names).2 ++ rest ∧
      ∀ notice ∈ rest, notice.isCalm = true := by
  have opened : (world.openWatch request.subscriber request.includeExisting
      request.options).1.toOption = some id := by
    rw [← result_build, met]
    rfl
  obtain ⟨-, _, notices, success⟩ := openWatch_of_opened opened
  obtain ⟨names', -, -, listed', -, after, told⟩ := openWatch_eq_ok_iff.mp success
  obtain rfl : names' = names := Except.ok.inj (listed'.symm.trans listed)
  unfold build
  split
  · rw [subscribe, success, told]
    refine ⟨_ :: (register _ world.nextId).2, List.append_assoc .., ?_⟩
    rw [List.forall_mem_cons]
    refine ⟨rfl, fun notice member => ?_⟩
    unfold register at member
    generalize World.host _ = host at member
    cases host with
    | real catalog =>
      simp only [Host.register, Catalog.register, List.mem_singleton] at member
      exact member ▸ rfl
    | _ => cases member
  · rw [success, told]
    refine ⟨_, rfl, ?_⟩
    simp [Notice.isCalm]

end World

/-- A change that a watch cannot resolve shows in one record, one count and the question asked, and
nowhere else: without all such changes the same states are met by all that else happens, at the end
too, and the same is told of it; so it is as well for one watch and all that comes to it. A watch
that is opened knows what was listed, whatever is answered each time that a name on the list is asked
for, and starts with what was resolved. -/
theorem unresolved_invisible :
    (∀ (host : Host) (happenings : List Happening),
      (happenings.foldl World.next (.fresh host)).Coherent ∧
        (happenings.foldl World.next (.fresh host)).Queued) ∧
    (∀ world : World, world.Coherent → world.Queued → ∀ happenings : List Happening,
      let kept := kept World.next World.misses world happenings
      kept.foldl World.next world = happenings.foldl World.next world ∧
      trace World.next world kept =
        (trace World.next world happenings).filter (fun met => !met.1.misses met.2) ∧
      (∀ (α : Type) (select : Notice → Option α), Notice.DisregardsLookups select →
        (world.tale kept).filterMap select = (world.tale happenings).filterMap select) ∧
      world.gains kept = world.gains happenings ∧
      ∀ met ∈ trace World.next world happenings, ∀ id name cause,
        met.1.missed? met.2 = some (id, name, cause) →
        met.1.next met.2 = met.1 ∧ met.1.got? met.2 = none ∧
        ∀ monitor : Monitor, monitor.observeAll (met.1.happen met.2).2 =
          { monitor with
            metrics := { monitor.metrics with
              lookupFailures := monitor.metrics.lookupFailures + 1 }
            journal := monitor.journal ++ [⟨.warn, "skipping membership change",
              [("watcher_id", .count id), ("namespace", .text name),
                ("error", .text cause.message)]⟩]
            questions := monitor.questions ++ [name] }) ∧
    (∀ (world : World) (id : WatchId), world.Coherent → id < world.nextId →
      ∀ happenings : List Happening,
      let touches := world.touchesOf id happenings
      let kept := kept Glimpse.after Glimpse.misses (world.glimpse id) touches
      kept.foldl Glimpse.after (world.glimpse id) =
        (happenings.foldl World.next world).glimpse id ∧
      (∀ (α : Type) (select : Notice → Option α), Notice.DisregardsLookups select →
        (Notice.about id ((world.glimpse id).tale kept)).filterMap select =
          (Notice.about id (world.tale happenings)).filterMap select) ∧
      ∀ met ∈ trace Glimpse.after (world.glimpse id) touches, ∀ name cause,
        met.1.missed? met.2 = some (name, cause) →
        met.1.after met.2 = met.1 ∧ ∃ watch, met.1.watch? = some watch ∧
          Effect.notices (met.1.effects met.2) =
            [.asked name false, .changeSkipped watch.id name cause]) ∧
    (∀ (world : World) (request : Request) (id : WatchId), (world.build request).1 = .ok id →
      let includes := request.includeExisting.getD request.options.includeExisting
      ∃ names, world.host.list request.subscriber = .ok names ∧
      (∃ watch, (world.build request).2.1.watches[id]? = some watch ∧
        watch.known = .ofNames names ∧
        watch.phase = .replaying (if includes then
          names.filterMap fun name => (world.lookup name).toOption.map Namespace.project else [])) ∧
      ∃ rest, (world.build request).2.2 = request.options.warnings ++
          (if includes then
            (snapshot request.subscriber.name (world.lookup.answers names)).2
          else []) ++ rest ∧
        ∀ notice ∈ rest, notice.isCalm = true) ∧
    (∀ (id : WatchId) (subscriber : Subscriber) (options : WatchOptions) (includes : Bool)
      (listing : List (String × Answer)),
      let (watch, notices) := Watch.ofListing id subscriber options includes listing
      let asked := if includes then listing else []
      watch.known = .ofNames (listing.map Prod.fst) ∧
        watch.phase = .replaying
          (asked.filterMap fun entry => entry.2.toOption.map Namespace.project) ∧
        notices = (snapshot subscriber.name asked).2 ++
          [.created id subscriber.name watch.known.size (snapshot subscriber.name asked).1.length
            options.bufferSize]) ∧
    ∀ (user : String) (listing : List (String × Answer)),
      (snapshot user listing).1 =
        listing.filterMap (fun entry => entry.2.toOption.map Namespace.project) ∧
      ∀ monitor : Monitor, monitor.observeAll (snapshot user listing).2 =
        { monitor with
          metrics := { monitor.metrics with
            lookupFailures := monitor.metrics.lookupFailures +
              listing.countP fun entry => entry.2.toOption.isNone }
          journal := monitor.journal ++ listing.filterMap (leftOutRecord? user)
          questions := monitor.questions ++ listing.map Prod.fst } := by
  refine ⟨World.coherent_queued, ?_, ?_, ?_, Watch.ofListing_eq, ?_⟩
  · intro world coherent queued happenings kept
    obtain ⟨traced, last⟩ := trace_kept World.isIdle_misses ⟨coherent, queued⟩ happenings
    refine ⟨last, traced, ?_, World.gains_kept coherent queued happenings, ?_⟩
    · intro α select disregards
      exact World.filterMap_tale_kept disregards coherent queued happenings
    · intro met member id name cause missed
      obtain ⟨coherent, queued⟩ :=
        invariant_of_mem_trace World.isIdle_misses ⟨coherent, queued⟩ member
      have silent := World.got?_of_misses (Option.isSome_iff_exists.mpr ⟨_, missed⟩)
      have told := World.happen_of_missed coherent queued missed
      refine ⟨congrArg Prod.fst told, silent, fun monitor => ?_⟩
      rw [told]
      exact World.observeAll_missed monitor id name cause
  · intro world id coherent bound happenings touches kept
    obtain ⟨-, last⟩ := @trace_kept _ _ _ _ _ Glimpse.isIdle_misses (world.glimpse id) trivial
      touches
    refine ⟨last.trans (World.glimpse_foldl_next bound happenings).symm, ?_, ?_⟩
    · intro α select disregards
      rw [World.about_tale coherent bound, Notice.about, Notice.about, List.filterMap_filter,
        List.filterMap_filter]
      refine Glimpse.filterMap_tale_kept ⟨?_, ?_⟩ (world.glimpse id) touches
      · simp [disregards.1]
      · simp [disregards.2]
    · intro met _ name cause missed
      exact Glimpse.after_of_missed missed
  · intro world request id met includes
    obtain ⟨names, listed, watch, found, -, known, phase⟩ := World.exists_watch_of_built met
    obtain ⟨rest, told, calm⟩ := World.told_build met listed
    refine ⟨names, listed, ⟨watch, found, known, ?_⟩, rest, ?_, calm⟩
    · rw [phase, World.replay]
      split
      · rw [snapshot_eq, Lookup.answers, List.filterMap_map]
        rfl
      · rfl
    · rw [told, World.replay]
      split <;> rfl
  · intro user listing
    exact ⟨snapshot_eq user listing, fun monitor => observeAll_snapshot monitor user listing⟩

theorem unresolved_invisible_interleaved :
    let found : Lookup := fun name => .ok (.active name)
    let lost : Lookup := fun _ => .error (.unavailable "down")
    let call (lookup : Lookup) : Happening :=
      .call 1 lookup (.between "a" .nobody ⟨.ofNames ["u"], ∅⟩)
    let opening : Happening := .action (.openWatch ⟨"u", []⟩ none ⟨1, 1, false⟩)
    let world := World.fresh (.real .empty)
    let happenings := [opening, call lost, call found, .action (.poll 1), call lost, call found]
    let resolved := [opening, call found, .action (.poll 1), call found]
    let begun := world.next (.action (.subscribe ⟨"u", []⟩ none ⟨1, 1, false⟩))
    let handedOut : Happening := .action (.perform ⟨fun visits => visits, fun _ => .refl _⟩
      (.setAccess "a" ⟨.ofNames ["u"], ∅⟩))
    let listing := World.fresh (.double ⟨.ok ["b", "a", "b"], [], []⟩)
    let partly := (listing.upsert (.active "b")).2.1
    let answers : List (String × Answer) := [("a", found "a"), ("a", lost "a"), ("b", lost "b")]
    resolved.foldl World.next world = happenings.foldl World.next world ∧
      (world.tale resolved).filterMap (Notice.accepted? 1) =
        (world.tale happenings).filterMap (Notice.accepted? 1) ∧
      world.gains resolved = world.gains happenings ∧
      (∃ met ∈ trace World.next world happenings,
        met.1.missed? met.2 = some (1, "a", .unavailable "down") ∧ met.1.next met.2 = met.1) ∧
      (begun.glimpse 1).after .poll =
        ([handedOut, .action (.poll 1)].foldl World.next begun).glimpse 1 ∧
      (∃ watch, (partly.build ⟨⟨"u", []⟩, some true, ⟨1, 1, false⟩, false⟩).2.1.watches[1]? =
          some watch ∧
        watch.known = .ofNames ["b", "a", "b"] ∧
        watch.phase = .replaying [(Namespace.active "b").project,
          (Namespace.active "b").project]) ∧
      (Watch.ofListing 1 ⟨"u", []⟩ ⟨1, 1, false⟩ true answers).1.known = .ofNames ["a", "a", "b"] ∧
      (Watch.ofListing 1 ⟨"u", []⟩ ⟨1, 1, false⟩ true answers).1.phase =
        .replaying [(Namespace.active "a").project] := by
  intro found lost call opening world happenings resolved begun handedOut listing partly answers
  obtain ⟨coherent, queued⟩ := unresolved_invisible.1 (.real .empty) []
  have spared : kept World.next World.misses world happenings = resolved := by
    rw [kept_cons_of_not (by decide +kernel), kept_cons_of_idle (by decide +kernel),
      kept_cons_of_not (by decide +kernel), kept_cons_of_not (by decide +kernel),
      kept_cons_of_idle (by decide +kernel), kept_cons_of_not (by decide +kernel)]
    rfl
  have law := unresolved_invisible.2.1 world coherent queued happenings
  rw [spared] at law
  obtain ⟨last, -, told, gained, each⟩ := law
  have disregards : Notice.DisregardsLookups (Notice.accepted? 1) :=
    ⟨fun _ _ => rfl, fun _ _ _ => rfl⟩
  have second : (trace World.next world happenings)[1]? = some (world.next opening, call lost) := by
    rfl
  have missed : (world.next opening).missed? (call lost) =
      some (1, "a", .unavailable "down") := by decide +kernel
  have member := List.mem_of_getElem? second
  have touches : begun.touchesOf 1 [handedOut, .action (.poll 1)] =
      [begun.touchOf 1 handedOut, .poll] := by rfl
  have left : kept Glimpse.after Glimpse.misses (begun.glimpse 1)
      [begun.touchOf 1 handedOut, .poll] = [.poll] := by
    rw [kept_cons_of_idle (by decide +kernel), kept_cons_of_not (by rfl)]
    rfl
  have alone := (unresolved_invisible.2.2.1 begun 1 (coherent.next _) (by decide)
    [handedOut, .action (.poll 1)]).1
  rw [touches, left] at alone
  have met : (partly.build ⟨⟨"u", []⟩, some true, ⟨1, 1, false⟩, false⟩).1 = .ok 1 := by rfl
  obtain ⟨names, listed, ⟨watch, present, known, phase⟩, -⟩ :=
    unresolved_invisible.2.2.2.1 partly _ 1 met
  obtain rfl : ["b", "a", "b"] = names := Except.ok.inj listed
  obtain ⟨all, some, -⟩ :=
    unresolved_invisible.2.2.2.2.1 1 ⟨"u", []⟩ ⟨1, 1, false⟩ true answers
  exact ⟨last, told _ _ disregards, gained,
    ⟨_, member, missed, (each _ member 1 "a" _ missed).1⟩, alone,
    ⟨watch, present, known, phase⟩, all, some⟩

end AccessFeed
