import AccessFeed.Proofs.Holder
import AccessFeed.Proofs.Line
import AccessFeed.Proofs.Monitor
import AccessFeed.Session

/-! What can be done to watches by name is what parties can do at all: each step of a session is
some actions one after another, and its monitor has seen all that was told in them. So what holds of
every state that comes of any actions holds of every session. -/
namespace AccessFeed

theorem exists_of_bind_eq_ok {ε α β : Type} {first : Except ε α} {next : α → Except ε β}
    {result : β} (h : first >>= next = .ok result) :
    ∃ value, first = .ok value ∧ next value = .ok result := by
  cases first with
  | error cause => cases h
  | ok value => exact ⟨value, rfl, h⟩

theorem bind_eq_error_iff {ε α β : Type} {first : Except ε α} {next : α → Except ε β} {cause : ε}
    (goes : ∀ value, first = .ok value → ∃ result, next value = .ok result) :
    first >>= next = .error cause ↔ first = .error cause := by
  cases first with
  | error other => exact ⟨fun failed => by cases failed; rfl, fun failed => by cases failed; rfl⟩
  | ok value =>
    obtain ⟨result, done⟩ := goes value rfl
    constructor
    · intro failed
      cases done.symm.trans failed
    · intro failed
      cases failed

namespace Monitor

/-- A monitor as it is if some of the log and of the names asked for had not been taken. -/
def restored (monitor : Monitor) (taken : List LogRecord) (asked : List String) : Monitor :=
  { monitor with journal := taken ++ monitor.journal, questions := asked ++ monitor.questions }

theorem observe_restored (monitor : Monitor) (taken : List LogRecord) (asked : List String)
    (notice : Notice) :
    (monitor.restored taken asked).observe notice =
      (monitor.observe notice).restored taken asked := by
  cases notice with
  | taken id depth =>
    by_cases deeper : monitor.peak.depth < depth <;>
      simp [observe, measure, restored, PeakDepth.update, log, deeper]
  | _ => simp [observe, restored, log, Notice.record?]

theorem observeAll_restored (monitor : Monitor) (taken : List LogRecord) (asked : List String)
    (notices : List Notice) :
    (monitor.restored taken asked).observeAll notices =
      (monitor.observeAll notices).restored taken asked := by
  induction notices generalizing monitor with
  | nil => rfl
  | cons notice rest ih => rw [observeAll_cons, observe_restored, ih, observeAll_cons]

end Monitor

namespace Session

variable {session next : Session} {history : History} {slot : String} {id : WatchId}

/-- A step of a session that succeeds. That the calls of a stand-in are taken is left out: it only
empties what the stand-in has noted. -/
inductive Step (session : Session) : Session → Prop
  | upsert (object : Namespace) : Step session (session.upsert object).2
  | removeObject (name : String) : Step session (session.removeObject name).2
  | setOutage (name : String) (reason : Option String) :
      Step session (session.setOutage name reason)
  | perform {mutation : Mutation} {answer : Nat} {next : Session}
      (done : session.perform mutation = .ok (answer, next)) : Step session next
  | openInto {slot : String} {registered : Bool} {subscriber : Subscriber}
      {includeExisting : Option Bool} {options : WatchOptions} {answer : Except Failure WatchId}
      {next : Session}
      (done : session.openInto slot registered subscriber includeExisting options =
        .ok (answer, next)) : Step session next
  | register {slot : String} {next : Session} (done : session.register slot = .ok next) :
      Step session next
  | unregister {slot : String} {next : Session} (done : session.unregister slot = .ok next) :
      Step session next
  | handle {slot : String} {change : AccessChange} {answer : List String} {next : Session}
      (done : session.handle slot change = .ok (answer, next)) : Step session next
  | dropWatcher {slot : String} {next : Session} (done : session.dropWatcher slot = .ok next) :
      Step session next
  | dropStream {slot : String} {next : Session} (done : session.dropStream slot = .ok next) :
      Step session next
  | stop {slot : String} {control : StopControl} {answer : Bool} {next : Session}
      (done : session.stop slot control = .ok (answer, next)) : Step session next
  | settle : Step session session.settle
  | take {slot : String} {answer : Delivery} {next : Session}
      (done : session.take slot = .ok (answer, next)) : Step session next
  | drain {slot : String} {answer : List Event × Delivery} {next : Session}
      (done : session.drain slot = .ok (answer, next)) : Step session next
  | dropCache : Step session session.dropCache
  | takeJournal : Step session session.takeJournal.2
  | takeQuestions : Step session session.takeQuestions.2

/-- A session is where the actions of a history lead, and its monitor has seen what was told in
them. -/
structure Follows (session : Session) (history : History) : Prop where
  world_eq : session.world = history.world
  monitor : ∃ taken asked,
    session.monitor.restored taken asked = Monitor.fresh.observeAll history.notices

theorem Follows.advance (h : session.Follows history) {actions : List Action} {world : World}
    {notices : List Notice} {deliveries : List (WatchId × Event)}
    (ran : history.run actions = ⟨world, history.notices ++ notices, deliveries⟩) :
    (session.advance world notices).Follows (history.run actions) := by
  obtain ⟨taken, asked, same⟩ := h.monitor
  rw [ran]
  refine ⟨rfl, taken, asked, ?_⟩
  rw [Session.advance, ← Monitor.observeAll_restored, same, Monitor.observeAll,
    Monitor.observeAll, Monitor.observeAll, List.foldl_append]

theorem Follows.act (h : session.Follows history) {action : Action} {world : World}
    {notices : List Notice} (enacted : session.world.enact action = (world, notices)) :
    (session.advance world notices).Follows (history.run [action]) := by
  rw [h.world_eq] at enacted
  refine @Follows.advance session history h [action] world notices
    (history.deliveries ++ (history.world.delivery? action).toList) ?_
  rw [History.run_cons, History.run_nil, History.next, enacted]

/-- A part of the watch of a slot is there if the slot was used and the part is still held. -/
theorem part_eq_ok_iff {held? : Option WatchId} {holds : WatchId → Bool} {absent : Absent} :
    (match held? with
      | some held => if holds held then Except.ok held else .error absent
      | none => .error absent) = .ok id ↔ held? = some id ∧ holds id = true := by
  cases held? with
  | none => simp
  | some held =>
    simp only [Option.some.injEq]
    constructor
    · intro found
      split at found
      · cases found
        exact ⟨rfl, by assumption⟩
      · cases found
    · rintro ⟨rfl, holds⟩
      rw [if_pos holds]

theorem watcher?_eq_ok_iff :
    session.watcher? slot = .ok id ↔
      session.slots[slot]? = some id ∧ session.world.handlers.contains id = true := part_eq_ok_iff

theorem stream?_eq_ok_iff :
    session.stream? slot = .ok id ↔
      session.slots[slot]? = some id ∧ session.world.consumers.contains id = true := part_eq_ok_iff

/-- The watch that a slot held before loses its handler and its stream. -/
theorem Follows.fill (h : session.Follows history) (slot : String) (id : WatchId) :
    ∃ actions, (session.fill slot id).Follows (history.run actions) := by
  cases held : session.slots[slot]? with
  | none =>
    have still : history.run [] =
        ⟨session.world, history.notices ++ [], history.deliveries⟩ := by simp [h.world_eq]
    have filled := h.advance still
    refine ⟨[], ?_, ?_⟩
    · simpa [Session.fill, held] using filled.world_eq
    · simpa [Session.fill, held] using filled.monitor
  | some old =>
    have dropped : history.run [.dropHandler old, .dropConsumer old] =
        ⟨((session.world.dropHandler old).dropConsumer old).1,
          history.notices ++ ((session.world.dropHandler old).dropConsumer old).2,
          history.deliveries⟩ := by
      simp [History.next, World.enact, World.delivery?, h.world_eq]
    have filled := h.advance dropped
    refine ⟨[.dropHandler old, .dropConsumer old], ?_, ?_⟩
    · simpa [Session.fill, held] using filled.world_eq
    · simpa [Session.fill, held] using filled.monitor

/-- Each step of a session is some actions one after another. -/
theorem Step.exists_run (step : session.Step next) (h : session.Follows history)
    (nodup : history.world.line.Nodup) : ∃ actions, next.Follows (history.run actions) := by
  cases step with
  | upsert object => exact ⟨_, @Follows.act _ _ h (.upsert object) _ _ rfl⟩
  | removeObject name => exact ⟨_, @Follows.act _ _ h (.removeObject name) _ _ rfl⟩
  | setOutage name reason => exact ⟨_, @Follows.act _ _ h (.setOutage name reason) _ _ rfl⟩
  | @perform mutation answer next done =>
    obtain ⟨catalog, -, done⟩ := exists_of_bind_eq_ok done
    obtain ⟨after, -, done⟩ := exists_of_bind_eq_ok done
    cases done
    exact ⟨_, @Follows.act _ _ h (.perform ⟨id, fun _ => .refl _⟩ mutation) _ _ rfl⟩
  | @openInto slot registered subscriber includeExisting options answer next done =>
    obtain ⟨_, -, done⟩ := exists_of_bind_eq_ok done
    obtain ⟨action, enacted⟩ : ∃ action, session.world.enact action =
        (if registered then session.world.subscribe subscriber includeExisting options
          else session.world.openWatch subscriber includeExisting options).2 := by
      cases registered with
      | true => exact ⟨.subscribe subscriber includeExisting options, rfl⟩
      | false => exact ⟨.openWatch subscriber includeExisting options, rfl⟩
    dsimp only at done
    generalize (if registered then session.world.subscribe subscriber includeExisting options
      else session.world.openWatch subscriber includeExisting options) = opened at done enacted
    obtain ⟨result, world, notices⟩ := opened
    have follows := h.act enacted
    cases result with
    | ok id =>
      cases done
      obtain ⟨actions, filled⟩ := follows.fill slot id
      exact ⟨action :: actions, filled⟩
    | error cause =>
      cases done
      exact ⟨_, follows⟩
  | @register slot next done =>
    obtain ⟨id, held, done⟩ := exists_of_bind_eq_ok done
    obtain ⟨_, -, done⟩ := exists_of_bind_eq_ok done
    cases done
    exact ⟨_, @Follows.act _ _ h (.register id) _ _ (if_pos (watcher?_eq_ok_iff.mp held).2)⟩
  | @unregister slot next done =>
    obtain ⟨id, held, done⟩ := exists_of_bind_eq_ok done
    obtain ⟨_, -, done⟩ := exists_of_bind_eq_ok done
    cases done
    exact ⟨_, @Follows.act _ _ h (.unregister id) _ _ rfl⟩
  | @handle slot change answer next done =>
    obtain ⟨id, held, done⟩ := exists_of_bind_eq_ok done
    obtain ⟨watch, -, done⟩ := exists_of_bind_eq_ok done
    cases done
    exact ⟨_, @Follows.act _ _ h (.handle id change) _ _ (if_pos (watcher?_eq_ok_iff.mp held).2)⟩
  | @dropWatcher slot next done =>
    obtain ⟨id, held, done⟩ := exists_of_bind_eq_ok done
    cases done
    exact ⟨_, @Follows.act _ _ h (.dropHandler id) _ _ rfl⟩
  | @dropStream slot next done =>
    obtain ⟨id, held, done⟩ := exists_of_bind_eq_ok done
    cases done
    exact ⟨_, @Follows.act _ _ h (.dropConsumer id) _ _ rfl⟩
  | @stop slot control answer next done =>
    obtain ⟨id, rfl⟩ : ∃ id, next =
        session.advance (session.world.stop id).1 (session.world.stop id).2 := by
      cases control with
      | _ =>
        obtain ⟨id, -, done⟩ := exists_of_bind_eq_ok done
        obtain ⟨stopped, -, done⟩ := exists_of_bind_eq_ok done
        cases done
        exact ⟨id, rfl⟩
    exact ⟨_, @Follows.act _ _ h (.stop id) _ _ rfl⟩
  | settle =>
    obtain ⟨ids, settled, -⟩ := History.exists_run_settle nodup
    rw [← h.world_eq] at settled
    exact ⟨_, h.advance settled⟩
  | @take slot answer next done =>
    obtain ⟨id, held, done⟩ := exists_of_bind_eq_ok done
    cases done
    exact ⟨_, @Follows.act _ _ h (.take id) _ _ (if_pos (stream?_eq_ok_iff.mp held).2)⟩
  | @drain slot answer next done =>
    obtain ⟨id, held, done⟩ := exists_of_bind_eq_ok done
    cases done
    have reads := (stream?_eq_ok_iff.mp held).2
    rw [h.world_eq] at reads
    obtain ⟨actions, drained, -⟩ :=
      History.exists_run_drainWithin (history.world.backlog id + 1) nodup reads
    rw [← h.world_eq] at drained
    exact ⟨actions, h.advance drained⟩
  | dropCache => exact ⟨_, @Follows.act _ _ h .dropHost _ _ rfl⟩
  | takeJournal =>
    obtain ⟨taken, asked, same⟩ := h.monitor
    refine ⟨[], h.world_eq, taken ++ session.monitor.journal, asked, ?_⟩
    rw [History.run_nil, ← same]
    simp [Session.takeJournal, Monitor.restored]
  | takeQuestions =>
    obtain ⟨taken, asked, same⟩ := h.monitor
    refine ⟨[], h.world_eq, taken, asked ++ session.monitor.questions, ?_⟩
    rw [History.run_nil, ← same]
    simp [Session.takeQuestions, Monitor.restored]

/-- A session that goes on from another by any steps. -/
abbrev Steps : Session → Session → Prop := Relation.ReflTransGen Step

theorem exists_run_of_steps (h : session.Follows history) (nodup : history.world.line.Nodup)
    (steps : session.Steps next) : ∃ actions, next.Follows (history.run actions) := by
  induction steps with
  | refl => exact ⟨[], h⟩
  | tail _ step ih =>
    obtain ⟨actions, follows⟩ := ih
    obtain ⟨more, follows⟩ := step.exists_run follows (History.nodup_line_run nodup actions)
    exact ⟨actions ++ more, by rwa [History.run_append]⟩

/-- Whatever is done in a session, it is in a state that actions of the parties lead to, and of all
that was told in them its monitor has the same, the records and names apart that were taken. -/
theorem exists_run (host : Host) (steps : (Session.fresh host).Steps session) :
    ∃ actions, session.Follows ((History.start (.fresh host)).run actions) :=
  exists_run_of_steps ⟨rfl, [], [], rfl⟩ List.nodup_nil steps

theorem alert_of_steps (host : Host) (steps : (Session.fresh host).Steps session) :
    session.world.Alert := by
  obtain ⟨actions, follows⟩ := exists_run host steps
  rw [follows.world_eq]
  exact History.alert_run (World.alert_fresh host) actions

/-- When the relays of a session have settled, none is in line and none can go further. -/
theorem settle_of_steps (host : Host) (steps : (Session.fresh host).Steps session) :
    session.settle.world.line = [] ∧
      ∀ (id : WatchId) (watch : Watch), session.settle.world.watches[id]? = some watch →
        watch.step (session.settle.world.feeds id) = none :=
  ⟨World.line_settle session.world, fun _ _ found => (alert_of_steps host steps).step_settle found⟩

/-- What a session drains from a stream is all there is: what came last is no event, and whoever
asks again gets the same. -/
theorem drain_of_steps (host : Host) (steps : (Session.fresh host).Steps session)
    {events : List Event} {last : Delivery}
    (drained : session.drain slot = .ok ((events, last), next)) :
    (∀ event, last ≠ .event event) ∧ next.take slot = .ok (last, next) := by
  obtain ⟨id, held, done⟩ := exists_of_bind_eq_ok drained
  cases done
  obtain ⟨used, reads⟩ := stream?_eq_ok_iff.mp held
  obtain ⟨actions, follows⟩ := exists_run host steps
  obtain ⟨alert, -, same, nothing⟩ := (alert_of_steps host steps).drain id
  have nodup : session.world.line.Nodup := by
    rw [follows.world_eq]
    exact @History.nodup_line_run (.start (.fresh host)) List.nodup_nil actions
  obtain ⟨-, -, consumers⟩ := @History.exists_run_drainWithin id (session.world.backlog id + 1)
    (.start session.world) nodup reads
  have still : (session.world.drain id).world.take id =
      ((session.world.drain id).last, (session.world.drain id).world) :=
    Prod.ext same (alert.take_of_nothing (same.symm ▸ nothing))
  have reading : (session.advance (session.world.drain id).world
      (session.world.drain id).notices).stream? slot = .ok id :=
    stream?_eq_ok_iff.mpr ⟨used, consumers ▸ reads⟩
  refine ⟨nothing, ?_⟩
  simp only [Session.take, reading]
  exact congrArg (fun taken : Delivery × World => Except.ok (taken.1,
    (session.advance (session.world.drain id).world (session.world.drain id).notices).advance
      taken.2 [])) still

/-- A mutation is not carried out only if there is no catalog. -/
theorem perform_eq_error_iff {mutation : Mutation} {absent : Absent} :
    session.perform mutation = .error absent ↔ session.catalog? = .error absent := by
  refine bind_eq_error_iff fun catalog found => ?_
  have host : session.world.host = .real catalog := by
    unfold catalog? at found
    split at found
    · cases found
      assumption
    · cases found
  obtain ⟨after, hosted, -⟩ := @World.host_performIn session.world id catalog host mutation
  have still : (session.advance (session.world.perform mutation).1
      (session.world.perform mutation).2).catalog? = .ok after := by
    simp only [catalog?, Session.advance, World.perform, hosted]
  exact ⟨_, congrArg (· >>= _) still⟩

/-- The watch of a slot, if the control that is to stop it is there. -/
def control? (session : Session) (slot : String) : StopControl → Except Absent WatchId
  | .stream => session.stream? slot
  | .watcher => session.watcher? slot
  | .handle => session.used? slot

theorem used_of_control?_eq_ok {control : StopControl}
    (held : session.control? slot control = .ok id) : session.used? slot = .ok id := by
  have used (found : session.slots[slot]? = some id) : session.used? slot = .ok id := by
    rw [used?, found]
  cases control with
  | stream => exact used (stream?_eq_ok_iff.mp held).1
  | watcher => exact used (watcher?_eq_ok_iff.mp held).1
  | handle => exact held

/-- A watch is not stopped only if the control that is to stop it is not there. -/
theorem stop_eq_error_iff {control : StopControl} {absent : Absent} :
    session.stop slot control = .error absent ↔ session.control? slot control = .error absent := by
  have stopped : session.stop slot control = session.control? slot control >>= fun id =>
      let next := session.advance (session.world.stop id).1 (session.world.stop id).2
      next.isStopped slot >>= fun answer => pure (answer, next) := by
    cases control <;> rfl
  rw [stopped]
  refine bind_eq_error_iff fun id held => ?_
  have used : session.used? slot = .ok id := used_of_control?_eq_ok held
  have still : (session.advance (session.world.stop id).1 (session.world.stop id).2).used? slot =
      .ok id := used
  simp [Session.isStopped, still, bind, Except.bind, pure, Except.pure]

/-- A change is not handed to a watch only if its handler is not held any more. -/
theorem handle_eq_error_iff (host : Host) (steps : (Session.fresh host).Steps session)
    {change : AccessChange} {absent : Absent} :
    session.handle slot change = .error absent ↔ session.watcher? slot = .error absent := by
  refine bind_eq_error_iff fun id held => ?_
  obtain ⟨used, handled⟩ := watcher?_eq_ok_iff.mp held
  obtain ⟨actions, follows⟩ := exists_run host steps
  have manned : session.world.Manned := by
    rw [follows.world_eq]
    refine History.manned_run (fun id handled => ?_) actions
    simp [History.start, World.glimpse, World.fresh] at handled
  have glimpse : (session.world.handle id change).1.glimpse id =
      (session.world.glimpse id).after (.handle session.world.lookup change) :=
    World.glimpse_act session.world id _
  have still : (session.world.handle id change).1.handlers.contains id = true := by
    have same := @History.isHandled_after_of_ne (.handle session.world.lookup change) (by simp)
      (session.world.glimpse id)
    rw [← glimpse] at same
    exact same.trans handled
  have present := (session.world.glimpse id).isSome_after (.handle session.world.lookup change)
  rw [← glimpse, manned id handled] at present
  obtain ⟨watch, found⟩ := Option.isSome_iff_exists.mp present
  have known : (session.advance (session.world.handle id change).1
      (session.world.handle id change).2).watch? slot = .ok watch := by
    have held : (session.advance (session.world.handle id change).1
      (session.world.handle id change).2).watcher? slot = .ok id :=
      watcher?_eq_ok_iff.mpr ⟨used, still⟩
    have here : (session.advance (session.world.handle id change).1
      (session.world.handle id change).2).world.watches[id]? = some watch := found
    simp only [watch?, held, bind, Except.bind, here]
  exact ⟨_, congrArg (· >>= _) known⟩

end Session
end AccessFeed
