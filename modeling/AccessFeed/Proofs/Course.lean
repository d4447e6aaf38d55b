import AccessFeed.Proofs.Handler
import AccessFeed.Proofs.Relay
import Mathlib.Logic.Relation

/-! The course of one watch: its state together with what has happened to it, after any moves of
the parties around it in any order.

A move such as a turn of the relay is made of small changes, and `Course.run_induction` shows a
property of all courses by looking at each kind of change once. -/
namespace AccessFeed

/-- The notice that an effect tells, if it tells something. -/
def Effect.notice? : Effect → Option Notice
  | .note notice => some notice
  | .leave => none

/-- The notices among effects. -/
def Effect.notices (effects : List Effect) : List Notice := effects.filterMap Effect.notice?

@[simp] theorem Effect.notices_nil : Effect.notices [] = [] := rfl

@[simp] theorem Effect.notices_note (notice : Notice) (rest : List Effect) :
    Effect.notices (.note notice :: rest) = notice :: Effect.notices rest := rfl

@[simp] theorem Effect.notices_leave (rest : List Effect) :
    Effect.notices (.leave :: rest) = Effect.notices rest := rfl

@[simp] theorem Effect.notices_append (first second : List Effect) :
    Effect.notices (first ++ second) = Effect.notices first ++ Effect.notices second :=
  List.filterMap_append

namespace Notice

/-- The event that the intake of a watch accepted. -/
def accepted? (id : WatchId) : Notice → Option Event
  | .queued other event => if other = id then some event else none
  | _ => none

/-- The event that met a full intake of a watch. -/
def rejected? (id : WatchId) : Notice → Option Event
  | .overflowed other _ event => if other = id then some event else none
  | _ => none

/-- The name of a change that a watch skipped because it could not resolve it. -/
def skipped? (id : WatchId) : Notice → Option String
  | .changeSkipped other name _ => if other = id then some name else none
  | _ => none

/-- The watch whose handling or relaying is told of. -/
def watch? : Notice → Option WatchId
  | .changeSkipped id .. | .queued id _ | .overflowed id .. | .alreadyFailed id | .discarded id _
  | .begun id | .taken id _ | .pushed id _ | .finished id _ | .stopped id => some id
  | _ => none

/-- Tells of no other watch. -/
def isOwn (id : WatchId) (notice : Notice) : Prop :=
  notice.watch? = none ∨ notice.watch? = some id

/-- The notices that tell of one watch. -/
def about (id : WatchId) (notices : List Notice) : List Notice :=
  notices.filter (·.watch? == some id)

@[simp] theorem about_nil (id : WatchId) : about id [] = [] := rfl

@[simp] theorem about_append (id : WatchId) (first second : List Notice) :
    about id (first ++ second) = about id first ++ about id second :=
  List.filter_append ..

theorem about_cons (id : WatchId) (notice : Notice) (rest : List Notice) :
    about id (notice :: rest) = about id [notice] ++ about id rest :=
  about_append id [notice] rest

theorem about_eq_nil_of_none {notices : List Notice}
    (h : ∀ notice ∈ notices, notice.watch? = none) (id : WatchId) : about id notices = [] := by
  rw [about, List.filter_eq_nil_iff]
  intro notice member
  simp [h notice member]

theorem about_eq_nil_of_isOwn {other id : WatchId} {notices : List Notice}
    (h : ∀ notice ∈ notices, notice.isOwn other) (ne : other ≠ id) : about id notices = [] := by
  rw [about, List.filter_eq_nil_iff]
  intro notice member
  obtain none | own := h notice member
  · simp [none]
  · simp [own, ne]

theorem filterMap_about {α : Type} {id : WatchId} {select : Notice → Option α}
    (h : ∀ notice, notice.watch? ≠ some id → select notice = none) (notices : List Notice) :
    (about id notices).filterMap select = notices.filterMap select := by
  induction notices with
  | nil => rfl
  | cons notice rest ih =>
    rw [about_cons, List.filterMap_append, ih]
    by_cases own : notice.watch? = some id
    · have kept : about id [notice] = [notice] := by simp [about, own]
      rw [kept, ← List.filterMap_append, List.singleton_append]
    · have dropped : about id [notice] = [] := by simp [about, own]
      rw [dropped, List.filterMap_cons_none (h notice own)]
      rfl

theorem rejected?_of_ne {id : WatchId} {notice : Notice} (h : notice.watch? ≠ some id) :
    notice.rejected? id = none := by
  cases notice <;> simp_all [rejected?, watch?]

theorem skipped?_of_ne {id : WatchId} {notice : Notice} (h : notice.watch? ≠ some id) :
    notice.skipped? id = none := by
  cases notice <;> simp_all [skipped?, watch?]

/-- Tells nothing of the events of a watch or of the end of its relay. -/
def isAside : Notice → Bool
  | .queued .. | .overflowed .. | .pushed .. | .finished .. => false
  | _ => true

theorem filterMap_accepted_of_isAside {notices : List Notice}
    (h : ∀ notice ∈ notices, notice.isAside = true) (id : WatchId) :
    notices.filterMap (accepted? id) = [] := by
  rw [List.filterMap_eq_nil_iff]
  intro notice member
  have aside := h notice member
  cases notice <;> simp_all [isAside, accepted?]

theorem filterMap_rejected_of_isAside {notices : List Notice}
    (h : ∀ notice ∈ notices, notice.isAside = true) (id : WatchId) :
    notices.filterMap (rejected? id) = [] := by
  rw [List.filterMap_eq_nil_iff]
  intro notice member
  have aside := h notice member
  cases notice <;> simp_all [isAside, rejected?]

end Notice

/-- What a party does to a single watch. -/
inductive Move where
  /-- The watch is handed a change, while names resolve as told. -/
  | handle (lookup : Lookup) (change : AccessChange)
  /-- The relay has a turn, in which its steps count up to the limit. -/
  | poll (limit : Nat)
  /-- The consumer asks for an event. -/
  | take
  /-- The relay is asked to end, which a consumer that goes away does too. -/
  | stop
  /-- The last party that could hand the watch a change gives up doing so. -/
  | drop

/-- A watch with what has happened to it. -/
structure Course where
  watch : Watch
  /-- Somebody may still hand the watch a change. -/
  isFed : Bool
  /-- The watch has asked to be taken out of its catalog. -/
  hasLeft : Bool
  /-- What was told, oldest first. -/
  notices : List Notice
  /-- The events that the consumer took, oldest first. -/
  received : List Event

namespace Watch

variable {fed : Bool} {p : Notice → Prop}
  (steps : ∀ {watch next : Watch} {effects : List Effect}, watch.Advance fed next effects →
    ∀ notice ∈ Effect.notices effects, p notice)

include steps

/-- What holds of everything that a step of a relay tells holds of everything that a run tells. -/
theorem forall_mem_run (watch : Watch) (fuel limit : Nat) :
    ∀ notice ∈ Effect.notices (watch.run fed fuel limit).effects, p notice := by
  induction fuel generalizing watch limit with
  | zero => simp [run]
  | succ fuel ih =>
    rw [run]
    split
    · simp
    · cases step : watch.step fed with
      | none => simp
      | some result =>
        obtain ⟨next, effects⟩ := result
        dsimp only
        rw [Effect.notices_append, List.forall_mem_append]
        exact ⟨steps (advance_of_step step), ih next _⟩

theorem forall_mem_poll (begins : ∀ id, p (.begun id)) (watch : Watch) (limit : Nat) :
    ∀ notice ∈ Effect.notices (watch.poll fed limit).2, p notice := by
  have begun : ∀ notice ∈ Effect.notices watch.begin.2, p notice := by
    unfold begin
    split <;> simp [begins]
  simp only [poll, Effect.notices_append, List.forall_mem_append]
  exact ⟨begun, forall_mem_run steps _ _ _⟩

end Watch

namespace Course

/-- Nothing has happened to the watch. -/
def start (watch : Watch) : Course := ⟨watch, true, false, [], []⟩

/-- Goes on with a new state of the watch and the effects that came with it. -/
def advance (course : Course) (result : Watch × List Effect) : Course :=
  { course with
    watch := result.1
    hasLeft := course.hasLeft || decide (.leave ∈ result.2)
    notices := course.notices ++ Effect.notices result.2 }

@[simp] theorem watch_advance (course : Course) (result : Watch × List Effect) :
    (course.advance result).watch = result.1 := rfl

@[simp] theorem isFed_advance (course : Course) (result : Watch × List Effect) :
    (course.advance result).isFed = course.isFed := rfl

@[simp] theorem received_advance (course : Course) (result : Watch × List Effect) :
    (course.advance result).received = course.received := rfl

/-- Makes one move. -/
def make (course : Course) : Move → Course
  | .handle lookup change => course.advance (course.watch.handle lookup change)
  | .poll limit => course.advance (course.watch.poll course.isFed limit)
  | .take =>
    match course.watch.take with
    | (.event event, watch) => { course with watch, received := course.received ++ [event] }
    | (_, watch) => { course with watch }
  | .stop => course.advance course.watch.stop
  | .drop => { course with watch := course.watch.starve, isFed := false }

/-- Makes moves one after another. -/
def run (course : Course) (moves : List Move) : Course := moves.foldl make course

@[simp] theorem run_nil (course : Course) : course.run [] = course := rfl

@[simp] theorem run_cons (course : Course) (move : Move) (moves : List Move) :
    course.run (move :: moves) = (course.make move).run moves := rfl

@[simp] theorem run_append (course : Course) (moves more : List Move) :
    course.run (moves ++ more) = (course.run moves).run more := List.foldl_append

/-- The events that the intake accepted, oldest first. -/
def accepted (course : Course) : List Event :=
  course.notices.filterMap (Notice.accepted? course.watch.id)

/-- The events that met a full intake, oldest first. -/
def rejected (course : Course) : List Event :=
  course.notices.filterMap (Notice.rejected? course.watch.id)

/-- The events that the relay passed on, whether the consumer has taken them or not. -/
def sent (course : Course) : List Event := course.received ++ course.watch.outbox

/-- A small change of a course as part of a move. Every move is made of such changes. -/
inductive Change (move : Move) (course : Course) : Course → Prop
  /-- When the relay is due may change at any time, and what the watch knows while it is handed a
  change. -/
  | aside (known : NameSet) (begun isDue heedsIntake heedsFault : Bool) (told : List Notice)
      (asides : ∀ notice ∈ told, notice.isAside = true)
      (own : ∀ notice ∈ told, notice.isOwn course.watch.id)
      (learned : (∀ lookup change, move ≠ .handle lookup change) → known = course.watch.known) :
      Change move course
        { course with
          watch := { course.watch with known, begun, isDue, heedsIntake, heedsFault }
          notices := course.notices ++ told }
  | arrive {lookup : Lookup} {change : AccessChange} {event : Event} {next : Watch}
      {effects : List Effect} (kind : move = .handle lookup change)
      (regular : event.kind ≠ .error) (arrival : course.watch.Arrival event next effects) :
      Change move course (course.advance (next, effects))
  | relay {limit : Nat} {next : Watch} {effects : List Effect} (kind : move = .poll limit)
      (advance : course.watch.Advance course.isFed next effects) :
      Change move course (course.advance (next, effects))
  | take {event : Event} {rest : List Event} (kind : move = .take)
      (outbox : course.watch.outbox = event :: rest) :
      Change move course
        { course with
          watch := { course.watch with outbox := rest }, received := course.received ++ [event] }
  | stop (kind : move = .stop) :
      Change move course { course with watch := { course.watch with isStopped := true } }
  | drop (kind : move = .drop) : Change move course { course with isFed := false }

/-- Some number of small changes. -/
abbrev Changes (move : Move) : Course → Course → Prop := Relation.ReflTransGen (Change move)

theorem advance_nil (course : Course) : course.advance (course.watch, []) = course := by
  simp [advance]

theorem advance_advance (course : Course) (first second : Watch × List Effect) :
    (course.advance first).advance second = course.advance (second.1, first.2 ++ second.2) := by
  simp [advance, Bool.or_assoc]

theorem change_schedule (move : Move) (course : Course) (isDue heedsIntake heedsFault : Bool) :
    Change move course
      { course with watch := { course.watch with isDue, heedsIntake, heedsFault } } := by
  simpa using @Change.aside move course course.watch.known course.watch.begun isDue heedsIntake
    heedsFault [] (by simp) (by simp) fun _ => rfl

theorem changes_handle (course : Course) (lookup : Lookup) (change : AccessChange) :
    Changes (.handle lookup change) course
      (course.advance (course.watch.handle lookup change)) := by
  have handling := course.watch.handling_handle lookup change
  generalize course.watch.handle lookup change = result at handling ⊢
  obtain ⟨next, effects⟩ := result
  dsimp only at handling
  cases handling with
  | ignore => rw [advance_nil]
  | @skip cause =>
    have told := @Change.aside (.handle lookup change) course course.watch.known course.watch.begun
      course.watch.isDue course.watch.heedsIntake course.watch.heedsFault
      [.asked change.name false, .changeSkipped course.watch.id change.name cause]
      (by simp [Notice.isAside]) (by simp [Notice.isOwn, Notice.watch?]) fun _ => rfl
    exact .single (by simpa [advance] using told)
  | revoke revoked known arrival =>
    have learn := @Change.aside (.handle lookup change) course
      (course.watch.known.erase change.name) course.watch.begun course.watch.isDue
      course.watch.heedsIntake course.watch.heedsFault [] (by simp) (by simp)
      fun other => absurd rfl (other lookup change)
    refine .tail (.single learn) ?_
    simpa [advance] using Change.arrive rfl (by simp [Event.kind]) arrival
  | @grant object granted resolved _ effects arrival =>
    have learn := @Change.aside (.handle lookup change) course
      (course.watch.known.insert change.name) course.watch.begun course.watch.isDue
      course.watch.heedsIntake course.watch.heedsFault [.asked change.name true]
      (by simp [Notice.isAside]) (by simp [Notice.isOwn, Notice.watch?])
      fun other => absurd rfl (other lookup change)
    have regular : (if change.name ∈ course.watch.known then Event.modified object.project
        else .added object.project).kind ≠ .error := by
      split <;> simp [Event.kind]
    refine .tail (.single learn) ?_
    simpa [advance] using @Change.arrive (.handle lookup change) { course with
      watch := { course.watch with known := course.watch.known.insert change.name }
      notices := course.notices ++ [.asked change.name true] } _ _ _ _ _ rfl regular arrival

theorem changes_run (course : Course) (share fuel limit : Nat) :
    Changes (.poll share) course
      (course.advance ((course.watch.run course.isFed fuel limit).watch,
        (course.watch.run course.isFed fuel limit).effects)) := by
  induction fuel generalizing course limit with
  | zero => rw [Watch.run, advance_nil]
  | succ fuel ih =>
    rw [Watch.run]
    split
    · rw [advance_nil]
    · cases h : course.watch.step course.isFed with
      | none =>
        dsimp only
        rw [advance_nil]
      | some result =>
        obtain ⟨next, effects⟩ := result
        have first : Change (.poll share) course (course.advance (next, effects)) :=
          .relay rfl (Watch.advance_of_step h)
        have rest := ih (course.advance (next, effects)) (limit - course.watch.phase.cost)
        rw [advance_advance] at rest
        exact .head first rest

theorem changes_begin (course : Course) (limit : Nat) :
    Changes (.poll limit) course (course.advance course.watch.begin) := by
  unfold Watch.begin
  split
  · rw [advance_nil]
  · have told := @Change.aside (.poll limit) course course.watch.known true course.watch.isDue
      course.watch.heedsIntake course.watch.heedsFault [.begun course.watch.id]
      (by simp [Notice.isAside]) (by simp [Notice.isOwn, Notice.watch?]) fun _ => rfl
    exact .single (by simpa [advance] using told)

theorem changes_poll (course : Course) (limit : Nat) :
    Changes (.poll limit) course
      (course.advance (course.watch.poll course.isFed limit)) := by
  have ran := (changes_begin course limit).trans
    (changes_run (course.advance course.watch.begin) limit course.watch.begin.1.work limit)
  rw [advance_advance] at ran
  apply ran.tail
  simp only [Watch.poll]
  split
  · exact change_schedule _ _ true (Watch.heedsIntake _) (Watch.heedsFault _)
  · exact change_schedule _ _ false _ _

theorem make_take (course : Course) :
    course.make .take =
      { course with
        watch := course.watch.take.2
        received := course.received ++ course.watch.outbox.head?.toList } := by
  simp only [make, Watch.take]
  cases course.watch.outbox with
  | nil => cases course.watch.phase.isFinished <;> simp
  | cons event rest => rfl

theorem changes_take (course : Course) : Changes .take course (course.make .take) := by
  cases h : course.watch.outbox with
  | nil =>
    simp only [make, Watch.take, h]
    cases course.watch.phase.isFinished <;> exact .refl
  | cons event rest =>
    simp only [make, Watch.take, h]
    exact .tail (.single (.take rfl h)) (change_schedule _ _ _ _ _)

theorem changes_stop (course : Course) :
    Changes .stop course (course.advance course.watch.stop) := by
  unfold Watch.stop
  split
  · rw [advance_nil]
  · have told := @Change.aside .stop
      { course with watch := { course.watch with isStopped := true } } course.watch.known
      course.watch.begun (course.watch.isDue || !course.watch.phase.isFinished)
      course.watch.heedsIntake course.watch.heedsFault [.stopped course.watch.id]
      (by simp [Notice.isAside]) (by simp [Notice.isOwn, Notice.watch?]) fun _ => rfl
    exact .tail (.single (.stop rfl)) (by simpa [advance, Watch.wakeIf] using told)

theorem changes_make (course : Course) (move : Move) :
    Changes move course (course.make move) := by
  cases move with
  | handle lookup change => exact changes_handle course lookup change
  | poll limit => exact changes_poll course limit
  | take => exact changes_take course
  | stop => exact changes_stop course
  | drop => exact .tail (.single (.drop rfl)) (change_schedule _ _ _ _ _)

/-- What every small change of a move keeps holds after the move. -/
theorem make_induction {property : Course → Prop} {move : Move}
    (step : ∀ {course next : Course}, Change move course next → property course → property next)
    {course : Course} (h : property course) : property (course.make move) := by
  have changes := changes_make course move
  generalize course.make move = last at changes ⊢
  induction changes with
  | refl => exact h
  | tail _ change ih => exact step change ih

/-- What every small change keeps holds after all moves. -/
theorem run_induction {property : Course → Prop}
    (step : ∀ {move : Move} {course next : Course}, Change move course next →
      property course → property next)
    {course : Course} (h : property course) (moves : List Move) : property (course.run moves) := by
  induction moves generalizing course with
  | nil => exact h
  | cons move moves ih => exact ih (make_induction step h)

/-- What every small change of a move leaves as it is, the move leaves as it is. -/
theorem make_eq {α : Type} {move : Move} (read : Course → α)
    (keeps : ∀ {course next : Course}, Change move course next → read next = read course)
    (course : Course) : read (course.make move) = read course := by
  refine @make_induction (fun next => read next = read course) move ?_ course rfl
  intro before after change same
  exact (keeps change).trans same

theorem Change.id_eq {move : Move} {course next : Course} (change : Change move course next) :
    next.watch.id = course.watch.id := by
  cases change with
  | arrive kind regular arrival => cases arrival <;> rfl
  | relay kind advance => cases advance <;> rfl
  | _ => rfl

theorem id_make (course : Course) (move : Move) :
    (course.make move).watch.id = course.watch.id :=
  make_eq (·.watch.id) Change.id_eq course

theorem Change.subscriber_eq {move : Move} {course next : Course}
    (change : Change move course next) : next.watch.subscriber = course.watch.subscriber := by
  cases change with
  | arrive kind regular arrival => cases arrival <;> rfl
  | relay kind advance => cases advance <;> rfl
  | _ => rfl

theorem subscriber_make (course : Course) (move : Move) :
    (course.make move).watch.subscriber = course.watch.subscriber :=
  make_eq (·.watch.subscriber) Change.subscriber_eq course

theorem subscriber_run (course : Course) (moves : List Move) :
    (course.run moves).watch.subscriber = course.watch.subscriber := by
  induction moves generalizing course with
  | nil => rfl
  | cons move moves ih => exact (ih _).trans (subscriber_make course move)

theorem Change.known_eq {move : Move} {course next : Course} (change : Change move course next)
    (h : ∀ lookup change, move ≠ .handle lookup change) :
    next.watch.known = course.watch.known := by
  cases change with
  | aside known begun isDue heedsIntake heedsFault told asides own learned => exact learned h
  | arrive kind regular arrival => exact absurd kind (h _ _)
  | relay kind advance => cases advance <;> rfl
  | _ => rfl

/-- Only a change that is handed to a watch changes what it knows. -/
theorem known_make {move : Move} (h : ∀ lookup change, move ≠ .handle lookup change)
    (course : Course) : (course.make move).watch.known = course.watch.known :=
  make_eq (·.watch.known) (fun change => change.known_eq h) course

/-- What only a change that is handed to a watch can alter stays as it is where none is handed. -/
theorem run_eq_of_unhandled {α : Type} (read : Course → α)
    (keeps : ∀ {move : Move}, (∀ lookup change, move ≠ .handle lookup change) →
      ∀ course : Course, read (course.make move) = read course)
    {moves : List Move} (h : ∀ move ∈ moves, ∀ lookup change, move ≠ .handle lookup change)
    (course : Course) : read (course.run moves) = read course := by
  induction moves generalizing course with
  | nil => rfl
  | cons move moves ih =>
    obtain ⟨first, others⟩ := List.forall_mem_cons.mp h
    exact (ih others _).trans (keeps first course)

/-- Everything that was told concerns no other watch. -/
def Own (course : Course) : Prop := ∀ notice ∈ course.notices, notice.isOwn course.watch.id

theorem Own.change {move : Move} {course next : Course} (change : Change move course next)
    (h : course.Own) : next.Own := by
  have same := change.id_eq
  have told {more : List Notice} (own : ∀ notice ∈ more, notice.isOwn course.watch.id) :
      ∀ notice ∈ course.notices ++ more, notice.isOwn next.watch.id := by
    intro notice member
    rw [same]
    obtain member | member := List.mem_append.mp member
    · exact h notice member
    · exact own notice member
  cases change with
  | aside known begun isDue heedsIntake heedsFault told' asides own => exact told own
  | arrive kind regular arrival =>
    apply told
    cases arrival <;> simp [Notice.isOwn, Notice.watch?]
  | relay kind advance =>
    apply told
    cases advance <;> simp [Notice.isOwn, Notice.watch?, Watch.finish, Watch.push]
  | _ => exact h

/-- A watch tells of no other watch. -/
theorem isOwn_of_mem_make {course : Course} {move : Move} {notice : Notice}
    (h : course.notices = []) (member : notice ∈ (course.make move).notices) :
    notice.isOwn course.watch.id := by
  have own : (course.make move).Own := make_induction Own.change (by simp [Own, h])
  exact id_make course move ▸ own notice member

variable {course : Course}

theorem accepted_advance {result : Watch × List Effect} (h : result.1.id = course.watch.id) :
    (course.advance result).accepted = course.accepted ++
      (Effect.notices result.2).filterMap (Notice.accepted? course.watch.id) := by
  simp [accepted, advance, h]

theorem rejected_advance {result : Watch × List Effect} (h : result.1.id = course.watch.id) :
    (course.advance result).rejected = course.rejected ++
      (Effect.notices result.2).filterMap (Notice.rejected? course.watch.id) := by
  simp [rejected, advance, h]

theorem id_of_advance {fed : Bool} {watch next : Watch} {effects : List Effect}
    (advance : watch.Advance fed next effects) : next.id = watch.id := by
  cases advance <;> rfl

/-- A relay accepts nothing. -/
theorem filterMap_accepted_relay {fed : Bool} {watch next : Watch} {effects : List Effect}
    (advance : watch.Advance fed next effects) (id : WatchId) :
    (Effect.notices effects).filterMap (Notice.accepted? id) = [] := by
  cases advance <;> simp [Watch.finish, Notice.accepted?]

/-- A relay rejects nothing. -/
theorem filterMap_rejected_relay {fed : Bool} {watch next : Watch} {effects : List Effect}
    (advance : watch.Advance fed next effects) (id : WatchId) :
    (Effect.notices effects).filterMap (Notice.rejected? id) = [] := by
  cases advance <;> simp [Watch.finish, Notice.rejected?]

theorem accepted_relay {next : Watch} {effects : List Effect}
    (advance : course.watch.Advance course.isFed next effects) :
    (course.advance (next, effects)).accepted = course.accepted := by
  rw [accepted_advance (id_of_advance advance), filterMap_accepted_relay advance, List.append_nil]

theorem rejected_relay {next : Watch} {effects : List Effect}
    (advance : course.watch.Advance course.isFed next effects) :
    (course.advance (next, effects)).rejected = course.rejected := by
  rw [rejected_advance (id_of_advance advance), filterMap_rejected_relay advance, List.append_nil]

end Course
end AccessFeed
