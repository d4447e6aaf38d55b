import AccessFeed.Proofs.Touch

/-! Any number of actions one after another. What they do to one watch is a course of that watch,
made of the moves that the actions mean to it. -/
namespace AccessFeed

/-- A state with what has happened since some point. -/
structure History where
  world : World
  /-- What was told, oldest first. -/
  notices : List Notice
  /-- The events that consumers got, oldest first. -/
  deliveries : List (WatchId × Event)

namespace History

def start (world : World) : History := ⟨world, [], []⟩

def next (history : History) (action : Action) : History where
  world := (history.world.enact action).1
  notices := history.notices ++ (history.world.enact action).2
  deliveries := history.deliveries ++ (history.world.delivery? action).toList

def run (history : History) (actions : List Action) : History := actions.foldl next history

@[simp] theorem run_nil (history : History) : history.run [] = history := rfl

@[simp] theorem run_cons (history : History) (action : Action) (actions : List Action) :
    history.run (action :: actions) = (history.next action).run actions := rfl

@[simp] theorem run_append (history : History) (actions more : List Action) :
    history.run (actions ++ more) = (history.run actions).run more := List.foldl_append

/-- The events that the consumer of a watch got, oldest first. -/
def received (history : History) (id : WatchId) : List Event :=
  history.deliveries.filterMap fun delivery => if delivery.1 = id then some delivery.2 else none

theorem coherent_run {history : History} (h : history.world.Coherent) (actions : List Action) :
    (history.run actions).world.Coherent := by
  induction actions generalizing history with
  | nil => exact h
  | cons action actions ih => exact ih (h.enact action)

end History

/-- A state that can come of a catalog and a directory without entries. -/
def World.Reachable (world : World) : Prop :=
  ∃ actions, ((History.start (.fresh (.real .empty))).run actions).world = world

theorem World.Reachable.coherent {world : World} (h : world.Reachable) : world.Coherent := by
  obtain ⟨actions, rfl⟩ := h
  refine History.coherent_run ⟨?_, ?_, ?_⟩ actions
  · simp [History.start, fresh]
  · simp [History.start, fresh]
  · simp [History.start, fresh]

/-- The moves that an action means to a watch. -/
def Touch.moves : Touch → List Move
  | .handle lookup change => [.handle lookup change]
  | .poll => [.poll World.turnLimit]
  | .take => [.take]
  | .stop => [.stop]
  | _ => []

namespace Course

/-- The same of the moves that an action means to a watch. -/
theorem run_moves_eq {α : Type} (read : Course → α)
    (keeps : ∀ {move : Move}, (∀ lookup change, move ≠ .handle lookup change) →
      ∀ course : Course, read (course.make move) = read course)
    {touch : Touch} (h : ∀ lookup change, touch ≠ .handle lookup change) (course : Course) :
    read (course.run touch.moves) = read course := by
  refine run_eq_of_unhandled read keeps ?_ course
  cases touch with
  | handle lookup change => exact absurd rfl (h lookup change)
  | _ => simp [Touch.moves]

/-- That the last party gives up changes only when the relay is due. -/
theorem run_drops (course : Course) (drops : Nat) :
    let next := course.run (List.replicate drops Move.drop)
    next.notices = course.notices ∧ next.watch.id = course.watch.id ∧
      next.watch.phase = course.watch.phase ∧ next.watch.isStopped = course.watch.isStopped := by
  induction drops generalizing course with
  | zero => exact ⟨rfl, rfl, rfl, rfl⟩
  | succ drops ih => exact ih (course.make .drop)

/-- One course goes on from another with the given effects, while the consumer gets the given
events. -/
structure GoesOn (course : Course) (effects : List Effect) (got : List Event) (next : Course) :
    Prop where
  notices_eq : next.notices = course.notices ++ Effect.notices effects
  received_eq : next.received = course.received ++ got
  hasLeft_eq : next.hasLeft = (course.hasLeft || decide (.leave ∈ effects))

theorem goesOn_advance (course : Course) (result : Watch × List Effect) :
    course.GoesOn result.2 [] (course.advance result) :=
  ⟨rfl, (List.append_nil _).symm, rfl⟩

theorem goesOn_refl (course : Course) : course.GoesOn [] [] course :=
  ⟨(List.append_nil _).symm, (List.append_nil _).symm, by simp⟩

/-- The course is at the state that is seen of the watch. -/
structure At (glimpse : Glimpse) (course : Course) : Prop where
  watch_eq : glimpse.watch? = some course.watch
  isFed_eq : glimpse.isFed = course.isFed

variable {glimpse : Glimpse} {course : Course}

/-- A check of the feed means that the last party has given up, or nothing. -/
theorem at_checkFeed (h : glimpse.watch? = some course.watch)
    (fed : glimpse.isFed = true → course.isFed = true) :
    ∃ drops, (course.run (List.replicate drops .drop)).At glimpse.checkFeed ∧
      course.GoesOn [] [] (course.run (List.replicate drops .drop)) := by
  cases still : glimpse.isFed with
  | true =>
    refine ⟨0, ?_, goesOn_refl course⟩
    rw [Glimpse.checkFeed_of_isFed still]
    exact ⟨h, still.trans (fed still).symm⟩
  | false =>
    refine ⟨1, ⟨?_, ?_⟩, ?_⟩
    · simp [Glimpse.checkFeed, still, h, make]
    · exact (Glimpse.isFed_checkFeed glimpse).trans still
    · exact ⟨(List.append_nil _).symm, (List.append_nil _).symm, by simp [make]⟩

/-- What a watch does of its own is a move of its course, and then it may leave. -/
theorem at_act (h : course.At glimpse) (action : Watch → Watch × List Effect) :
    ∃ drops,
      ((course.advance (action course.watch)).run (List.replicate drops .drop)).At
        (glimpse.act action) ∧
      course.GoesOn (action course.watch).2 []
        ((course.advance (action course.watch)).run (List.replicate drops .drop)) := by
  have advanced := goesOn_advance course (action course.watch)
  rw [Glimpse.act, h.watch_eq]
  dsimp only
  split
  · have fed (still : ({ glimpse.put (action course.watch).1 with isRegistered := false } :
        Glimpse).isFed = true) : course.isFed = true := by
      rw [← h.isFed_eq]
      simp only [Glimpse.put, Glimpse.isFed, Bool.or_false] at still
      simp [Glimpse.isFed, still]
    obtain ⟨drops, sight, on⟩ := @at_checkFeed _ (course.advance (action course.watch)) rfl fed
    refine ⟨drops, sight, ?_, ?_, ?_⟩
    · rw [on.notices_eq, advanced.notices_eq]
      simp
    · rw [on.received_eq, advanced.received_eq]
      simp
    · rw [on.hasLeft_eq, advanced.hasLeft_eq]
      simp
  · exact ⟨0, ⟨rfl, h.isFed_eq⟩, advanced⟩

/-- Whatever an action means to a watch, its course makes the moves of that. -/
theorem at_after (h : course.At glimpse) (touch : Touch)
    (possible : touch = .enter → glimpse.isHandled = true) :
    ∃ drops, (course.run (touch.moves ++ List.replicate drops .drop)).At (glimpse.after touch) ∧
      course.GoesOn (glimpse.effects touch) (glimpse.delivered? touch).toList
        (course.run (touch.moves ++ List.replicate drops .drop)) := by
  have left {next : Glimpse} (watch : next.watch? = glimpse.watch?)
      (fed : next.isFed = true → glimpse.isFed = true) :
      ∃ drops, (course.run (List.replicate drops .drop)).At next.checkFeed ∧
        course.GoesOn [] [] (course.run (List.replicate drops .drop)) :=
    at_checkFeed (watch.trans h.watch_eq) fun still => h.isFed_eq ▸ fed still
  cases touch with
  | none => exact ⟨0, h, goesOn_refl course⟩
  | handle lookup change =>
    have acted := at_act h (·.handle lookup change)
    simpa [Touch.moves, Glimpse.effects, Glimpse.delivered?, h.watch_eq, Glimpse.after, make]
      using acted
  | poll =>
    have acted := at_act h (Watch.poll glimpse.isFed World.turnLimit)
    rw [h.isFed_eq] at acted
    simpa [Touch.moves, Glimpse.effects, Glimpse.delivered?, h.watch_eq, h.isFed_eq, Glimpse.after,
      make] using acted
  | take =>
    have same : course.run (Touch.take.moves ++ List.replicate 0 .drop) = course.make .take := rfl
    refine ⟨0, ?_, ?_⟩
    · rw [same, make_take]
      exact ⟨by simp [Glimpse.after, h.watch_eq], h.isFed_eq⟩
    · rw [same, make_take]
      exact ⟨(List.append_nil _).symm, by simp [Glimpse.delivered?, h.watch_eq],
        (Bool.or_false _).symm⟩
  | stop =>
    have acted := at_act h Watch.stop
    simpa [Touch.moves, Glimpse.effects, Glimpse.delivered?, h.watch_eq, Glimpse.after, make]
      using acted
  | enter =>
    refine ⟨0, ⟨h.watch_eq, ?_⟩, goesOn_refl course⟩
    have same : glimpse.isFed = (course.run []).isFed := h.isFed_eq
    refine Eq.trans ?_ same
    simp [Glimpse.after, Glimpse.isFed, possible rfl]
  | leave => exact left rfl fun fed => by simp_all [Glimpse.isFed]
  | release => exact left rfl fun fed => by simp_all [Glimpse.isFed]

end Course
end AccessFeed
