import AccessFeed.Proofs.Course
import Mathlib.Data.List.TakeWhile

/-! Where the events of a watch are at any time, phase by phase.

`Course.Flow` ties what was sent to the snapshot and to what the intake accepted; `Course.Blame`
ties the terminal error to the first event that met a full intake. Every small change of a course
keeps both. -/
namespace AccessFeed

namespace Course

/-- The events that notices tell as accepted before the first one they tell as rejected. -/
def timelyEvents (id : WatchId) (notices : List Notice) : List Event :=
  (notices.takeWhile fun notice => (notice.rejected? id).isNone).filterMap (Notice.accepted? id)

/-- The events accepted before the first one was rejected, oldest first. -/
def timely (course : Course) : List Event := timelyEvents course.watch.id course.notices

/-- The terminal error that the first rejected event calls for. -/
def blame (course : Course) : Option Overflow := course.rejected.head?.map Event.overflow

theorem timely_prefix_accepted (course : Course) : course.timely <+: course.accepted :=
  (List.takeWhile_prefix _).filterMap _

theorem takeWhile_eq_self_of_rejected {id : WatchId} {notices : List Notice}
    (h : notices.filterMap (Notice.rejected? id) = []) :
    notices.takeWhile (fun notice => (notice.rejected? id).isNone) = notices := by
  rw [List.takeWhile_eq_self_iff]
  intro notice member
  simpa using List.filterMap_eq_nil_iff.mp h notice member

/-- What comes after a rejection is not timely. -/
theorem timelyEvents_append_of_rejected {id : WatchId} {notices : List Notice}
    (h : notices.filterMap (Notice.rejected? id) ≠ []) (more : List Notice) :
    timelyEvents id (notices ++ more) = timelyEvents id notices := by
  rw [timelyEvents, List.takeWhile_append, if_neg, timelyEvents]
  intro whole
  apply h
  rw [List.filterMap_eq_nil_iff]
  intro notice member
  have same := (List.takeWhile_prefix fun notice : Notice =>
    (notice.rejected? id).isNone).eq_of_length whole
  rw [← same] at member
  simpa using List.mem_takeWhile_imp member

/-- Where nothing is accepted, nothing is timely. -/
theorem timelyEvents_append_of_accepted {id : WatchId} {more : List Notice}
    (h : more.filterMap (Notice.accepted? id) = []) (notices : List Notice) :
    timelyEvents id (notices ++ more) = timelyEvents id notices := by
  by_cases hr : notices.filterMap (Notice.rejected? id) = []
  · have none : (more.takeWhile fun notice => (notice.rejected? id).isNone).filterMap
        (Notice.accepted? id) = [] :=
      List.prefix_nil.mp (h ▸ (List.takeWhile_prefix _).filterMap _)
    rw [timelyEvents, List.takeWhile_append_of_pos, List.filterMap_append, none, List.append_nil,
      timelyEvents, takeWhile_eq_self_of_rejected hr]
    intro notice member
    simpa using List.filterMap_eq_nil_iff.mp hr notice member
  · exact timelyEvents_append_of_rejected hr more

/-- The events sent before the terminal error: part of the snapshot, or all of it and what the
intake accepted, at least until the first rejection. -/
def CutAt (course : Course) (snapshot sent : List Event) : Prop :=
  (sent <+: snapshot ∧ sent ≠ snapshot) ∨
    ∃ live, sent = snapshot ++ live ∧ live <+: course.accepted ∧ course.timely <+: live

/-- Where the events of the snapshot and of the intake are. -/
def Flow (snapshot : List Event) (course : Course) : Prop :=
  match course.watch.phase with
  | .replaying rest =>
    snapshot = course.sent ++ rest.map .added ∧ course.accepted = course.watch.intake
  | .sendingReplay project rest =>
    snapshot = course.sent ++ .added project :: rest.map .added ∧
      course.accepted = course.watch.intake
  | .live => ∃ live, course.sent = snapshot ++ live ∧ course.accepted = live ++ course.watch.intake
  | .sendingLive event =>
    ∃ live, course.sent = snapshot ++ live ∧ course.accepted = live ++ event :: course.watch.intake
  | .sendingFailure _ => course.CutAt snapshot course.sent
  | .finished .stopped => course.sent <+: snapshot ++ course.accepted
  | .finished .producerGone => course.sent = snapshot ++ course.accepted
  | .finished (.failed cause) =>
    ∃ sent, course.sent = sent ++ [.ofOverflow cause] ∧ course.CutAt snapshot sent

/-- Where the terminal error is, and why the relay ended. -/
def Blame (course : Course) : Prop :=
  match course.watch.phase with
  | .replaying _ | .sendingReplay .. | .live | .sendingLive _ => course.watch.fault = course.blame
  | .sendingFailure cause => course.blame = some cause
  | .finished .stopped => course.watch.isStopped = true
  | .finished .producerGone => course.rejected = [] ∧ course.isFed = false
  | .finished (.failed cause) => course.blame = some cause

variable {move : Move} {course next : Course} {snapshot : List Event}

theorem timely_relay {watch : Watch} {effects : List Effect}
    (advance : course.watch.Advance course.isFed watch effects) :
    (course.advance (watch, effects)).timely = course.timely := by
  simp only [timely, watch_advance, id_of_advance advance]
  exact timelyEvents_append_of_accepted (filterMap_accepted_relay advance _) _

theorem blame_advance {result : Watch × List Effect} (h : result.1.id = course.watch.id) :
    (course.advance result).blame = course.blame.or
      (((Effect.notices result.2).filterMap
        (Notice.rejected? course.watch.id)).head?.map Event.overflow) := by
  rw [blame, rejected_advance h, List.head?_append, Option.map_or, blame]

theorem Blame.aside {known : NameSet} {begun isDue heedsIntake heedsFault : Bool}
    {told : List Notice} (asides : ∀ notice ∈ told, notice.isAside = true) (h : course.Blame) :
    Blame { course with
      watch := { course.watch with known, begun, isDue, heedsIntake, heedsFault }
      notices := course.notices ++ told } := by
  have same := Notice.filterMap_rejected_of_isAside asides course.watch.id
  simpa [Blame, blame, rejected, same] using h

theorem Blame.arrive {event : Event} {watch : Watch} {effects : List Effect}
    (arrival : course.watch.Arrival event watch effects) (h : course.Blame) :
    (course.advance (watch, effects)).Blame := by
  cases arrival with
  | discard finished =>
    simpa [Blame, blame_advance, rejected_advance, Notice.rejected?] using h
  | accept active room =>
    simpa [Blame, blame_advance, rejected_advance, Notice.rejected?] using h
  | fail active full fault =>
    simp only [Blame] at h ⊢
    cases phase : course.watch.phase with
    | finished exit => simp [phase, Phase.isFinished] at active
    | _ => simp_all [blame_advance, Notice.rejected?] <;> simp [← h]
  | failAgain active full fault =>
    simp only [Blame] at h ⊢
    cases phase : course.watch.phase with
    | finished exit => simp [phase, Phase.isFinished] at active
    | _ => simp_all [blame_advance, Notice.rejected?] <;> simp [← h]

theorem Blame.relay {watch : Watch} {effects : List Effect}
    (advance : course.watch.Advance course.isFed watch effects) (h : course.Blame) :
    (course.advance (watch, effects)).Blame := by
  have same : (course.advance (watch, effects)).blame = course.blame := by
    simp only [blame, rejected_relay advance]
  simp only [Blame, same, rejected_relay advance, watch_advance]
  cases advance with
  | catchUp phase => simpa only [Blame, phase] using h
  | findFault phase fault =>
    simp only [Blame, phase, fault] at h
    exact h.symm
  | replay phase fault => simpa only [Blame, phase] using h
  | quit phase stopped => exact stopped
  | sendReplay phase running room =>
    simp only [Blame, phase] at h
    exact h
  | takeEvent phase running intake => simpa only [Blame, phase] using h
  | takeFault phase running intake fault =>
    simp only [Blame, phase, fault] at h
    exact h.symm
  | starve phase running intake fault unfed =>
    simp only [Blame, blame, phase, fault] at h
    exact ⟨by simpa using h.symm, unfed⟩
  | sendLive phase running room =>
    simp only [Blame, phase] at h
    exact h
  | sendFailure phase running room =>
    simp only [Blame, phase] at h
    exact h

theorem Blame.change (change : Change move course next) (h : course.Blame) : next.Blame := by
  cases change with
  | aside known begun isDue heedsIntake heedsFault told asides => exact h.aside asides
  | arrive kind regular arrival => exact h.arrive arrival
  | relay kind advance => exact h.relay advance
  | take kind outbox => exact h
  | stop kind =>
    simp only [Blame] at h ⊢
    split at h <;> simp_all [blame, rejected]
  | drop kind =>
    simp only [Blame] at h ⊢
    split at h <;> simp_all [blame, rejected]

theorem CutAt.mono {sent : List Event} (h : course.CutAt snapshot sent)
    (accepted : course.accepted <+: next.accepted) (timely : next.timely = course.timely) :
    next.CutAt snapshot sent := by
  obtain part | ⟨live, all, within, covered⟩ := h
  · exact .inl part
  · exact .inr ⟨live, all, within.trans accepted, timely ▸ covered⟩

theorem CutAt.prefix {sent : List Event} (h : course.CutAt snapshot sent) :
    sent <+: snapshot ++ course.accepted := by
  obtain ⟨part, -⟩ | ⟨live, rfl, within, -⟩ := h
  · exact part.trans (List.prefix_append _ _)
  · exact (List.prefix_append_right_inj _).mpr within

/-- What was sent is never ahead of what there was to send. -/
theorem Flow.prefix (h : course.Flow snapshot)
    (phase : course.watch.phase.isFinished = false) :
    course.sent <+: snapshot ++ course.accepted := by
  unfold Flow at h
  split at h
  · rw [h.1, List.append_assoc]
    exact List.prefix_append _ _
  · rw [h.1, List.append_assoc]
    exact List.prefix_append _ _
  · obtain ⟨live, all, accepted⟩ := h
    rw [all, accepted, ← List.append_assoc]
    exact List.prefix_append _ _
  · obtain ⟨live, all, accepted⟩ := h
    rw [all, accepted, ← List.append_assoc]
    exact List.prefix_append _ _
  · exact h.prefix
  all_goals simp_all [Phase.isFinished]

theorem Flow.relay {watch : Watch} {effects : List Effect}
    (advance : course.watch.Advance course.isFed watch effects) (h : course.Flow snapshot) :
    (course.advance (watch, effects)).Flow snapshot := by
  have same := accepted_relay advance
  have keep {sent : List Event} (h : course.CutAt snapshot sent) :
      (course.advance (watch, effects)).CutAt snapshot sent :=
    h.mono (same ▸ List.prefix_rfl) (timely_relay advance)
  simp only [Flow, same, watch_advance]
  cases advance with
  | catchUp phase =>
    simp only [Flow, phase] at h
    exact ⟨[], by simpa [sent] using h.1.symm, by simpa using h.2⟩
  | findFault phase fault =>
    simp only [Flow, phase] at h
    have part : course.CutAt snapshot course.sent := .inl ⟨by simp [h.1], by simp [h.1]⟩
    exact keep part
  | replay phase fault =>
    simp only [Flow, phase] at h
    exact h
  | quit phase stopped =>
    apply h.prefix
    obtain live | sending := phase
    · rw [live]
      rfl
    · cases phase : course.watch.phase <;> simp_all [Phase.isSending, Phase.isFinished]
  | sendReplay phase running room =>
    simp only [Flow, phase] at h
    simpa [sent, Watch.push] using h
  | takeEvent phase running intake =>
    simp only [Flow, phase, intake] at h
    exact h
  | takeFault phase running intake fault =>
    simp only [Flow, phase, intake] at h
    obtain ⟨live, all, accepted⟩ := h
    rw [List.append_nil] at accepted
    have whole : course.CutAt snapshot course.sent :=
      .inr ⟨live, all, accepted ▸ List.prefix_rfl, accepted ▸ course.timely_prefix_accepted⟩
    exact keep whole
  | starve phase running intake fault unfed =>
    simp only [Flow, phase, intake] at h
    obtain ⟨live, all, accepted⟩ := h
    simpa [Watch.finish, sent, accepted] using all
  | sendLive phase running room =>
    simp only [Flow, phase] at h
    obtain ⟨live, all, accepted⟩ := h
    refine ⟨live ++ [_], ?_, by simpa [Watch.push] using accepted⟩
    simp only [sent] at all
    simp [sent, Watch.push, ← List.append_assoc, all]
  | sendFailure phase running room =>
    simp only [Flow, phase] at h
    exact ⟨course.sent, by simp [sent, Watch.push, Watch.finish], keep h⟩

theorem Flow.congr (h : course.Flow snapshot) (phase : next.watch.phase = course.watch.phase)
    (intake : next.watch.intake = course.watch.intake) (sent : next.sent = course.sent)
    (accepted : next.accepted = course.accepted) (timely : next.timely = course.timely) :
    next.Flow snapshot := by
  simp only [Flow, CutAt, phase, intake, sent, accepted, timely]
  exact h

/-- Notices that tell of nothing accepted leave the flow as it is. -/
theorem Flow.tell {watch : Watch} {told : List Notice} {hasLeft : Bool} (h : course.Flow snapshot)
    (none : told.filterMap (Notice.accepted? course.watch.id) = [])
    (id : watch.id = course.watch.id) (phase : watch.phase = course.watch.phase)
    (intake : watch.intake = course.watch.intake) (outbox : watch.outbox = course.watch.outbox) :
    Flow snapshot { course with watch, hasLeft, notices := course.notices ++ told } := by
  refine h.congr phase intake (by simp [sent, outbox]) ?_ ?_
  · simp only [accepted, id, List.filterMap_append, none, List.append_nil]
  · simp only [timely, id]
    exact timelyEvents_append_of_accepted none _

theorem accepted_queued {watch : Watch} (id : watch.id = course.watch.id) (event : Event) :
    (course.advance (watch, [.note (.queued course.watch.id event)])).accepted
      = course.accepted ++ [event] := by
  simp [accepted_advance, id, Notice.accepted?]

theorem Flow.arrive {event : Event} {watch : Watch} {effects : List Effect}
    (arrival : course.watch.Arrival event watch effects) (hb : course.Blame)
    (h : course.Flow snapshot) : (course.advance (watch, effects)).Flow snapshot := by
  cases arrival with
  | discard finished => exact h.tell (by simp [Notice.accepted?]) rfl rfl rfl rfl
  | accept active room =>
    cases phase : course.watch.phase with
    | replaying rest =>
      simp only [Flow, phase] at h ⊢
      exact ⟨h.1, by simp [accepted_queued, h.2]⟩
    | sendingReplay project rest =>
      simp only [Flow, phase] at h ⊢
      exact ⟨h.1, by simp [accepted_queued, h.2]⟩
    | live =>
      simp only [Flow, phase] at h ⊢
      obtain ⟨live, all, accepted⟩ := h
      exact ⟨live, all, by simp [accepted_queued, accepted]⟩
    | sendingLive held =>
      simp only [Flow, phase] at h ⊢
      obtain ⟨live, all, accepted⟩ := h
      exact ⟨live, all, by simp [accepted_queued, accepted]⟩
    | sendingFailure cause =>
      -- an event accepted while the terminal error is sent comes after the first rejection
      have late : timelyEvents course.watch.id (course.notices ++ [.queued course.watch.id event])
          = course.timely := by
        apply timelyEvents_append_of_rejected
        intro none
        simp [Blame, phase, blame, rejected, none] at hb
      simp only [Flow, phase] at h ⊢
      exact h.mono (by simp [accepted_queued]) late
    | finished exit => simp [phase, Phase.isFinished] at active
  | fail active full fault => exact h.tell (by simp [Notice.accepted?]) rfl rfl rfl rfl
  | failAgain active full fault => exact h.tell (by simp [Notice.accepted?]) rfl rfl rfl rfl

theorem Flow.change (change : Change move course next) (hb : course.Blame)
    (h : course.Flow snapshot) : next.Flow snapshot := by
  cases change with
  | aside known begun isDue heedsIntake heedsFault told asides =>
    exact h.tell (Notice.filterMap_accepted_of_isAside asides _) rfl rfl rfl rfl
  | arrive kind regular arrival => exact h.arrive arrival hb
  | relay kind advance => exact h.relay advance
  | take kind outbox => exact h.congr rfl rfl (by simp [sent, outbox]) rfl rfl
  | stop kind => exact h.congr rfl rfl rfl rfl rfl
  | drop kind => exact h.congr rfl rfl rfl rfl rfl

end Course
end AccessFeed
