import AccessFeed.Proofs.Touch

/-! A watch under another number. The number only stands in what is told of the watch: whatever
happens to the watch, it comes to the same under every number. -/
namespace AccessFeed

/-- A notice of a watch, told of the watch with the given number instead. -/
def Notice.renumber (id : WatchId) : Notice → Notice
  | .changeSkipped _ name cause => .changeSkipped id name cause
  | .queued _ event => .queued id event
  | .overflowed _ user event => .overflowed id user event
  | .alreadyFailed _ => .alreadyFailed id
  | .discarded _ event => .discarded id event
  | .begun _ => .begun id
  | .taken _ depth => .taken id depth
  | .pushed _ event => .pushed id event
  | .finished _ exit => .finished id exit
  | .stopped _ => .stopped id
  | notice => notice

def Effect.renumber (id : WatchId) : Effect → Effect
  | .note notice => .note (notice.renumber id)
  | .leave => .leave

namespace Notice

theorem renumber_renumber (id other : WatchId) (notice : Notice) :
    (notice.renumber other).renumber id = notice.renumber id := by
  cases notice <;> rfl

theorem renumber_self {id : WatchId} {notice : Notice} (own : notice.watch? = some id) :
    notice.renumber id = notice := by
  cases notice <;> simp_all [renumber, watch?]

theorem accepted?_renumber {id : WatchId} {notice : Notice} (own : notice.watch? = some id)
    (other : WatchId) : (notice.renumber other).accepted? other = notice.accepted? id := by
  cases notice <;> simp_all [renumber, watch?, accepted?]

theorem rejected?_renumber {id : WatchId} {notice : Notice} (own : notice.watch? = some id)
    (other : WatchId) : (notice.renumber other).rejected? other = notice.rejected? id := by
  cases notice <;> simp_all [renumber, watch?, rejected?]

end Notice

namespace Effect

theorem notices_renumber (id : WatchId) (effects : List Effect) :
    notices (effects.map (renumber id)) = (notices effects).map (Notice.renumber id) := by
  induction effects with
  | nil => rfl
  | cons effect rest ih =>
    cases effect with
    | note notice => exact congrArg (notice.renumber id :: ·) ih
    | leave => exact ih

theorem leave_mem_renumber {id : WatchId} {effects : List Effect} :
    .leave ∈ effects.map (renumber id) ↔ .leave ∈ effects := by
  induction effects with
  | nil => rfl
  | cons effect rest ih => cases effect <;> simp_all [renumber]

end Effect

namespace Watch

def renumber (id : WatchId) (watch : Watch) : Watch := { watch with id }

/-- The outcome of an operation under another number. -/
def renumberResult (id : WatchId) (result : Watch × List Effect) : Watch × List Effect :=
  (result.1.renumber id, result.2.map (Effect.renumber id))

variable (id : WatchId) (watch : Watch)

@[simp] theorem subscriber_renumber : (watch.renumber id).subscriber = watch.subscriber := rfl

@[simp] theorem fault_renumber : (watch.renumber id).fault = watch.fault := rfl

@[simp] theorem phase_renumber : (watch.renumber id).phase = watch.phase := rfl

@[simp] theorem work_renumber : (watch.renumber id).work = watch.work := rfl

theorem renumber_renumber (other : WatchId) :
    (watch.renumber other).renumber id = watch.renumber id := rfl

theorem renumber_self {id : WatchId} {watch : Watch} (h : watch.id = id) :
    watch.renumber id = watch := by
  subst h
  rfl

theorem enqueue_renumber (event : Event) :
    (watch.renumber id).enqueue event = renumberResult id (watch.enqueue event) := by
  unfold enqueue renumber
  dsimp only
  split
  · rfl
  · split
    · rfl
    · split <;> rfl

theorem revoke_renumber (name : String) :
    (watch.renumber id).revoke name = renumberResult id (watch.revoke name) := by
  unfold revoke renumber
  dsimp only
  split
  · exact enqueue_renumber id { watch with known := watch.known.erase name } _
  · rfl

theorem grant_renumber (lookup : Lookup) (name : String) :
    (watch.renumber id).grant lookup name = renumberResult id (watch.grant lookup name) := by
  unfold grant
  cases lookup name with
  | error cause => rfl
  | ok object =>
    have arrived := enqueue_renumber id { watch with known := watch.known.insert name }
      (if watch.known.contains name then .modified object.project else .added object.project)
    exact congrArg (fun result : Watch × List Effect =>
      (result.1, .note (.asked name true) :: result.2)) arrived

theorem handle_renumber (lookup : Lookup) (change : AccessChange) :
    (watch.renumber id).handle lookup change = renumberResult id (watch.handle lookup change) := by
  simp only [handle, subscriber_renumber]
  cases change.bearing watch.subscriber with
  | granted => exact grant_renumber id watch lookup change.name
  | revoked => exact revoke_renumber id watch change.name
  | unaffected => rfl

theorem stop_renumber : (watch.renumber id).stop = renumberResult id watch.stop := by
  unfold stop renumber
  dsimp only
  split <;> rfl

theorem take_renumber :
    (watch.renumber id).take = (watch.take.1, watch.take.2.renumber id) := by
  unfold take renumber
  dsimp only
  split <;> rfl

theorem send_renumber {held : Event} {next next' : Watch → Watch × List Effect}
    (same : ∀ watch : Watch, next' (watch.renumber id) = renumberResult id (next watch)) :
    (watch.renumber id).send held next' = (watch.send held next).map (renumberResult id) := by
  have pushed : next' ((watch.renumber id).push held) =
      renumberResult id (next (watch.push held)) :=
    same (watch.push held)
  unfold send
  rw [pushed]
  unfold renumber
  dsimp only
  split
  · rfl
  · split <;> rfl

theorem step_renumber (fed : Bool) :
    (watch.renumber id).step fed = (watch.step fed).map (renumberResult id) := by
  unfold step
  rw [phase_renumber]
  cases watch.phase with
  | replaying rest =>
    cases rest with
    | nil => rfl
    | cons project rest =>
      dsimp only
      rw [fault_renumber]
      cases watch.fault <;> rfl
  | sendingReplay project rest => exact send_renumber id watch fun _ => rfl
  | live =>
    unfold renumber
    dsimp only
    split
    · rfl
    · split
      · rfl
      · split
        · rfl
        · split <;> rfl
  | sendingLive event => exact send_renumber id watch fun _ => rfl
  | sendingFailure cause => exact send_renumber id watch fun _ => rfl
  | finished exit => rfl

theorem run_renumber (fed : Bool) (fuel limit : Nat) :
    (watch.renumber id).run fed fuel limit =
      ⟨(watch.run fed fuel limit).watch.renumber id,
        (watch.run fed fuel limit).effects.map (Effect.renumber id),
        (watch.run fed fuel limit).isCut⟩ := by
  induction fuel generalizing limit watch with
  | zero => rfl
  | succ fuel ih =>
    rw [run, run, phase_renumber, step_renumber]
    split
    · rfl
    · cases watch.step fed with
      | none => rfl
      | some result =>
        obtain ⟨next, effects⟩ := result
        simp only [Option.map_some, renumberResult, ih, List.map_append]

theorem begin_renumber : (watch.renumber id).begin = renumberResult id watch.begin := by
  unfold begin renumber
  dsimp only
  split <;> rfl

theorem poll_renumber (fed : Bool) (limit : Nat) :
    (watch.renumber id).poll fed limit = renumberResult id (watch.poll fed limit) := by
  simp only [poll, begin_renumber, renumberResult, run_renumber, work_renumber, List.map_append]
  split <;> rfl

end Watch

namespace Glimpse

def renumber (id : WatchId) (glimpse : Glimpse) : Glimpse :=
  { glimpse with watch? := glimpse.watch?.map (Watch.renumber id) }

variable (id : WatchId) (glimpse : Glimpse)

theorem checkFeed_renumber : (glimpse.renumber id).checkFeed = glimpse.checkFeed.renumber id := by
  have fed : (glimpse.renumber id).isFed = glimpse.isFed := rfl
  unfold checkFeed
  rw [fed]
  split
  · rfl
  · simp only [renumber, Option.map_map]
    rfl

theorem dismiss_renumber : (glimpse.renumber id).dismiss = glimpse.dismiss.renumber id :=
  checkFeed_renumber id { glimpse with isRegistered := false }

theorem act_renumber {action action' : Watch → Watch × List Effect}
    (same : ∀ watch : Watch, action' (watch.renumber id) = Watch.renumberResult id (action watch)) :
    (glimpse.renumber id).act action' = (glimpse.act action).renumber id := by
  obtain ⟨watch?, isHandled, isRegistered⟩ := glimpse
  cases watch? with
  | none => rfl
  | some watch =>
    simp only [act, renumber, Option.map_some, same, Watch.renumberResult,
      Effect.leave_mem_renumber]
    split
    · exact dismiss_renumber id (put ⟨some watch, isHandled, isRegistered⟩ (action watch).1)
    · rfl

/-- What happens to a watch does not depend on its number. -/
theorem after_renumber (touch : Touch) :
    (glimpse.renumber id).after touch = (glimpse.after touch).renumber id := by
  cases touch with
  | none => rfl
  | handle lookup change =>
    exact act_renumber id glimpse fun watch => watch.handle_renumber id lookup change
  | poll => exact act_renumber id glimpse fun watch => watch.poll_renumber id _ _
  | take =>
    obtain ⟨watch?, isHandled, isRegistered⟩ := glimpse
    cases watch? with
    | none => rfl
    | some watch => simp only [after, renumber, Option.map_some, Watch.take_renumber]
  | stop => exact act_renumber id glimpse fun watch => watch.stop_renumber id
  | enter => rfl
  | leave => exact dismiss_renumber id glimpse
  | release => exact checkFeed_renumber id { glimpse with isHandled := false }

theorem effects_renumber (touch : Touch) :
    (glimpse.renumber id).effects touch = (glimpse.effects touch).map (Effect.renumber id) := by
  obtain ⟨watch?, isHandled, isRegistered⟩ := glimpse
  cases watch? with
  | none => cases touch <;> rfl
  | some watch =>
    cases touch with
    | handle lookup change => exact congrArg Prod.snd (watch.handle_renumber id lookup change)
    | poll => exact congrArg Prod.snd (watch.poll_renumber id _ _)
    | stop => exact congrArg Prod.snd (watch.stop_renumber id)
    | _ => rfl

theorem delivered?_renumber (touch : Touch) :
    (glimpse.renumber id).delivered? touch = glimpse.delivered? touch := by
  obtain ⟨watch?, isHandled, isRegistered⟩ := glimpse
  cases watch? <;> cases touch <;> rfl

end Glimpse
end AccessFeed
