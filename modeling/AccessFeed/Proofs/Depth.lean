import AccessFeed.Proofs.History
import AccessFeed.Proofs.Told

/-! How many events a relay leaves in an intake when it takes one out, read off the states before
its steps. `World.filterMap_depth_enact` says that this is what is told of takes, in order. -/
namespace AccessFeed

/-- How many events were left in an intake from which one is told to have been taken. -/
def Notice.depth? : Notice → Option Nat
  | .taken _ depth => some depth
  | _ => none

namespace Watch

/-- How many events the next step of a relay leaves in the intake, if it takes one out. -/
def left? (fed : Bool) (watch : Watch) : Option Nat :=
  (watch.step fed).bind fun (next, _) =>
    match watch.phase, next.phase with
    | .live, .sendingLive _ => some next.intake.length
    | _, _ => none

/-- How many events are left in the intake after each take while a relay runs. -/
def depths (fed : Bool) : Nat → Nat → Watch → List Nat
  | 0, _, _ => []
  | fuel + 1, limit, watch =>
    if limit < watch.phase.cost then []
    else
      match watch.step fed with
      | none => []
      | some (next, _) =>
        (watch.left? fed).toList ++ depths fed fuel (limit - watch.phase.cost) next

variable {fed : Bool} {watch next : Watch} {effects : List Effect}

theorem filterMap_depth_step (step : watch.step fed = some (next, effects)) :
    (Effect.notices effects).filterMap Notice.depth? = (watch.left? fed).toList := by
  rw [left?, step, Option.bind_some]
  cases advance_of_step step with
  | quit =>
    generalize watch.phase = phase
    cases phase <;> rfl
  | catchUp phase | findFault phase | replay phase | sendReplay phase | takeEvent phase
  | takeFault phase | starve phase | sendLive phase | sendFailure phase =>
    rw [phase]
    rfl

/-- Takes are told with what they leave in the intake. -/
theorem filterMap_depth_run (watch : Watch) (fuel limit : Nat) :
    (Effect.notices (watch.run fed fuel limit).effects).filterMap Notice.depth? =
      watch.depths fed fuel limit := by
  induction fuel generalizing watch limit with
  | zero => rfl
  | succ fuel ih =>
    rw [run, depths]
    split
    · rfl
    · cases step : watch.step fed with
      | none => rfl
      | some result =>
        obtain ⟨next, effects⟩ := result
        dsimp only
        rw [Effect.notices_append, List.filterMap_append, filterMap_depth_step step, ih]

theorem filterMap_depth_poll (watch : Watch) (limit : Nat) :
    (Effect.notices (watch.poll fed limit).2).filterMap Notice.depth? =
      watch.begin.1.depths fed watch.begin.1.work limit := by
  have begun : (Effect.notices watch.begin.2).filterMap Notice.depth? = [] := by
    unfold begin
    split <;> rfl
  rw [← filterMap_depth_run, poll, Effect.notices_append, List.filterMap_append, begun,
    List.nil_append]

theorem filterMap_depth_handle (watch : Watch) (lookup : Lookup) (change : AccessChange) :
    (Effect.notices (watch.handle lookup change).2).filterMap Notice.depth? = [] := by
  have silent {watch next : Watch} {event : Event} {effects : List Effect}
      (arrival : Arrival watch event next effects) :
      (Effect.notices effects).filterMap Notice.depth? = [] := by
    cases arrival <;> rfl
  have handling := watch.handling_handle lookup change
  generalize watch.handle lookup change = result at handling ⊢
  obtain ⟨next, effects⟩ := result
  dsimp only at handling ⊢
  cases handling with
  | ignore => rfl
  | skip => rfl
  | revoke revoked known arrival => exact silent arrival
  | grant granted resolved arrival =>
    rw [Effect.notices_note, List.filterMap_cons_none rfl]
    exact silent arrival

/-- A relay takes one event at a time and puts none back. -/
theorem length_intake_step (step : watch.step fed = some (next, effects)) :
    next.intake.length + (watch.left? fed).toList.length ≤ watch.intake.length ∧
      ∀ depth ∈ watch.left? fed, depth = next.intake.length := by
  rw [left?, step, Option.bind_some]
  cases advance_of_step step with
  | takeEvent phase running intake => simp [phase, intake]
  | quit =>
    generalize watch.phase = phase
    cases phase <;> simp [finish]
  | catchUp phase | findFault phase | replay phase | sendReplay phase | takeFault phase
  | starve phase | sendLive phase | sendFailure phase =>
    simp [phase, finish, push]

/-- A take leaves fewer events than there were. -/
theorem lt_of_mem_depths {depth fuel limit : Nat} (member : depth ∈ watch.depths fed fuel limit) :
    depth < watch.intake.length := by
  induction fuel generalizing watch limit with
  | zero => cases member
  | succ fuel ih =>
    rw [depths] at member
    split at member
    · cases member
    · cases step : watch.step fed with
      | none =>
        rw [step] at member
        cases member
      | some result =>
        obtain ⟨next, effects⟩ := result
        obtain ⟨fewer, left⟩ := length_intake_step step
        rw [step] at member
        obtain now | later := List.mem_append.mp member
        · have same := left depth (Option.mem_toList.mp now)
          have one := List.length_pos_of_mem now
          omega
        · have less := ih later
          omega

end Watch

theorem filterMap_depth_snapshot (user : String) (listing : List (String × Answer)) :
    (snapshot user listing).2.filterMap Notice.depth? = [] := by
  induction listing with
  | nil => rfl
  | cons entry rest ih =>
    obtain ⟨name, answer⟩ := entry
    rw [snapshot]
    cases answer <;> exact ih

namespace World

/-- How many events are left in an intake after each take of an action. -/
def depthsOf (world : World) : Action → List Nat
  | .poll id => world.watches[id]?.elim [] fun watch =>
    watch.begin.1.depths (world.feeds id) watch.begin.1.work turnLimit
  | _ => []

/-- How many events are left in an intake after each take in a run, over all watches. -/
def depths (world : World) : List Action → List Nat
  | [] => []
  | action :: rest => world.depthsOf action ++ (world.enact action).1.depths rest

/-- What an action tells of takes is what they leave. -/
theorem filterMap_depth_enact (world : World) (action : Action) :
    (world.enact action).2.filterMap Notice.depth? = world.depthsOf action := by
  have still (glimpse : Glimpse) (touch : Touch) (other : touch ≠ .poll) :
      (Effect.notices (glimpse.effects touch)).filterMap Notice.depth? = [] := by
    cases watch : glimpse.watch? with
    | none =>
      rw [effects_of_absent watch]
      rfl
    | some watch' =>
      cases touch with
      | handle lookup change =>
        rw [Glimpse.effects, watch]
        exact watch'.filterMap_depth_handle lookup change
      | stop =>
        rw [Glimpse.effects, watch, Option.elim, Watch.stop]
        split <;> rfl
      | poll => exact absurd rfl other
      | _ => rfl
  have clerical (notice : Notice) (h : notice.isClerical = true) : notice.depth? = none := by
    cases notice <;> simp_all [Notice.isClerical, Notice.depth?]
  rw [filterMap_enact clerical, told, List.filterMap_append, filterMap_depth_snapshot,
    List.nil_append, List.filterMap_flatMap]
  cases action with
  | poll id =>
    simp only [touches, List.flatMap_singleton, depthsOf, glimpse, Glimpse.effects]
    cases world.watches[id]? with
    | none => rfl
    | some watch => exact watch.filterMap_depth_poll turnLimit
  | _ =>
    refine List.flatMap_eq_nil_iff.mpr fun visit member => still _ _ ?_
    grind [touches]

end World

namespace History

theorem filterMap_depth_run (history : History) (actions : List Action) :
    (history.run actions).notices.filterMap Notice.depth? =
      history.notices.filterMap Notice.depth? ++ history.world.depths actions := by
  induction actions generalizing history with
  | nil => exact (List.append_nil _).symm
  | cons action rest ih =>
    rw [run_cons, ih, World.depths, next, List.filterMap_append, World.filterMap_depth_enact,
      List.append_assoc]

end History
end AccessFeed
