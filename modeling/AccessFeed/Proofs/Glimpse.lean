import AccessFeed.Proofs.Course
import AccessFeed.World

/-! What a state holds of a single watch. Every operation on a watch changes what is held of that
watch in a way of its own, and leaves alone what is held of any other. -/
namespace AccessFeed

/-- What a state holds of one watch. -/
structure Glimpse where
  watch? : Option Watch
  /-- Its creator can still hand it changes. -/
  isHandled : Bool
  isRegistered : Bool

namespace Glimpse

def isFed (glimpse : Glimpse) : Bool := glimpse.isHandled || glimpse.isRegistered

def put (glimpse : Glimpse) (watch : Watch) : Glimpse := { glimpse with watch? := some watch }

def checkFeed (glimpse : Glimpse) : Glimpse :=
  if glimpse.isFed then glimpse else { glimpse with watch? := glimpse.watch?.map Watch.starve }

def dismiss (glimpse : Glimpse) : Glimpse := { glimpse with isRegistered := false }.checkFeed

def act (glimpse : Glimpse) (action : Watch → Watch × List Effect) : Glimpse :=
  match glimpse.watch? with
  | some watch =>
    if .leave ∈ (action watch).2 then (glimpse.put (action watch).1).dismiss
    else glimpse.put (action watch).1
  | none => glimpse

theorem starve_starve (watch : Watch) : watch.starve.starve = watch.starve := by
  simp [Watch.starve, Watch.wakeIf]

@[simp] theorem isHandled_checkFeed (glimpse : Glimpse) :
    glimpse.checkFeed.isHandled = glimpse.isHandled := by
  unfold checkFeed
  split <;> rfl

@[simp] theorem isRegistered_checkFeed (glimpse : Glimpse) :
    glimpse.checkFeed.isRegistered = glimpse.isRegistered := by
  unfold checkFeed
  split <;> rfl

@[simp] theorem isFed_checkFeed (glimpse : Glimpse) :
    glimpse.checkFeed.isFed = glimpse.isFed := by
  simp [isFed]

@[simp] theorem isHandled_dismiss (glimpse : Glimpse) :
    glimpse.dismiss.isHandled = glimpse.isHandled := isHandled_checkFeed _

@[simp] theorem isRegistered_dismiss (glimpse : Glimpse) :
    glimpse.dismiss.isRegistered = false := isRegistered_checkFeed _

theorem checkFeed_of_isFed {glimpse : Glimpse} (h : glimpse.isFed = true) :
    glimpse.checkFeed = glimpse := if_pos h

theorem checkFeed_checkFeed (glimpse : Glimpse) :
    glimpse.checkFeed.checkFeed = glimpse.checkFeed := by
  cases fed : glimpse.isFed with
  | true => rw [checkFeed_of_isFed fed, checkFeed_of_isFed fed]
  | false =>
    obtain ⟨watch?, isHandled, isRegistered⟩ := glimpse
    simp only [isFed, Bool.or_eq_false_iff] at fed
    obtain ⟨rfl, rfl⟩ := fed
    cases watch? <;> simp [checkFeed, isFed, starve_starve]

theorem dismiss_dismiss (glimpse : Glimpse) : glimpse.dismiss.dismiss = glimpse.dismiss := by
  have same : { glimpse.dismiss with isRegistered := false } = glimpse.dismiss := by
    rw [← isRegistered_dismiss glimpse]
  rw [dismiss, same, dismiss, checkFeed_checkFeed]

end Glimpse

namespace Host

theorem registers_remove (host : Host) (other id : WatchId) :
    (host.remove other).1.registers id = (other != id && host.registers id) := by
  cases host with
  | real catalog => exact Catalog.registers_remove catalog other id
  | double standIn => simp [remove, registers]
  | gone => simp [remove, registers]

theorem registers_register_of_ne {other id : WatchId} (h : other ≠ id) (host : Host) :
    (host.register other).1.registers id = host.registers id := by
  cases host with
  | real catalog => simp [register, registers, h]
  | double standIn => rfl
  | gone => rfl

end Host

namespace World

/-- What the state holds of a watch. -/
def glimpse (world : World) (id : WatchId) : Glimpse where
  watch? := world.watches[id]?
  isHandled := world.handlers.contains id
  isRegistered := world.host.registers id

theorem isFed_glimpse (world : World) (id : WatchId) :
    (world.glimpse id).isFed = world.feeds id := rfl

variable {other id : WatchId}

theorem glimpse_put (world : World) (id : WatchId) (watch : Watch) :
    (world.put id watch).glimpse id = (world.glimpse id).put watch := by
  simp [glimpse, put, Glimpse.put]

theorem glimpse_put_of_ne (h : other ≠ id) (world : World) (watch : Watch) :
    (world.put other watch).glimpse id = world.glimpse id := by
  simp [glimpse, put, Std.ExtTreeMap.getElem?_insert, h]

theorem glimpse_checkFeed (world : World) (id : WatchId) :
    (world.checkFeed id).glimpse id = (world.glimpse id).checkFeed := by
  unfold checkFeed Glimpse.checkFeed
  rw [isFed_glimpse]
  cases found : world.watches[id]? with
  | none =>
    have same : (world.glimpse id).watch? = none := found
    simp only [same, Option.map_none]
    rw [← same, ite_self]
  | some watch =>
    have same : (world.glimpse id).watch? = some watch := found
    simp only [same, Option.map_some]
    split
    · rfl
    · exact glimpse_put world id watch.starve

theorem glimpse_checkFeed_of_ne (h : other ≠ id) (world : World) :
    (world.checkFeed other).glimpse id = world.glimpse id := by
  unfold checkFeed
  split
  · split
    · rfl
    · exact glimpse_put_of_ne h world _
  · rfl

theorem glimpse_unregister (world : World) (id : WatchId) :
    (world.unregister id).1.glimpse id = (world.glimpse id).dismiss := by
  have removed : ({ world with host := (world.host.remove id).1 } : World).glimpse id =
      { world.glimpse id with isRegistered := false } := by
    simp [glimpse, Host.registers_remove]
  rw [unregister, glimpse_checkFeed, removed, Glimpse.dismiss]

theorem glimpse_unregister_of_ne (h : other ≠ id) (world : World) :
    (world.unregister other).1.glimpse id = world.glimpse id := by
  have removed : ({ world with host := (world.host.remove other).1 } : World).glimpse id =
      world.glimpse id := by
    simp [glimpse, Host.registers_remove, h]
  rw [unregister, glimpse_checkFeed_of_ne h, removed]

theorem glimpse_carryOut (id : WatchId) (effects : List Effect) (world : World) :
    (carryOut id effects world).1.glimpse id =
      if .leave ∈ effects then (world.glimpse id).dismiss else world.glimpse id := by
  induction effects generalizing world with
  | nil => simp [carryOut]
  | cons effect rest ih =>
    cases effect with
    | note notice => simpa [carryOut] using ih world
    | leave =>
      have left := ih (world.unregister id).1
      rw [glimpse_unregister, Glimpse.dismiss_dismiss, ite_self] at left
      simpa [carryOut] using left

theorem glimpse_carryOut_of_ne (h : other ≠ id) (effects : List Effect) (world : World) :
    (carryOut other effects world).1.glimpse id = world.glimpse id := by
  induction effects generalizing world with
  | nil => rfl
  | cons effect rest ih =>
    cases effect with
    | note notice => exact ih world
    | leave => exact (ih _).trans (glimpse_unregister_of_ne h world)

theorem glimpse_act (world : World) (id : WatchId) (action : Watch → Watch × List Effect) :
    (world.act id action).1.glimpse id = (world.glimpse id).act action := by
  unfold act Glimpse.act
  cases found : world.watches[id]? with
  | none =>
    have same : (world.glimpse id).watch? = none := found
    simp [same]
  | some watch =>
    have same : (world.glimpse id).watch? = some watch := found
    simp [same, glimpse_carryOut, glimpse_put]

theorem glimpse_act_of_ne (h : other ≠ id) (world : World)
    (action : Watch → Watch × List Effect) :
    (world.act other action).1.glimpse id = world.glimpse id := by
  unfold act
  split
  · exact (glimpse_carryOut_of_ne h _ _).trans (glimpse_put_of_ne h world _)
  · rfl

theorem watch?_of_mem_remove {host : Host} {notice : Notice}
    (h : notice ∈ (host.remove other).2) : notice.watch? = none := by
  cases host with
  | real catalog =>
    simp only [Host.remove, Catalog.remove] at h
    split at h
    · rw [List.mem_singleton.mp h]
      rfl
    · cases h
  | double standIn => cases h
  | gone =>
    rw [List.mem_singleton.mp h]
    rfl

theorem about_unregister (world : World) (other id : WatchId) :
    Notice.about id (world.unregister other).2 = [] :=
  Notice.about_eq_nil_of_none (fun _ member => watch?_of_mem_remove member) id

theorem about_carryOut (other id : WatchId) (effects : List Effect) (world : World) :
    Notice.about id (carryOut other effects world).2 =
      Notice.about id (Effect.notices effects) := by
  induction effects generalizing world with
  | nil => rfl
  | cons effect rest ih =>
    cases effect with
    | note notice =>
      rw [Effect.notices_note, Notice.about_cons, ← ih world, ← Notice.about_cons]
      rfl
    | leave =>
      simp only [carryOut, Effect.notices_leave, Notice.about_append, ih, about_unregister,
        List.nil_append]

theorem about_act {world : World} {watch : Watch} (found : world.watches[id]? = some watch)
    (action : Watch → Watch × List Effect) :
    Notice.about id (world.act id action).2 =
      Notice.about id (Effect.notices (action watch).2) := by
  simp only [act, found, about_carryOut]

theorem about_act_of_ne (h : other ≠ id) {world : World} {action : Watch → Watch × List Effect}
    (own : ∀ watch, world.watches[other]? = some watch →
      ∀ notice ∈ Effect.notices (action watch).2, notice.isOwn other) :
    Notice.about id (world.act other action).2 = [] := by
  unfold act
  split
  · rename_i watch found
    dsimp only
    rw [about_carryOut]
    exact Notice.about_eq_nil_of_isOwn (own watch found) h
  · rfl

end World
end AccessFeed
