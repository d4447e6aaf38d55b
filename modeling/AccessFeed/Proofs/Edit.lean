import AccessFeed.Proofs.Touch

/-! The small changes that actions are made of, and what they keep: a relay that is due is in line,
and numbers of watches are never given twice. -/
namespace AccessFeed
namespace World

/-- A small change of a state. Every action that opens no watch is made of such changes. -/
inductive Edit (world : World) : World → Prop
  /-- The state of a watch is stored. -/
  | put (id : WatchId) (watch : Watch) : Edit world (world.put id watch)
  /-- A relay has left the line for a turn, and its state is stored. -/
  | turn (id : WatchId) (watch : Watch) :
      Edit world ({ world with line := world.line.erase id }.put id watch)
  /-- A number without a watch is taken out of the line. -/
  | skip {id : WatchId} (absent : world.watches[id]? = none) :
      Edit world { world with line := world.line.erase id }
  /-- Something around the watches changes. -/
  | around (host : Host) (directory : Directory) (outages : NameMap String)
      (handlers consumers : Std.ExtTreeSet WatchId) :
      Edit world { world with host, directory, outages, handlers, consumers }

/-- Some number of small changes. -/
abbrev Edits : World → World → Prop := Relation.ReflTransGen Edit

variable {world next : World} {id : WatchId}

theorem edit_host (world : World) (host : Host) : Edit world { world with host } :=
  .around host world.directory world.outages world.handlers world.consumers

theorem edits_checkFeed (world : World) (id : WatchId) : Edits world (world.checkFeed id) := by
  unfold checkFeed
  split
  · split
    · exact .refl
    · exact .single (.put id _)
  · exact .refl

theorem edits_unregister (world : World) (id : WatchId) : Edits world (world.unregister id).1 :=
  .head (edit_host world (world.host.remove id).1) (edits_checkFeed _ id)

theorem edits_carryOut (id : WatchId) (effects : List Effect) (world : World) :
    Edits world (carryOut id effects world).1 := by
  induction effects generalizing world with
  | nil => exact .refl
  | cons effect rest ih =>
    cases effect with
    | note notice => exact ih world
    | leave => exact (edits_unregister world id).trans (ih _)

theorem edits_act (world : World) (id : WatchId) (action : Watch → Watch × List Effect) :
    Edits world (world.act id action).1 := by
  unfold act
  split
  · exact .head (.put id _) (edits_carryOut id _ _)
  · exact .refl

theorem edits_store (results : List (WatchId × Option Watch)) (world : World) :
    Edits world (world.store results) := by
  induction results generalizing world with
  | nil => exact .refl
  | cons result rest ih =>
    obtain ⟨other, watch?⟩ := result
    cases watch? with
    | none => exact ih world
    | some watch => exact .head (.put other watch) ((edits_checkFeed _ other).trans (ih _))

theorem edits_foldl_checkFeed (ids : List WatchId) (world : World) :
    Edits world (ids.foldl checkFeed world) := by
  induction ids generalizing world with
  | nil => exact .refl
  | cons first rest ih => exact (edits_checkFeed world first).trans (ih _)

theorem edits_poll (world : World) (id : WatchId) : Edits world (world.poll id).1 := by
  unfold poll act
  split
  · exact .head (.turn id _) (edits_carryOut id _ _)
  · exact .single (.skip ‹_›)

theorem edits_enact {action : Action} (h : world.opened? action = none) :
    Edits world (world.enact action).1 := by
  have kept {subscriber : Subscriber} {includeExisting : Option Bool} {options : WatchOptions}
      (h : (world.openWatch subscriber includeExisting options).1.toOption = none) :
      ∃ cause notices, world.openWatch subscriber includeExisting options =
        (.error cause, world, notices) := by
    obtain ⟨names, notices, opened⟩ | failed :=
      world.openWatch_cases subscriber includeExisting options
    · rw [opened] at h
      cases h
    · exact failed
  cases action with
  | upsert object => exact .single (.around _ _ _ _ _)
  | removeObject name => exact .single (.around _ _ _ _ _)
  | setOutage name reason => cases reason <;> exact .single (.around _ _ _ _ _)
  | perform visiting mutation =>
    simp only [enact, performIn]
    split
    · exact .head (edit_host world _) (edits_store _ _)
    · exact .refl
  | openWatch subscriber includeExisting options =>
    obtain ⟨cause, notices, failed⟩ := kept h
    rw [enact, failed]
  | subscribe subscriber includeExisting options =>
    rw [opened?, result_subscribe] at h
    obtain ⟨cause, notices, failed⟩ := kept h
    rw [enact, subscribe, failed]
  | register other =>
    simp only [enact]
    split
    · exact .single (edit_host world _)
    · exact .refl
  | unregister other => exact edits_unregister world other
  | dropHandler other => exact .head (.around _ _ _ _ _) (edits_checkFeed _ other)
  | handle other change =>
    simp only [enact]
    split
    · exact edits_act world other _
    · exact .refl
  | stop other => exact edits_act world other _
  | dropConsumer other =>
    simp only [enact, dropConsumer]
    split
    · exact .head (.around _ _ _ _ _) (edits_act _ other _)
    · exact .refl
  | poll other => exact edits_poll world other
  | take other =>
    simp only [enact, take]
    split
    · split
      · exact .single (.put other _)
      · exact .refl
    · exact .refl
  | dropHost => exact .head (edit_host world _) (edits_foldl_checkFeed _ _)

/-- What every small change keeps holds after all of them. -/
theorem Edits.induction {property : World → Prop} (edits : Edits world next)
    (step : ∀ {world next : World}, Edit world next → property world → property next)
    (h : property world) : property next := by
  induction edits with
  | refl => exact h
  | tail _ edit ih => exact step edit ih

/-- No small change gives a number to a watch, or concerns whether relays can be run. -/
theorem Edits.constant (edits : Edits world next) :
    next.nextId = world.nextId ∧ next.runtimeFault = world.runtimeFault := by
  refine @Edits.induction world next
    (fun next => next.nextId = world.nextId ∧ next.runtimeFault = world.runtimeFault) edits ?_
    ⟨rfl, rfl⟩
  intro before after edit same
  cases edit <;> exact same

theorem nextId_enact_of_none {action : Action} (h : world.opened? action = none) :
    (world.enact action).1.nextId = world.nextId := (edits_enact h).constant.1

/-- Opening a watch is an opening of it, and then small changes. -/
theorem exists_opening {action : Action} (h : world.opened? action = some id) :
    ∃ subscriber includeExisting options names,
      Edits (world.opening subscriber includeExisting options names) (world.enact action).1 := by
  cases action with
  | openWatch subscriber includeExisting options =>
    obtain ⟨-, names, notices, opened⟩ := openWatch_of_opened h
    refine ⟨subscriber, includeExisting, options, names, ?_⟩
    rw [enact, opened]
  | subscribe subscriber includeExisting options =>
    rw [opened?, result_subscribe] at h
    obtain ⟨-, names, notices, opened⟩ := openWatch_of_opened h
    refine ⟨subscriber, includeExisting, options, names, ?_⟩
    rw [enact, subscribe, opened]
    exact .head (edit_host _ _) (.head (.around _ _ _ _ _) (edits_checkFeed _ _))
  | _ => cases h

theorem nextId_enact_of_some {action : Action} (h : world.opened? action = some id) :
    (world.enact action).1.nextId = world.nextId + 1 := by
  obtain ⟨subscriber, includeExisting, options, names, edits⟩ := exists_opening h
  exact edits.constant.1

/-- No number becomes free again. -/
theorem nextId_le_enact (world : World) (action : Action) :
    world.nextId ≤ (world.enact action).1.nextId := by
  cases opened : world.opened? action with
  | none => exact Nat.le_of_eq (nextId_enact_of_none opened).symm
  | some id =>
    rw [nextId_enact_of_some opened]
    exact Nat.le_succ _

/-- Whether relays can be run never changes. -/
theorem runtimeFault_enact (world : World) (action : Action) :
    (world.enact action).1.runtimeFault = world.runtimeFault := by
  cases opened : world.opened? action with
  | none => exact (edits_enact opened).constant.2
  | some id =>
    obtain ⟨subscriber, includeExisting, options, names, edits⟩ := exists_opening opened
    exact edits.constant.2

/-- Every watch whose relay is due to run is in line. -/
def Queued (world : World) : Prop :=
  ∀ (id : WatchId) (watch : Watch), world.watches[id]? = some watch → watch.isDue = true →
    id ∈ world.line

/-- Storing a watch as it is changes nothing. -/
theorem put_self {watch : Watch} (queued : world.Queued)
    (found : world.watches[id]? = some watch) : world.put id watch = world := by
  have watches : world.watches.insert id watch = world.watches := by
    apply Std.ExtTreeMap.ext_getElem?
    intro other
    rw [Std.ExtTreeMap.getElem?_insert]
    split
    · rename_i same
      obtain rfl := Std.LawfulEqCmp.eq_of_compare same
      exact found.symm
    · rfl
  have line : (if watch.isDue && !world.line.contains id then world.line ++ [id]
      else world.line) = world.line := by
    cases due : watch.isDue with
    | false => rfl
    | true => simp [queued id watch found due]
  rw [put, watches, line]

theorem mem_line_put {other : WatchId} {watch : Watch} :
    other ∈ (world.put id watch).line ↔ other ∈ world.line ∨ other = id ∧ watch.isDue = true := by
  unfold put
  split
  · simp_all
  · rename_i absent
    simp only [Bool.and_eq_true, Bool.not_eq_true', List.contains_eq_mem, decide_eq_false_iff_not,
      not_and, Classical.not_not] at absent
    constructor
    · exact .inl
    · rintro (member | ⟨rfl, due⟩)
      · exact member
      · exact absent due

/-- The watch of the given id is in line if its relay is due to run. -/
def InLine (world : World) (id : WatchId) : Prop :=
  ∀ watch, world.watches[id]? = some watch → watch.isDue = true → id ∈ world.line

/-- A watch that is stored gets in line if it is due. -/
theorem inLine_put (world : World) (id : WatchId) (watch : Watch) :
    (world.put id watch).InLine id := by
  intro stored found due
  have same : (world.put id watch).watches[id]? = some watch := by simp [put]
  obtain rfl := Option.some.inj (same.symm.trans found)
  exact mem_line_put.mpr (.inr ⟨rfl, due⟩)

theorem InLine.put_of_ne {other : WatchId} (h : world.InLine id) (ne : other ≠ id)
    (watch : Watch) : (world.put other watch).InLine id := by
  intro stored found due
  have same : (world.put other watch).watches[id]? = world.watches[id]? := by
    simp [World.put, Std.ExtTreeMap.getElem?_insert, ne]
  exact mem_line_put.mpr (.inl (h stored (same.symm.trans found) due))

/-- A watch that another one leaves the line for stays in line. -/
theorem InLine.erase_of_ne {other : WatchId} (h : world.InLine id) (ne : other ≠ id) :
    ({ world with line := world.line.erase other } : World).InLine id :=
  fun watch found due => (List.mem_erase_of_ne ne.symm).mpr (h watch found due)

theorem InLine.edit (edit : Edit world next) (h : world.InLine id) : next.InLine id := by
  cases edit with
  | put other watch =>
    by_cases same : other = id
    · exact same ▸ inLine_put world other watch
    · exact h.put_of_ne same watch
  | turn other watch =>
    by_cases same : other = id
    · exact same ▸ inLine_put _ other watch
    · exact (h.erase_of_ne same).put_of_ne same watch
  | @skip other absent =>
    by_cases same : other = id
    · intro watch found
      rw [same] at absent
      cases absent.symm.trans found
    · exact h.erase_of_ne same
  | around host directory outages handlers consumers => exact h

theorem Queued.edit (edit : Edit world next) (h : world.Queued) : next.Queued :=
  fun id => InLine.edit edit (h id)

theorem Queued.enact (h : world.Queued) (action : Action) : (world.enact action).1.Queued := by
  cases opened : world.opened? action with
  | none => exact (edits_enact opened).induction Queued.edit h
  | some id =>
    obtain ⟨subscriber, includeExisting, options, names, edits⟩ := exists_opening opened
    have opening : (world.opening subscriber includeExisting options names).Queued :=
      Queued.edit (.put world.nextId _) h
    exact edits.induction Queued.edit opening

end World
end AccessFeed
