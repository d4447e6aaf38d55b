import AccessFeed.Proofs.Built
import AccessFeed.Proofs.Course.Conservation
import AccessFeed.Proofs.History.Follow
import AccessFeed.Proofs.Peak

/-! The high-water mark of a run over any watches.

It is the greatest number of events that a relay left in its intake when it took one out, and so it
stays below the largest intake that a watch was built with: no intake ever holds more than it may,
and what is taken out is not left in. -/
namespace AccessFeed
namespace World

/-- The intake sizes of the watches that a run builds, oldest first. -/
def sizes (world : World) : List Action → List Nat
  | [] => []
  | action :: rest =>
    ((world.built? action).map fun options => options.bufferSize.toNat).toList ++
      (world.enact action).1.sizes rest

/-- Every intake has one of the sizes, and holds no more than it may. -/
def Roomy (world : World) (sizes : List Nat) : Prop :=
  ∀ (id : WatchId) (watch : Watch), world.watches[id]? = some watch →
    ∃ size ∈ sizes, ∃ outboxLimit, (Course.start watch).Fits size outboxLimit

variable {world : World} {sizes : List Nat}

theorem fits_start {watch : Watch} {id : WatchId} {subscriber : Subscriber}
    {options : WatchOptions} {known : NameSet} {snapshot : List Project}
    (h : watch = .start id subscriber options known snapshot ∨
      watch = (Watch.start id subscriber options known snapshot).starve) :
    (Course.start watch).Fits options.bufferSize.toNat options.outputBufferSize.toNat := by
  obtain rfl | rfl := h <;> exact ⟨rfl, rfl, Nat.zero_le _, Nat.zero_le _⟩

theorem Roomy.enact (h : world.Roomy sizes) (action : Action) :
    (world.enact action).1.Roomy
      (sizes ++ ((world.built? action).map fun options => options.bufferSize.toNat).toList) := by
  intro id watch found
  by_cases opened : world.opened? action = some id
  · obtain ⟨subscriber, options, known, snapshot, built, fresh, held, start⟩ :=
      exists_start_of_opened opened
    obtain rfl := Option.some.inj (held.symm.trans found)
    exact ⟨options.bufferSize.toNat, by simp [built], _, fits_start start⟩
  · have glimpse := glimpse_enact_of_ne opened
    cases before : world.watches[id]? with
    | none =>
      have absent : (world.glimpse id).watch? = none := before
      have missing : ((world.enact action).1.glimpse id).watch? = none := by
        rw [glimpse, Glimpse.watch?_after_of_absent absent]
      cases missing.symm.trans found
    | some earlier =>
      obtain ⟨size, member, outboxLimit, fits⟩ := h id earlier before
      let course : Course := ⟨earlier, (world.glimpse id).isFed, false, [], []⟩
      have sight : course.At (world.glimpse id) := ⟨before, rfl⟩
      obtain ⟨drops, later, -⟩ := Course.at_after sight (world.touch id action)
        History.isHandled_of_touch_enter
      have ended := Course.run_induction Course.Fits.change
        (show course.Fits size outboxLimit from ⟨fits.1, fits.2, fits.3, fits.4⟩)
        ((world.touch id action).moves ++ List.replicate drops .drop)
      have same := later.watch_eq
      rw [← glimpse] at same
      obtain rfl := Option.some.inj (same.symm.trans found)
      exact ⟨size, List.mem_append_left _ member, outboxLimit,
        ⟨ended.1, ended.2, ended.3, ended.4⟩⟩

/-- Whatever is left in an intake is less than its size. -/
theorem Roomy.exists_lt (h : world.Roomy sizes) {action : Action} {depth : Nat}
    (member : depth ∈ world.depthsOf action) : ∃ size ∈ sizes, depth < size := by
  cases action with
  | poll id =>
    simp only [depthsOf] at member
    cases found : world.watches[id]? with
    | none => simp [found] at member
    | some watch =>
      rw [found] at member
      obtain ⟨size, among, _, fits⟩ := h id watch found
      have intake : watch.begin.1.intake = watch.intake := by
        unfold Watch.begin
        split <;> rfl
      have less := Watch.lt_of_mem_depths member
      rw [intake] at less
      exact ⟨size, among, less.trans_le fits.intake_le⟩
  | _ => cases member

theorem Roomy.exists_lt_run (h : world.Roomy sizes) {actions : List Action} {depth : Nat}
    (member : depth ∈ world.depths actions) :
    ∃ size ∈ sizes ++ world.sizes actions, depth < size := by
  induction actions generalizing world sizes with
  | nil => cases member
  | cons action rest ih =>
    obtain now | later := List.mem_append.mp member
    · obtain ⟨size, among, less⟩ := h.exists_lt now
      exact ⟨size, List.mem_append_left _ among, less⟩
    · obtain ⟨size, among, less⟩ := ih (h.enact action) later
      rw [List.append_assoc] at among
      exact ⟨size, among, less⟩

theorem pos_of_mem_sizes {actions : List Action} {size : Nat} (h : size ∈ world.sizes actions) :
    0 < size := by
  induction actions generalizing world with
  | nil => cases h
  | cons action rest ih =>
    obtain now | later := List.mem_append.mp h
    · obtain ⟨options, built, rfl⟩ := Option.map_eq_some_iff.mp (Option.mem_toList.mp now)
      exact (WatchOptions.check_eq_ok_iff.mp (check_of_built built)).1.1
    · exact ih later

end World

namespace History

/-- At every moment of a run, with everything fresh at its beginning, the high-water mark is the
greatest number of events that was left in an intake after a take, over all watches, and zero before
the first take. The gauge is at the mark. The log holds a record for each take that raised the mark
and for no other, so the logged depths rise and the last one is the mark. Once a watch has been
built, the mark is below the largest intake. -/
theorem highWater_exact (host : Host) (actions : List Action) :
    let now := (start (.fresh host)).run actions
    let depths := (World.fresh host).depths actions
    now.notices.filterMap Notice.depth? = depths ∧
    (∀ count,
      let told := now.notices.take count
      let taken := told.filterMap Notice.depth?
      let monitor := Monitor.fresh.observeAll told
      let logged := PeakDepth.rises 0 taken
      taken <+: depths ∧
      monitor.peak.depth = taken.max?.getD 0 ∧
      monitor.metrics.reading "watch_channel_high_water_mark" none = monitor.peak.depth ∧
      monitor.journal.filter LogRecord.tellsDepth = logged.map Notice.depthRecord ∧
      logged.Pairwise (· < ·) ∧ logged.getLastD 0 = monitor.peak.depth) ∧
    ∀ largest ∈ ((World.fresh host).sizes actions).max?,
      (Monitor.fresh.observeAll now.notices).peak.depth < largest := by
  intro now depths
  have told : now.notices.filterMap Notice.depth? = depths :=
    filterMap_depth_run (start (.fresh host)) actions
  refine ⟨told, fun count => ⟨?_, Monitor.highWater_observeAll _⟩, fun largest built => ?_⟩
  · exact told ▸ (List.take_prefix count now.notices).filterMap Notice.depth?
  · have roomy : (World.fresh host).Roomy [] := by
      intro id watch found
      simp [World.fresh] at found
    obtain ⟨among, greatest⟩ := List.max?_eq_some_iff.mp built
    rw [(Monitor.highWater_observeAll now.notices).1, told]
    cases deepest : depths.max? with
    | none => exact World.pos_of_mem_sizes among
    | some depth =>
      obtain ⟨size, member, less⟩ := roomy.exists_lt_run (List.max?_eq_some_iff.mp deepest).1
      exact less.trans_le (greatest size member)

end History
end AccessFeed
