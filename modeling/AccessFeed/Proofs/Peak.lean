import AccessFeed.Proofs.Depth
import AccessFeed.Proofs.Monitor
import Mathlib.Data.List.Infix

/-! The high-water mark, its gauge and its log records, as functions of the depths that were told.

The mark is the greatest depth. A record is logged for a depth that is greater than all before it,
and for no other, so the logged depths rise and end at the mark. -/
namespace AccessFeed

namespace PeakDepth

/-- The depths that are greater than a first one and than all before them. -/
def rises (peak : Nat) : List Nat → List Nat
  | [] => []
  | depth :: rest => if peak < depth then depth :: rises depth rest else rises peak rest

theorem rises_append (peak : Nat) (first second : List Nat) :
    rises peak (first ++ second) = rises peak first ++ rises (first.foldl max peak) second := by
  induction first generalizing peak with
  | nil => rfl
  | cons depth rest ih =>
    simp only [List.cons_append, rises, List.foldl_cons]
    split
    · rename_i higher
      rw [ih, max_eq_right higher.le, List.cons_append]
    · rename_i lower
      rw [ih, max_eq_left (Nat.not_lt.mp lower)]

/-- What rises above the first depth rises from one to the next, up to the greatest. -/
theorem rises_spec (peak : Nat) (depths : List Nat) :
    (∀ depth ∈ rises peak depths, peak < depth) ∧ (rises peak depths).Pairwise (· < ·) ∧
      (rises peak depths).getLastD peak = depths.foldl max peak := by
  induction depths generalizing peak with
  | nil => simp [rises]
  | cons depth rest ih =>
    rw [rises, List.foldl_cons]
    split
    · rename_i higher
      obtain ⟨above, rising, last⟩ := ih depth
      rw [max_eq_right higher.le]
      refine ⟨List.forall_mem_cons.mpr ⟨higher, fun later member => ?_⟩,
        List.pairwise_cons.mpr ⟨above, rising⟩, ?_⟩
      · exact higher.trans (above later member)
      · rw [List.getLastD_cons]
        exact last
    · rename_i lower
      rw [max_eq_left (Nat.not_lt.mp lower)]
      exact ih peak

theorem foldl_max_eq (depths : List Nat) : depths.foldl max 0 = depths.max?.getD 0 := by
  cases depths with
  | nil => rfl
  | cons depth rest => rw [List.max?_cons', List.foldl_cons, Nat.zero_max, Option.getD_some]

end PeakDepth

/-- The gauge is exported under a name of its own. -/
theorem Metrics.reading_highWater (metrics : Metrics) :
    metrics.reading "watch_channel_high_water_mark" none = metrics.highWater := by
  simp [reading, samples, families, single]

/-- Tells of a depth. -/
def LogRecord.tellsDepth (record : LogRecord) : Bool :=
  "watch: ".toList.isPrefixOf record.message.toList

theorem Notice.tellsDepth_depthRecord (depth : Nat) : (depthRecord depth).tellsDepth = true := by
  rw [LogRecord.tellsDepth, depthRecord, String.toList_append, String.toList_append,
    List.isPrefixOf_iff_prefix, List.append_assoc]
  exact List.prefix_append _ _

/-- What is always told never tells of a depth. -/
theorem Notice.tellsDepth_record {notice : Notice} {record : LogRecord}
    (h : notice.record? = some record) : record.tellsDepth = false := by
  cases notice with
  | asked | begun | taken | pushed => cases h
  | _ =>
    obtain rfl := Option.some.inj h
    simp [LogRecord.tellsDepth, List.isPrefixOf]

namespace Monitor

variable {monitor : Monitor}

theorem gauge_eq (monitor : Monitor) (notice : Notice) :
    (monitor.observe notice).peak.depth = max monitor.peak.depth (depth notice) ∧
      (monitor.observe notice).metrics.highWater =
        if monitor.peak.depth < depth notice then depth notice
        else monitor.metrics.highWater := by
  have gauged := gauge_observe monitor notice
  rw [gauge] at gauged
  exact ⟨congrArg (·.1.depth) gauged.symm, congrArg (·.2.highWater) gauged.symm⟩

/-- The mark is the greatest depth. -/
theorem peak_observe (monitor : Monitor) (notice : Notice) :
    (monitor.observe notice).peak.depth = notice.depth?.toList.foldl max monitor.peak.depth := by
  rw [(gauge_eq monitor notice).1]
  cases notice <;> simp [depth, Notice.depth?]

/-- The gauge stays at the mark. -/
theorem highWater_observe (h : monitor.metrics.highWater = monitor.peak.depth) (notice : Notice) :
    (monitor.observe notice).metrics.highWater = (monitor.observe notice).peak.depth := by
  obtain ⟨peak, highWater⟩ := gauge_eq monitor notice
  rw [peak, highWater]
  split
  · rename_i higher
    exact (max_eq_right higher.le).symm
  · rename_i lower
    exact h.trans (max_eq_left (Nat.not_lt.mp lower)).symm

theorem journal_observe {notice : Notice} (h : notice.depth? = none) (monitor : Monitor) :
    (monitor.observe notice).journal = monitor.journal ++ notice.record?.toList := by
  cases notice <;> simp_all [Notice.depth?, observe, Notice.record?, log]

/-- A depth is logged if it rises above the mark. -/
theorem filter_tellsDepth_observe (monitor : Monitor) (notice : Notice) :
    (monitor.observe notice).journal.filter LogRecord.tellsDepth =
      monitor.journal.filter LogRecord.tellsDepth ++
        (PeakDepth.rises monitor.peak.depth notice.depth?.toList).map Notice.depthRecord := by
  cases deep : notice.depth? with
  | none =>
    have silent : notice.record?.toList.filter LogRecord.tellsDepth = [] := by
      refine List.filter_eq_nil_iff.mpr fun record member => ?_
      rw [Notice.tellsDepth_record (Option.mem_toList.mp member)]
      exact Bool.false_ne_true
    rw [journal_observe deep, List.filter_append, silent]
    rfl
  | some depth =>
    obtain ⟨id, rfl⟩ : ∃ id, notice = .taken id depth := by
      cases notice <;> simp_all [Notice.depth?]
    simp only [observe, measure, PeakDepth.update, decide_eq_true_eq, Option.toList_some,
      PeakDepth.rises]
    split
    · simp [log, Notice.tellsDepth_depthRecord]
    · simp

theorem observeAll_eq (h : monitor.metrics.highWater = monitor.peak.depth)
    (notices : List Notice) :
    let depths := notices.filterMap Notice.depth?
    let after := monitor.observeAll notices
    after.peak.depth = depths.foldl max monitor.peak.depth ∧
      after.metrics.highWater = after.peak.depth ∧
      after.journal.filter LogRecord.tellsDepth = monitor.journal.filter LogRecord.tellsDepth ++
        (PeakDepth.rises monitor.peak.depth depths).map Notice.depthRecord := by
  induction notices generalizing monitor with
  | nil => simp [observeAll, h, PeakDepth.rises]
  | cons notice rest ih =>
    have depths : (notice :: rest).filterMap Notice.depth? =
        notice.depth?.toList ++ rest.filterMap Notice.depth? := by
      cases deep : notice.depth? <;> simp [deep]
    obtain ⟨peak, gauge, records⟩ := ih (highWater_observe h notice)
    rw [observeAll_cons, depths]
    refine ⟨?_, gauge, ?_⟩
    · rw [peak, peak_observe, List.foldl_append]
    · rw [records, filter_tellsDepth_observe, peak_observe, PeakDepth.rises_append,
        List.map_append, List.append_assoc]

/-- What is kept of the depths that were told since all was fresh. -/
theorem highWater_observeAll (notices : List Notice) :
    let depths := notices.filterMap Notice.depth?
    let after := fresh.observeAll notices
    let logged := PeakDepth.rises 0 depths
    after.peak.depth = depths.max?.getD 0 ∧
      after.metrics.reading "watch_channel_high_water_mark" none = after.peak.depth ∧
      after.journal.filter LogRecord.tellsDepth = logged.map Notice.depthRecord ∧
      logged.Pairwise (· < ·) ∧ logged.getLastD 0 = after.peak.depth := by
  intro depths after logged
  obtain ⟨peak, gauge, records⟩ := @observeAll_eq fresh rfl notices
  obtain ⟨-, rising, last⟩ := PeakDepth.rises_spec 0 depths
  refine ⟨peak.trans (PeakDepth.foldl_max_eq depths), ?_, records, rising, last.trans peak.symm⟩
  rw [Metrics.reading_highWater, gauge]

end Monitor
end AccessFeed
