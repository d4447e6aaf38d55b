import AccessFeed.Proofs.Catalog.Reentry
import AccessFeed.Recorder
import Mathlib.Logic.Relation

/-! Catalogs of recorders. A recorder does what it is scripted to do and nothing else, and what it
sees is how the catalog stands when the operation ends. A rehearsal is a chronicle of such watchers,
so what is known of watchers that act on the catalog while they are told holds of it. -/
namespace AccessFeed

namespace Recorder

/-- What a recorder is scripted to do to the registry. -/
def edits (recorder : Recorder) : List (Act Recorder) :=
  (recorder.script.removes.map Act.remove).toList ++
    (recorder.script.adds.map fun id =>
      Act.register id (plain (recorder.number + generation))).toList

/-- What a recorder records of a change as long as a catalog answers. -/
def recording (recorder : Recorder) (catalog : Catalog Recorder) (change : AccessChange) :
    Recording :=
  ⟨recorder.number, change, recorder.script.lists.map fun user =>
    (catalog.visible ⟨user, []⟩, catalog.access? change.name)⟩

/-- Who is registered makes no difference to what is recorded. -/
theorem recording_congr {catalog other : Catalog Recorder}
    (h : other.accesses = catalog.accesses) (recorder : Recorder) (change : AccessChange) :
    recorder.recording other change = recorder.recording catalog change := by
  unfold recording Catalog.visible
  rw [h, Catalog.access?_congr h]

/-- A reaction makes the given edits of the registry, and its result is what the recorder records. -/
def Records (recorder : Recorder) (change : AccessChange) (edits : List (Act Recorder))
    (reaction : Reaction Recorder Recording) : Prop :=
  ∀ catalog : Catalog Recorder,
    (catalog.carryOut reaction).1.watchers = Act.editAll edits catalog.watchers ∧
      (catalog.carryOut reaction).2.2 = recorder.recording catalog change

variable {recorder : Recorder} {change : AccessChange} {edits : List (Act Recorder)}
  {reaction : Reaction Recorder Recording}

theorem Records.removal (h : recorder.Records change edits reaction) :
    recorder.Records change ((recorder.script.removes.map Act.remove).toList ++ edits)
      (react.removal recorder reaction) := by
  unfold react.removal
  cases recorder.script.removes with
  | none => exact h
  | some id =>
    intro catalog
    obtain ⟨registry, result⟩ := h (catalog.remove id).1
    rw [Catalog.watchers_remove] at registry
    rw [recording_congr (catalog.accesses_remove id)] at result
    exact ⟨registry, result⟩

theorem Records.addition (h : recorder.Records change edits reaction) :
    recorder.Records change
      ((recorder.script.adds.map fun id =>
        Act.register id (plain (recorder.number + generation))).toList ++ edits)
      (react.addition recorder reaction) := by
  unfold react.addition
  cases recorder.script.adds with
  | none => exact h
  | some id => exact fun catalog => h (catalog.register id _).1

/-- A recorder does what it is scripted to do, in order. -/
theorem records_react (change : AccessChange) (id : WatchId) (recorder : Recorder) :
    recorder.Records change recorder.edits (react change id recorder) := by
  have edits : recorder.edits = (recorder.script.removes.map Act.remove).toList ++
      ((recorder.script.adds.map fun id =>
        Act.register id (plain (recorder.number + generation))).toList ++ []) := by
    rw [List.append_nil, Recorder.edits]
  rw [edits]
  refine Records.removal (Records.addition fun catalog => ?_)
  cases lists : recorder.script.lists <;> simp [Catalog.carryOut, recording, lists, Act.editAll]

/-- What is recorded of a change, and what becomes of the registry meanwhile. -/
theorem notify_react (change : AccessChange) (visits : List (WatchId × Recorder))
    (catalog : Catalog Recorder) :
    let round := Catalog.notify (react change) visits catalog
    (round.results = visits.map fun (id, recorder) => (id, recorder.recording catalog change)) ∧
      round.catalog.watchers = Act.editAll (visits.flatMap (·.2.edits)) catalog.watchers := by
  induction visits generalizing catalog with
  | nil => exact ⟨rfl, rfl⟩
  | cons visit rest ih =>
    obtain ⟨id, recorder⟩ := visit
    obtain ⟨registry, result⟩ := records_react change id recorder catalog
    have accesses := catalog.accesses_carryOut (react change id recorder)
    obtain ⟨results, edited⟩ := ih (catalog.carryOut (react change id recorder)).1
    constructor
    · simp only [Catalog.notify, result, results, recording_congr accesses, List.map_cons]
    · simp only [Catalog.notify, edited, registry, List.flatMap_cons, Act.editAll_append]

end Recorder

namespace Rehearsal

variable {rehearsal : Rehearsal}

/-- Whoever is registered when a mutation begins records its change once, in the order of the ids,
and is answered as the catalog stands when it ends. What they are scripted to do is all that happens
to the registry. -/
theorem perform_of_changed {mutation : Mutation} {change : AccessChange}
    (changed : (rehearsal.catalog.mutate mutation).2 = some change) :
    let recorded := rehearsal.perform mutation
    let visits := rehearsal.catalog.watchers.toList
    (recorded.1 = visits.map fun (id, recorder) =>
        (id, recorder.recording recorded.2.catalog change)) ∧
      recorded.2.catalog.watchers =
        Act.editAll (visits.flatMap (·.2.edits)) rehearsal.catalog.watchers ∧
      recorded.2.catalog.accesses = (rehearsal.catalog.mutate mutation).1.accesses := by
  intro recorded visits
  have accesses : recorded.2.catalog.accesses = (rehearsal.catalog.mutate mutation).1.accesses :=
    Catalog.accesses_perform Recorder.react id mutation
  have dispatched : rehearsal.catalog.perform Recorder.react id mutation =
      (rehearsal.catalog.mutate mutation).1.dispatch Recorder.react visits change := by
    rw [Catalog.perform_of_some changed, Catalog.watchers_mutate]
    rfl
  obtain ⟨results, registry⟩ :=
    Recorder.notify_react change visits (rehearsal.catalog.mutate mutation).1
  rw [Catalog.watchers_mutate] at registry
  refine ⟨?_, ?_, accesses⟩
  · have told : recorded.1 =
        ((rehearsal.catalog.mutate mutation).1.dispatch Recorder.react visits change).results :=
      congrArg Round.results dispatched
    simp only [told, Catalog.dispatch, results, Recorder.recording_congr accesses]
  · have after : recorded.2.catalog =
        ((rehearsal.catalog.mutate mutation).1.dispatch Recorder.react visits change).catalog :=
      congrArg Round.catalog dispatched
    rw [after]
    exact registry

/-- Where nothing changes, nothing is recorded. -/
theorem perform_of_unchanged {mutation : Mutation}
    (unchanged : (rehearsal.catalog.mutate mutation).2 = none) :
    rehearsal.perform mutation = ([], rehearsal) := by
  simp [perform, Catalog.perform_of_none unchanged, update]

/-- A step of a rehearsal. -/
inductive Step (rehearsal : Rehearsal) : Rehearsal → Prop
  | add (id : WatchId) (script : RecorderScript) : Step rehearsal (rehearsal.add id script)
  | remove (id : WatchId) : Step rehearsal (rehearsal.remove id)
  | perform (mutation : Mutation) : Step rehearsal (rehearsal.perform mutation).2
  | takeJournal : Step rehearsal rehearsal.takeJournal.2

/-- A step of a rehearsal is an operation on its catalog, or leaves the catalog alone. -/
theorem Step.cases_catalog {next : Rehearsal} (step : rehearsal.Step next) :
    next.catalog = rehearsal.catalog ∨
      ∃ occasion : Occasion Recorder Recording, occasion.react = Recorder.react ∧
        ∀ acts, ((⟨rehearsal.catalog, acts⟩ : Chronicle Recorder).next occasion).catalog =
          next.catalog := by
  cases step with
  | add id script =>
    exact .inr ⟨⟨Recorder.react, .register id ⟨rehearsal.additions + 1, script⟩⟩, rfl,
      fun acts => rfl⟩
  | remove id => exact .inr ⟨⟨Recorder.react, .remove id⟩, rfl, fun acts => rfl⟩
  | perform mutation =>
    exact .inr ⟨⟨Recorder.react, .perform id (fun _ => .refl _) mutation⟩, rfl, fun acts => rfl⟩
  | takeJournal => exact .inl rfl

/-- Whatever is done in a rehearsal, its catalog is that of a chronicle of recorders. -/
theorem exists_chronicle (steps : Relation.ReflTransGen Step .fresh rehearsal) :
    ∃ occasions : List (Occasion Recorder Recording),
      (∀ occasion ∈ occasions, occasion.react = Recorder.react) ∧
        ((⟨.empty, []⟩ : Chronicle Recorder).run occasions).catalog = rehearsal.catalog := by
  induction steps with
  | refl => exact ⟨[], by simp, rfl⟩
  | @tail before after _ step ih =>
    obtain ⟨occasions, reacts, same⟩ := ih
    obtain still | ⟨occasion, scripted, led⟩ := step.cases_catalog
    · exact ⟨occasions, reacts, same.trans still.symm⟩
    · refine ⟨occasions ++ [occasion], ?_, ?_⟩
      · simpa [or_imp, forall_and, scripted] using reacts
      · rw [Chronicle.run, List.foldl_append, ← led, ← same]
        rfl

end Rehearsal
end AccessFeed
