import AccessFeed.Proofs.Catalog.Log

/-! Watchers that act on the catalog while it tells them of a change.

A dispatch hands its change to the watchers that were registered when it began, whatever becomes of
their registration meanwhile. What they do to the registry takes effect in the order of the visits,
and so for the next operation. -/
namespace AccessFeed

/-- Something that is done to the registry of a catalog or asked of the catalog, with the answer. -/
inductive Act (ω : Type) where
  | register (id : WatchId) (watcher : ω)
  | remove (id : WatchId)
  | listed (subscriber : Subscriber) (names : List String)
  | asked (name : String) (access : Option Access)

namespace Act

variable {ω : Type} {registry : Std.ExtTreeMap WatchId ω} {acts : List (Act ω)} {id : WatchId}
  {watcher : ω}

/-- What an act makes of the registered watchers: it adds one, in place of one with the same id, or
takes out the one of an id. -/
def edit : Act ω → Std.ExtTreeMap WatchId ω → Std.ExtTreeMap WatchId ω
  | .register id watcher, registry => registry.insert id watcher
  | .remove id, registry => registry.erase id
  | .listed .., registry | .asked .., registry => registry

/-- What acts make of the registered watchers one after another. -/
def editAll (acts : List (Act ω)) (registry : Std.ExtTreeMap WatchId ω) :
    Std.ExtTreeMap WatchId ω :=
  acts.foldl (fun registry act => act.edit registry) registry

@[simp] theorem editAll_cons (act : Act ω) (acts : List (Act ω)) :
    editAll (act :: acts) registry = editAll acts (act.edit registry) := rfl

@[simp] theorem editAll_append (acts more : List (Act ω)) :
    editAll (acts ++ more) registry = editAll more (editAll acts registry) := List.foldl_append

theorem getElem?_edit (act : Act ω) (registry : Std.ExtTreeMap WatchId ω) (id : WatchId) :
    (act.edit registry)[id]? =
      match act with
      | .register other watcher => if other = id then some watcher else registry[id]?
      | .remove other => if other = id then none else registry[id]?
      | _ => registry[id]? := by
  cases act <;> simp [edit, Std.ExtTreeMap.getElem?_insert, Std.ExtTreeMap.getElem?_erase]

/-- As long as no watcher of that id is added, there is none. -/
theorem getElem?_editAll_of_absent (absent : registry[id]? = none)
    (unregistered : ∀ watcher, .register id watcher ∉ acts) :
    (editAll acts registry)[id]? = none := by
  refine List.foldlRecOn (motive := fun registry => registry[id]? = none) acts _ absent ?_
  intro registry absent act member
  rw [getElem?_edit]
  cases act with
  | register other added =>
    have ne : other ≠ id := by
      rintro rfl
      exact unregistered added member
    simpa [ne] using absent
  | remove other => simp [absent]
  | _ => exact absent

/-- As long as nothing is done under its id, a watcher stays. -/
theorem getElem?_editAll_of_present (present : registry[id]? = some watcher)
    (unremoved : .remove id ∉ acts) (unregistered : ∀ watcher, .register id watcher ∉ acts) :
    (editAll acts registry)[id]? = some watcher := by
  refine List.foldlRecOn (motive := fun registry => registry[id]? = some watcher) acts _ present ?_
  intro registry present act member
  rw [getElem?_edit]
  cases act with
  | register other added =>
    have ne : other ≠ id := by
      rintro rfl
      exact unregistered added member
    simpa [ne] using present
  | remove other =>
    have ne : other ≠ id := by
      rintro rfl
      exact unremoved member
    simpa [ne] using present
  | _ => exact present

end Act

/-- One watcher while it is told of a change: what it is handed, what it does meanwhile, and its
result. -/
structure Visit (ω α : Type) where
  watcher : ω
  change : AccessChange
  acts : List (Act ω)
  result : α

/-- The same reaction, with what it does in its result. -/
def Reaction.witness {ω α : Type} (change : AccessChange) (watcher : ω) :
    List (Act ω) → Reaction ω α → Reaction ω (Visit ω α)
  | acts, .done result => .done ⟨watcher, change, acts, result⟩
  | acts, .note notice next => .note notice (next.witness change watcher acts)
  | acts, .register id added next =>
    .register id added (next.witness change watcher (acts ++ [.register id added]))
  | acts, .remove id next => .remove id (next.witness change watcher (acts ++ [.remove id]))
  | acts, .list subscriber next =>
    .list subscriber fun names =>
      (next names).witness change watcher (acts ++ [.listed subscriber names])
  | acts, .access name next =>
    .access name fun access =>
      (next access).witness change watcher (acts ++ [.asked name access])

namespace Catalog

variable {ω α : Type} {catalog : Catalog ω} {change : AccessChange} {id : WatchId}

/-- The answer that is part of an act is that of the catalog. -/
def Answers (catalog : Catalog ω) : Act ω → Prop
  | .listed subscriber names => names = catalog.visible subscriber
  | .asked name access => access = catalog.access? name
  | .register .. | .remove _ => True

/-- Answers depend on nothing but who may see what. -/
theorem answers_congr {other : Catalog ω} (h : other.accesses = catalog.accesses) {act : Act ω} :
    other.Answers act ↔ catalog.Answers act := by
  cases act with
  | listed subscriber names => rw [Answers, visible, h]; rfl
  | asked name access => rw [Answers, access?_congr h]; rfl
  | _ => rfl

theorem watchers_remove (catalog : Catalog ω) (id : WatchId) :
    (catalog.remove id).1.watchers = catalog.watchers.erase id := by
  unfold remove
  split
  · rfl
  · rename_i absent
    apply Std.ExtTreeMap.ext_getElem?
    intro other
    rw [Std.ExtTreeMap.getElem?_erase]
    split
    · rename_i same
      obtain rfl := Std.LawfulEqCmp.eq_of_compare same
      simpa [registers] using absent
    · rfl

/-- That a reaction is witnessed changes nothing else. -/
theorem carryOut_witness (catalog : Catalog ω) (change : AccessChange) (watcher : ω)
    (acts : List (Act ω)) (reaction : Reaction ω α) :
    let witnessed := catalog.carryOut (reaction.witness change watcher acts)
    (witnessed.1, witnessed.2.1, witnessed.2.2.result) = catalog.carryOut reaction := by
  intro witnessed
  induction reaction generalizing catalog acts with
  | done result => rfl
  | note notice next ih => simp only [carryOut, ← ih catalog acts]; rfl
  | register other added next ih =>
    simp only [carryOut, ← ih (catalog.register other added).1 (acts ++ [.register other added])]
    rfl
  | remove other next ih =>
    simp only [carryOut, ← ih (catalog.remove other).1 (acts ++ [.remove other])]
    rfl
  | list subscriber next ih => exact ih (catalog.visible subscriber) catalog _
  | access asked next ih => exact ih (catalog.access? asked) catalog _

/-- A visit goes on from some acts with further ones, which are all that happens to the registry
meanwhile, and in which the catalog is asked and answers as it stands. -/
structure GoesOn (catalog : Catalog ω) (change : AccessChange) (watcher : ω) (done : List (Act ω))
    (after : Catalog ω) (visit : Visit ω α) : Prop where
  watcher_eq : visit.watcher = watcher
  change_eq : visit.change = change
  exists_acts : ∃ acts, visit.acts = done ++ acts ∧
    after.watchers = Act.editAll acts catalog.watchers ∧ ∀ act ∈ acts, catalog.Answers act

theorem GoesOn.cons {next after : Catalog ω} {watcher : ω} {done : List (Act ω)} {act : Act ω}
    {visit : Visit ω α} (h : next.GoesOn change watcher (done ++ [act]) after visit)
    (accesses : next.accesses = catalog.accesses)
    (edit : next.watchers = act.edit catalog.watchers) (right : catalog.Answers act) :
    catalog.GoesOn change watcher done after visit := by
  obtain ⟨same, handed, acts, all, registry, answered⟩ := h
  refine ⟨same, handed, act :: acts, by simpa using all, ?_, ?_⟩
  · rw [registry, edit]
    rfl
  · rw [List.forall_mem_cons]
    exact ⟨right, fun act member => (answers_congr accesses).mp (answered act member)⟩

/-- Step by step, what a reaction does is witnessed. -/
theorem goesOn_carryOut (catalog : Catalog ω) (change : AccessChange) (watcher : ω)
    (done : List (Act ω)) (reaction : Reaction ω α) :
    let witnessed := catalog.carryOut (reaction.witness change watcher done)
    catalog.GoesOn change watcher done witnessed.1 witnessed.2.2 := by
  -- What is done stands before what is still to come, so each case adds one act at that place.
  induction reaction generalizing catalog done with
  | done result =>
    exact ⟨rfl, rfl, [], (List.append_nil _).symm, rfl, fun _ member => nomatch member⟩
  | note notice next ih => exact ih catalog done
  | register other added next ih =>
    exact (ih (catalog.register other added).1 _).cons rfl rfl trivial
  | remove other next ih =>
    exact (ih (catalog.remove other).1 _).cons (accesses_remove catalog other)
      (watchers_remove catalog other) trivial
  | list subscriber next ih => exact (ih (catalog.visible subscriber) catalog _).cons rfl rfl rfl
  | access asked next ih => exact (ih (catalog.access? asked) catalog _).cons rfl rfl rfl

/-- The visits of a dispatch, and what they do to the registry, one after another. -/
theorem visits_notify (react : WatchId → ω → Reaction ω α) (visits : List (WatchId × ω))
    (catalog : Catalog ω) :
    let round := notify (fun id watcher => (react id watcher).witness change watcher []) visits
      catalog
    (round.results.map fun (id, visit) => (id, visit.watcher)) = visits ∧
      (∀ result ∈ round.results, result.2.change = change ∧
        ∀ act ∈ result.2.acts, catalog.Answers act) ∧
      round.catalog.watchers =
        Act.editAll (round.results.flatMap (·.2.acts)) catalog.watchers := by
  induction visits generalizing catalog with
  | nil => exact ⟨rfl, by simp [notify], rfl⟩
  | cons visit rest ih =>
    obtain ⟨other, watcher⟩ := visit
    have witnessed := goesOn_carryOut catalog change watcher [] (react other watcher)
    have accesses := accesses_carryOut catalog ((react other watcher).witness change watcher [])
    obtain ⟨visits, answered, registry⟩ :=
      ih (catalog.carryOut ((react other watcher).witness change watcher [])).1
    obtain ⟨same, handed, acts, all, edited, right⟩ := witnessed
    rw [List.nil_append] at all
    refine ⟨?_, ?_, ?_⟩
    · simp only [notify, List.map_cons, same]
      exact congrArg _ visits
    · simp only [notify, List.forall_mem_cons]
      refine ⟨⟨handed, all ▸ right⟩, fun result member => ?_⟩
      obtain ⟨handed, right⟩ := answered result member
      exact ⟨handed, fun act member => (answers_congr accesses).mp (right act member)⟩
    · simp only [notify, List.flatMap_cons, Act.editAll_append, all, ← edited]
      exact registry

/-- Carries out a mutation while the visits are witnessed. -/
def attended (catalog : Catalog ω) (react : AccessChange → WatchId → ω → Reaction ω α)
    (arrange : List (WatchId × ω) → List (WatchId × ω)) (mutation : Mutation) :
    Round ω (Visit ω α) :=
  catalog.perform (fun change id watcher => (react change id watcher).witness change watcher [])
    arrange mutation

theorem attended_eq (catalog : Catalog ω) (react : AccessChange → WatchId → ω → Reaction ω α)
    (arrange : List (WatchId × ω) → List (WatchId × ω)) (mutation : Mutation) :
    let round := catalog.attended react arrange mutation
    (⟨round.catalog, round.notices,
        round.results.map fun (id, visit) => (id, visit.result)⟩ : Round ω α) =
      catalog.perform react arrange mutation :=
  Dresses.perform (fun change catalog id watcher =>
    carryOut_witness catalog change watcher [] (react change id watcher)) catalog arrange mutation

/-- A change is handed to the watchers that are registered when the operation begins. They are
answered as the catalog stands when it ends, and what they do is all that happens to the registry. -/
theorem attended_of_changed {react : AccessChange → WatchId → ω → Reaction ω α}
    {arrange : List (WatchId × ω) → List (WatchId × ω)} {mutation : Mutation}
    (changed : (catalog.mutate mutation).2 = some change) :
    let round := catalog.attended react arrange mutation
    (round.results.map fun (id, visit) => (id, visit.watcher)) = arrange catalog.watchers.toList ∧
      (∀ result ∈ round.results, result.2.change = change ∧
        ∀ act ∈ result.2.acts, round.catalog.Answers act) ∧
      round.catalog.watchers =
        Act.editAll (round.results.flatMap (·.2.acts)) catalog.watchers := by
  intro round
  have dispatched : round = _ := perform_of_some changed
  have accesses : round.catalog.accesses = (catalog.mutate mutation).1.accesses :=
    accesses_perform ..
  obtain ⟨visits, answered, registry⟩ := @visits_notify _ _ change (react change)
    (arrange (catalog.mutate mutation).1.watchers.toList) (catalog.mutate mutation).1
  rw [watchers_mutate] at dispatched visits answered registry
  refine ⟨?_, fun result member => ?_, ?_⟩
  · rw [dispatched]
    exact visits
  · have visited := member
    rw [dispatched] at visited
    obtain ⟨handed, right⟩ := answered result visited
    exact ⟨handed, fun act done => (answers_congr accesses).mpr (right act done)⟩
  · rw [dispatched]
    exact registry

/-- What the visited watchers do is all that an operation does to the registry. -/
theorem watchers_attended (catalog : Catalog ω) (react : AccessChange → WatchId → ω → Reaction ω α)
    (arrange : List (WatchId × ω) → List (WatchId × ω)) (mutation : Mutation) :
    let round := catalog.attended react arrange mutation
    round.catalog.watchers =
      Act.editAll (round.results.flatMap (·.2.acts)) catalog.watchers := by
  intro round
  cases changed : (catalog.mutate mutation).2 with
  | none =>
    have still : round = ⟨catalog, [], []⟩ := perform_of_none changed
    rw [still]
    rfl
  | some change => exact (attended_of_changed changed).2.2

end Catalog

/-- An operation, and how the watchers behave while it lasts. -/
structure Occasion (ω α : Type) where
  react : AccessChange → WatchId → ω → Reaction ω α
  operation : Operation ω

/-- A catalog with all that was done to its registry, oldest first. -/
structure Chronicle (ω : Type) where
  catalog : Catalog ω
  acts : List (Act ω)

namespace Chronicle

variable {ω α : Type} {chronicle : Chronicle ω} {id : WatchId}

def next (chronicle : Chronicle ω) (occasion : Occasion ω α) : Chronicle ω :=
  match occasion.operation with
  | .perform arrange _ mutation =>
    ⟨(chronicle.catalog.perform occasion.react arrange mutation).catalog,
      chronicle.acts ++ (chronicle.catalog.attended occasion.react arrange mutation).results.flatMap
        (·.2.acts)⟩
  | .register id watcher =>
    ⟨(chronicle.catalog.register id watcher).1, chronicle.acts ++ [.register id watcher]⟩
  | .remove id => ⟨(chronicle.catalog.remove id).1, chronicle.acts ++ [.remove id]⟩

def run (chronicle : Chronicle ω) (occasions : List (Occasion ω α)) : Chronicle ω :=
  occasions.foldl next chronicle

/-- The registry is what all acts made of that of the given catalog. -/
def IsOf (chronicle : Chronicle ω) (catalog : Catalog ω) : Prop :=
  chronicle.catalog.watchers = Act.editAll chronicle.acts catalog.watchers

theorem IsOf.next {catalog : Catalog ω} (h : chronicle.IsOf catalog) (occasion : Occasion ω α) :
    (chronicle.next occasion).IsOf catalog := by
  obtain ⟨react, operation⟩ := occasion
  unfold IsOf at h ⊢
  cases operation with
  | perform arrange perm mutation =>
    have registry := chronicle.catalog.watchers_attended react arrange mutation
    have same := congrArg Round.catalog (chronicle.catalog.attended_eq react arrange mutation)
    simp only [Chronicle.next, Act.editAll_append, ← h, ← registry, ← same]
  | register other watcher =>
    simp only [Chronicle.next, Act.editAll_append, ← h]
    rfl
  | remove other =>
    simp only [Chronicle.next, Act.editAll_append, ← h, Catalog.watchers_remove]
    rfl

theorem IsOf.run {catalog : Catalog ω} (h : chronicle.IsOf catalog)
    (occasions : List (Occasion ω α)) : (chronicle.run occasions).IsOf catalog := by
  induction occasions generalizing chronicle with
  | nil => exact h
  | cons occasion rest ih => exact ih (h.next occasion)

/-- However watchers act on the catalog while they are told, an operation hands its change once to
each watcher that is registered when it begins, and to no other; all are answered as the catalog
stands when it ends; and the registry is then what their acts make of it in the order of the visits.
So a watcher that was removed is not called again, and one that was added is called by every
operation until something is done under its id. -/
theorem dispatch_reentrant (catalog : Catalog ω) (occasions : List (Occasion ω α)) :
    let past := (⟨catalog, []⟩ : Chronicle ω).run occasions
    past.catalog.watchers = Act.editAll past.acts catalog.watchers ∧
    ∀ (react : AccessChange → WatchId → ω → Reaction ω α)
      (arrange : List (WatchId × ω) → List (WatchId × ω))
      (perm : ∀ visits, (arrange visits).Perm visits) (mutation : Mutation),
      let round := past.catalog.attended react arrange mutation
      let visited := round.results.map fun (id, visit) => (id, visit.watcher)
      (⟨round.catalog, round.notices,
          round.results.map fun (id, visit) => (id, visit.result)⟩ : Round ω α) =
        past.catalog.perform react arrange mutation ∧
      past.next ⟨react, .perform arrange perm mutation⟩ =
        ⟨round.catalog, past.acts ++ round.results.flatMap (·.2.acts)⟩ ∧
      round.catalog.accesses = (past.catalog.mutate mutation).1.accesses ∧
      round.catalog.watchers =
        Act.editAll (round.results.flatMap (·.2.acts)) past.catalog.watchers ∧
      ((past.catalog.mutate mutation).2 = none → visited = []) ∧
      ∀ change, (past.catalog.mutate mutation).2 = some change →
        visited = arrange past.catalog.watchers.toList ∧
        (∀ id, visited.filter (·.1 == id) =
          (past.catalog.watchers[id]?.map fun watcher => (id, watcher)).toList) ∧
        (∀ id visit, (id, visit) ∈ round.results → visit.change = change ∧
          (∀ subscriber names, .listed subscriber names ∈ visit.acts →
            names = round.catalog.visible subscriber) ∧
          ∀ name access, .asked name access ∈ visit.acts → access = round.catalog.access? name) ∧
        (∀ before id later, past.acts = before ++ .remove id :: later →
          (∀ watcher, .register id watcher ∉ later) → visited.filter (·.1 == id) = []) ∧
        ∀ before id watcher later, past.acts = before ++ .register id watcher :: later →
          .remove id ∉ later → (∀ watcher, .register id watcher ∉ later) →
            visited.filter (·.1 == id) = [(id, watcher)] := by
  intro past
  have start : (⟨catalog, []⟩ : Chronicle ω).IsOf catalog := rfl
  have registry : past.catalog.watchers = Act.editAll past.acts catalog.watchers :=
    start.run occasions
  refine ⟨registry, fun react arrange perm mutation => ?_⟩
  intro round visited
  have plain := past.catalog.attended_eq react arrange mutation
  refine ⟨plain, ?_, Catalog.accesses_perform .., Catalog.watchers_attended .., ?_, ?_⟩
  · simp only [next, ← plain]
    rfl
  · intro unchanged
    have still : round = ⟨past.catalog, [], []⟩ := Catalog.perform_of_none unchanged
    simp [visited, still]
  · intro change changed
    obtain ⟨visits, answered, -⟩ := Catalog.attended_of_changed changed
    have each (id : WatchId) : visited.filter (·.1 == id) =
        (past.catalog.watchers[id]?.map fun watcher => (id, watcher)).toList := by
      rw [show visited = _ from visits]
      exact Catalog.filter_visits (perm past.catalog.watchers.toList) id
    refine ⟨visits, each, fun id visit member => ?_, ?_, ?_⟩
    · obtain ⟨handed, right⟩ := answered (id, visit) member
      exact ⟨handed, fun _ _ done => right _ done, fun _ _ done => right _ done⟩
    · intro before id later acts unregistered
      have absent : (Act.edit (.remove id) (Act.editAll before catalog.watchers))[id]? = none := by
        simp [Act.edit]
      have gone := Act.getElem?_editAll_of_absent absent unregistered
      rw [each, registry, acts, Act.editAll_append, Act.editAll_cons, gone]
      rfl
    · intro before id watcher later acts unremoved unregistered
      have present : (Act.edit (.register id watcher)
          (Act.editAll before catalog.watchers))[id]? = some watcher := by
        simp [Act.edit]
      have stays := Act.getElem?_editAll_of_present present unremoved unregistered
      rw [each, registry, acts, Act.editAll_append, Act.editAll_cons, stays]
      rfl

/-- Two watchers remove each other while they are told; the first also adds a third one, and the
second, which is told all the same, puts another in its own place. -/
theorem dispatch_reentrant_mutual :
    let react (_ : AccessChange) (_ : WatchId) (watcher : Nat) : Reaction Nat Unit :=
      if watcher = 10 then
        .remove 2 (.register 3 30 (.remove 1 (.list ⟨"u", []⟩ fun _ => .done ())))
      else if watcher = 20 then .remove 1 (.register 2 21 (.access "a" fun _ => .done ()))
      else .done ()
    let inOrder (visits : List (WatchId × Nat)) := visits
    let visible : Access := ⟨.ofNames ["u"], ∅⟩
    let catalog := (((Catalog.empty : Catalog Nat).register 1 10).1.register 2 20).1
    let past := (⟨catalog, []⟩ : Chronicle Nat).run
      [⟨react, .perform inOrder (fun _ => .refl _) (.setAccess "a" visible)⟩]
    let round := past.catalog.attended react inOrder (.touch "a")
    let visited := round.results.map fun (id, visit) => (id, visit.watcher)
    past.acts = [.remove 2, .register 3 30, .remove 1, .listed ⟨"u", []⟩ ["a"], .remove 1,
      .register 2 21, .asked "a" (some visible)] ∧
    visited = [(2, 21), (3, 30)] ∧
    visited.filter (·.1 == 1) = [] ∧ visited.filter (·.1 == 3) = [(3, 30)] := by
  intro react inOrder visible catalog past round visited
  have acts : past.acts = [.remove 2, .register 3 30, .remove 1, .listed ⟨"u", []⟩ ["a"],
      .remove 1, .register 2 21, .asked "a" (some visible)] := by rfl
  have changed : (past.catalog.mutate (.touch "a")).2 =
      some (.between "a" visible visible) := by rfl
  obtain ⟨-, law⟩ := dispatch_reentrant catalog
    [⟨react, .perform inOrder (fun _ => .refl _) (.setAccess "a" visible)⟩]
  obtain ⟨-, -, -, -, -, law⟩ := law react inOrder (fun _ => .refl _) (.touch "a")
  obtain ⟨visits, -, -, gone, stays⟩ := law _ changed
  refine ⟨acts, ?_, ?_, ?_⟩
  · exact visits.trans (by rfl)
  · refine gone [.remove 2, .register 3 30, .remove 1, .listed ⟨"u", []⟩ ["a"]] 1 _ acts ?_
    simp
  · refine stays [.remove 2] 3 30 _ acts ?_ ?_ <;> simp

end Chronicle
end AccessFeed
