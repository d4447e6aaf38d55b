import AccessFeed.Proofs.Visibility

/-! The listing of what a subscriber sees, and how a watch reads a change. The listing before a
mutation and the listing after it tell which way every watch goes, although the change itself tells
only of differences between users and between groups. -/
namespace AccessFeed

/-- The first text comes before the second in the order of code points. -/
def Precedes (first second : String) : Prop :=
  List.Lex (· < ·) (first.toList.map Char.toNat) (second.toList.map Char.toNat)

theorem precedes_of_lt {first second : String} (h : first < second) : Precedes first second := by
  rw [String.lt_iff] at h
  unfold Precedes
  generalize first.toList = chars at h ⊢
  generalize second.toList = others at h ⊢
  induction h with
  | nil => exact .nil
  | rel less => exact .rel less
  | cons _ ih => exact .cons ih

/-- A change is read as granted, as revoked or not at all by those who are allowed after it, by those
who were allowed only before it, and by all others. -/
theorem AccessChange.bearing_between_iff (name : String) (previous latest : Access)
    (subscriber : Subscriber) :
    let bearing := (between name previous latest).bearing subscriber
    (bearing = .granted ↔ latest.allows subscriber = true) ∧
      (bearing = .revoked ↔
        previous.allows subscriber = true ∧ latest.allows subscriber = false) ∧
      (bearing = .unaffected ↔
        previous.allows subscriber = false ∧ latest.allows subscriber = false) := by
  intro bearing
  have read : bearing = _ := bearing_between name previous latest subscriber
  rw [read]
  cases latest.allows subscriber <;> cases previous.allows subscriber <;> decide

namespace Catalog

variable {ω α : Type} {catalog : Catalog ω} {mutation : Mutation} {subscriber : Subscriber}

theorem mem_visible_iff {name : String} :
    name ∈ catalog.visible subscriber ↔
      ∃ access, catalog.access? name = some access ∧ access.allows subscriber = true := by
  rw [mem_visible, accessOf]
  cases catalog.access? name <;> simp

/-- A listing is strictly increasing. -/
theorem visible_increasing (catalog : Catalog ω) (subscriber : Subscriber) :
    (catalog.visible subscriber).Pairwise Precedes := by
  have ordered := catalog.accesses.ordered_keys_toList
  refine List.Pairwise.map _ ?_ (ordered.filter _)
  intro first second less
  exact precedes_of_lt (compareOfLessAndEq_eq_lt.mp less)

/-- Only a namespace that nobody sees is passed over in silence. -/
theorem not_mem_visible_of_silent (h : (catalog.mutate mutation).2 = none) :
    mutation.name ∉ catalog.visible subscriber := by
  have unknown : catalog.access? mutation.name = none := by
    cases mutation with
    | setAccess name latest => cases h
    | forget name =>
      simp only [mutate] at h
      cases found : catalog.access? name with
      | none => exact found
      | some previous => simp [found] at h
    | touch name => exact Option.map_eq_none_iff.mp h
  rw [mem_visible_iff, unknown]
  simp

theorem bearing_of_mutate (catalog : Catalog ω) (mutation : Mutation) (subscriber : Subscriber) :
    (catalog.mutate mutation).2.map (·.bearing subscriber) =
      if mutation.name ∈ (catalog.mutate mutation).1.visible subscriber then some .granted
      else if mutation.name ∈ catalog.visible subscriber then some .revoked
      else (catalog.mutate mutation).2.map fun _ => .unaffected := by
  cases changed : (catalog.mutate mutation).2 with
  | none =>
    have unseen : mutation.name ∉ catalog.visible subscriber := not_mem_visible_of_silent changed
    rw [mutate_of_none changed, if_neg unseen, if_neg unseen]
    rfl
  | some change =>
    have read := (change_of_mutate changed).1
    rw [name_of_mutate changed] at read
    rw [Option.map_some, read, AccessChange.bearing_between]
    simp only [mem_visible]
    split
    · rfl
    · split <;> rfl

/-- How a subscriber reads what a mutation hands out can be told from the listings before and after
it. -/
theorem bearing_of_mutate_iff (catalog : Catalog ω) (mutation : Mutation)
    (subscriber : Subscriber) :
    let bearing? := (catalog.mutate mutation).2.map (·.bearing subscriber)
    let after := (catalog.mutate mutation).1
    (bearing? = some .revoked ↔
      mutation.name ∈ catalog.visible subscriber ∧ mutation.name ∉ after.visible subscriber) ∧
    (bearing? = some .granted ↔ mutation.name ∈ after.visible subscriber) := by
  intro bearing? after
  have read : bearing? = _ := catalog.bearing_of_mutate mutation subscriber
  rw [read]
  by_cases later : mutation.name ∈ after.visible subscriber
  · simp [after, later]
  · by_cases earlier : mutation.name ∈ catalog.visible subscriber <;> simp [after, later, earlier]

end Catalog

namespace Watch

/-- The way a watch goes with a namespace, by whether its subscriber could see it before a change and
can see it afterwards. -/
def goes (watch : Watch) (lookup : Lookup) (name : String) (before after : Bool) :
    Watch × List Effect :=
  if after then watch.grant lookup name
  else if before then watch.revoke name
  else (watch, [])

theorem handle_between (watch : Watch) (lookup : Lookup) (name : String)
    (previous latest : Access) :
    watch.handle lookup (.between name previous latest) =
      watch.goes lookup name (previous.allows watch.subscriber)
        (latest.allows watch.subscriber) := by
  unfold handle goes
  rw [AccessChange.bearing_between]
  cases latest.allows watch.subscriber <;> cases previous.allows watch.subscriber <;> rfl

end Watch

namespace World

variable {world : World} {catalog : Catalog Unit} {id : WatchId} {subscriber : Subscriber}

/-- A registered watch goes the way that the listings of its subscriber tell. -/
theorem glimpse_performIn_listed (host : world.host = .real catalog)
    (registered : catalog.registers id = true) (visiting : Visiting) (mutation : Mutation) :
    (world.performIn visiting.arrange mutation).1.glimpse id =
      (world.glimpse id).act fun watch =>
        watch.goes world.lookup mutation.name
          ((catalog.visible watch.subscriber).contains mutation.name)
          (((catalog.mutate mutation).1.visible watch.subscriber).contains mutation.name) := by
  have enrolled : world.host.registers id = true := by rw [host]; exact registered
  have handed : world.change? mutation = (catalog.mutate mutation).2 := by rw [change?, host]
  rw [glimpse_performIn visiting.perm, handed]
  cases changed : (catalog.mutate mutation).2 with
  | none =>
    have unseen (subscriber : Subscriber) :
        (catalog.visible subscriber).contains mutation.name = false := by
      simpa using Catalog.not_mem_visible_of_silent changed
    simp only [Catalog.mutate_of_none changed, unseen, Watch.goes, Glimpse.act]
    cases held : (world.glimpse id).watch? with
    | none => rfl
    | some watch => simp [Glimpse.put, ← held]
  | some change =>
    have read := (Catalog.change_of_mutate changed).1
    rw [Catalog.name_of_mutate changed] at read
    have listed (catalog : Catalog Unit) (subscriber : Subscriber) :
        (catalog.accessOf mutation.name).allows subscriber =
          (catalog.visible subscriber).contains mutation.name := by
      rw [Bool.eq_iff_iff, ← Catalog.mem_visible, List.contains_iff_mem]
    simp only [enrolled, if_true, read, Watch.handle_between, listed]

/-- Whoever may see a namespace after a change reads it as granted, whoever could see it only before
as revoked, and nobody else heeds it. So a mutation of the catalog is revoked for those whose listing
held the namespace before and does not hold it afterwards, and granted to those whose listing holds
it afterwards, where a listing gives the visible names in strictly increasing order; and each
registered watch goes the way that the two listings of its subscriber tell. -/
theorem handled_as_listed (subscriber : Subscriber) :
    (∀ name previous latest,
      let change := AccessChange.between name previous latest
      (change.bearing subscriber = .granted ↔ latest.allows subscriber = true) ∧
      (change.bearing subscriber = .revoked ↔
        previous.allows subscriber = true ∧ latest.allows subscriber = false) ∧
      (change.bearing subscriber = .unaffected ↔
        previous.allows subscriber = false ∧ latest.allows subscriber = false) ∧
      ∀ (watch : Watch) (lookup : Lookup), watch.subscriber = subscriber →
        watch.handle lookup change =
          watch.goes lookup name (previous.allows subscriber) (latest.allows subscriber)) ∧
    ∀ (world : World) (catalog : Catalog Unit), world.host = .real catalog →
      (catalog.visible subscriber).Pairwise Precedes ∧
      (∀ name, name ∈ catalog.visible subscriber ↔ ∃ access,
        catalog.access? name = some access ∧ (subscriber.name ∈ access.users ∨
          ∃ group ∈ subscriber.groups, group ∈ access.groups)) ∧
      ∀ (visiting : Visiting) (mutation : Mutation),
        let next := (world.performIn visiting.arrange mutation).1
        let bearing? := (world.change? mutation).map (·.bearing subscriber)
        ∃ after, next.host = .real after ∧
          (bearing? = some .revoked ↔ mutation.name ∈ catalog.visible subscriber ∧
            mutation.name ∉ after.visible subscriber) ∧
          (bearing? = some .granted ↔ mutation.name ∈ after.visible subscriber) ∧
          ∀ id watch, world.watches[id]? = some watch → watch.subscriber = subscriber →
            catalog.registers id = true →
              next.glimpse id = (world.glimpse id).act fun watch =>
                watch.goes world.lookup mutation.name
                  ((catalog.visible subscriber).contains mutation.name)
                  ((after.visible subscriber).contains mutation.name) := by
  refine ⟨fun name previous latest => ?_, fun world catalog host => ?_⟩
  · intro change
    obtain ⟨granted, revoked, unaffected⟩ :=
      AccessChange.bearing_between_iff name previous latest subscriber
    refine ⟨granted, revoked, unaffected, fun watch lookup same => ?_⟩
    rw [← same]
    exact watch.handle_between lookup name previous latest
  · refine ⟨catalog.visible_increasing subscriber, fun name => ?_, fun visiting mutation => ?_⟩
    · simp only [Catalog.mem_visible_iff, Access.allows_iff]
    · intro next bearing?
      obtain ⟨after, hosted, accesses⟩ := @host_performIn world visiting.arrange catalog host mutation
      have listed (subscriber : Subscriber) :
          after.visible subscriber = (catalog.mutate mutation).1.visible subscriber := by
        simp only [Catalog.visible, accesses]
      have handed : world.change? mutation = (catalog.mutate mutation).2 := by rw [change?, host]
      have read := catalog.bearing_of_mutate_iff mutation subscriber
      dsimp only at read
      rw [← handed, ← listed] at read
      refine ⟨after, hosted, read.1, read.2, fun id watch found same registered => ?_⟩
      have held : (world.glimpse id).watch? = some watch := found
      have went := glimpse_performIn_listed host registered visiting mutation
      simp only [Glimpse.act, held, same, ← listed] at went ⊢
      exact went

/-- A subscriber who saw a namespace through one of two groups loses it with that group, although the
other one is as it was. -/
theorem handled_as_listed_regrouped :
    let inOrder : Visiting := ⟨fun visits => visits, fun _ => .refl _⟩
    let subscriber : Subscriber := ⟨"u", ["g", "h", "g"]⟩
    let empty : Catalog Unit := .empty
    let before := (empty.mutate (.setAccess "a" ⟨∅, .ofNames ["g", "k"]⟩)).1
    let world := ((World.fresh (.real before)).subscribe subscriber none ⟨4, 4, false⟩).2.1
    let catalog := (before.register 1 ()).1
    let mutation : Mutation := .setAccess "a" ⟨.ofNames ["v"], .ofNames ["k"]⟩
    world.host = .real catalog ∧ catalog.registers 1 = true ∧
      (world.change? mutation).map (·.bearing subscriber) = some .revoked ∧
      ((world.performIn inOrder.arrange mutation).1.glimpse 1).watch?.map Watch.intake =
        some [.deleted (.named "a")] := by
  intro inOrder subscriber empty before world catalog mutation
  have host : world.host = .real catalog := rfl
  have registered : catalog.registers 1 = true := by decide
  obtain ⟨-, -, handled⟩ := (handled_as_listed subscriber).2 world catalog host
  obtain ⟨after, hosted, revoked, -, went⟩ := handled inOrder mutation
  obtain ⟨_, same, accesses⟩ := @host_performIn world inOrder.arrange catalog host mutation
  obtain rfl := Host.real.inj (hosted.symm.trans same)
  have gone : after.visible subscriber = [] := by
    simp only [Catalog.visible, accesses]
    decide
  rw [gone] at revoked
  refine ⟨host, registered, revoked.mpr (by decide), ?_⟩
  rw [went 1 _ rfl rfl registered, gone]
  decide

end World
end AccessFeed
