import AccessFeed.Proofs.Visibility
import Mathlib.Data.List.Induction

/-! What a watcher that stays registered can tell of the catalog from the changes it is handed.

A change gives the access after it in full and as a difference from the access before. Both readings
agree, at every change, with each other and with what the catalog answers. -/
namespace AccessFeed

namespace Access

/-- The access after a change, by what the change took away and added. -/
def apply (access : Access) (change : AccessChange) : Access :=
  (access.diff change.removed).union change.added

/-- All users and groups of one access are in the other. -/
def Within (access other : Access) : Prop :=
  (∀ user ∈ access.users, user ∈ other.users) ∧ ∀ group ∈ access.groups, group ∈ other.groups

/-- Two accesses have no user and no group in common. -/
def Apart (access other : Access) : Prop :=
  (∀ user ∈ access.users, user ∉ other.users) ∧ ∀ group ∈ access.groups, group ∉ other.groups

theorem within_diff (access other : Access) : (access.diff other).Within access := by
  simp only [Within, diff, Std.ExtTreeSet.mem_diff_iff]
  exact ⟨fun _ member => member.1, fun _ member => member.1⟩

theorem apart_diff (access other : Access) : (access.diff other).Apart other := by
  simp only [Apart, diff, Std.ExtTreeSet.mem_diff_iff]
  exact ⟨fun _ member => member.2, fun _ member => member.2⟩

theorem diff_union_diff (previous latest : NameSet) :
    (previous \ (previous \ latest)) ∪ (latest \ previous) = latest := by
  apply Std.ExtTreeSet.ext_mem
  intro name
  simp only [Std.ExtTreeSet.mem_union_iff, Std.ExtTreeSet.mem_diff_iff]
  by_cases before : name ∈ previous <;> by_cases after : name ∈ latest <;> simp [before, after]

/-- The difference that a change tells leads from the access before it to the access after it. -/
theorem apply_between (name : String) (previous latest : Access) :
    previous.apply (.between name previous latest) = latest := by
  simp only [apply, AccessChange.between, diff, union, diff_union_diff]

end Access

/-- What a watcher was handed, what it was answered from inside the notification when it asked who
may see a namespace, and its result. -/
structure Hearing (α : Type) where
  change : AccessChange
  answers : List (String × Option Access)
  result : α

/-- The same reaction, with what it was answered in its result. -/
def Reaction.record {ω α : Type} (change : AccessChange) :
    List (String × Option Access) → Reaction ω α → Reaction ω (Hearing α)
  | answers, .done result => .done ⟨change, answers, result⟩
  | answers, .note notice next => .note notice (next.record change answers)
  | answers, .register id watcher next => .register id watcher (next.record change answers)
  | answers, .remove id next => .remove id (next.record change answers)
  | answers, .list subscriber next => .list subscriber fun names => (next names).record change answers
  | answers, .access name next =>
    .access name fun access => (next access).record change (answers ++ [(name, access)])

/-- What may happen to a catalog from outside. -/
inductive Operation (ω : Type) where
  | perform (arrange : List (WatchId × ω) → List (WatchId × ω))
      (perm : ∀ visits, (arrange visits).Perm visits) (mutation : Mutation)
  | register (id : WatchId) (watcher : ω)
  | remove (id : WatchId)

/-- The namespace that an operation is about. -/
def Operation.name? {ω : Type} : Operation ω → Option String
  | .perform _ _ mutation => some mutation.name
  | _ => none

namespace Catalog

variable {ω α : Type} {catalog : Catalog ω} {change : AccessChange} {id : WatchId}

/-- Carries out an operation, with what the watchers are answered in their results. -/
def operate (react : AccessChange → WatchId → ω → Reaction ω α) (catalog : Catalog ω) :
    Operation ω → Round ω (Hearing α)
  | .perform arrange _ mutation =>
    catalog.perform (fun change id watcher => (react change id watcher).record change []) arrange
      mutation
  | .register id watcher =>
    ⟨(catalog.register id watcher).1, (catalog.register id watcher).2, []⟩
  | .remove id => ⟨(catalog.remove id).1, (catalog.remove id).2, []⟩

theorem access?_congr {other : Catalog ω} (h : other.accesses = catalog.accesses) (name : String) :
    other.access? name = catalog.access? name := by
  rw [access?, h, access?]

/-- While a watcher is told, it is answered as the catalog stands. -/
theorem answers_carryOut (catalog : Catalog ω) (change : AccessChange)
    (answers : List (String × Option Access)) (reaction : Reaction ω α) :
    let hearing := (catalog.carryOut (reaction.record change answers)).2.2
    hearing.change = change ∧ ∀ name answer, (name, answer) ∈ hearing.answers →
      (name, answer) ∈ answers ∨ answer = catalog.access? name := by
  intro hearing
  induction reaction generalizing catalog answers with
  | done result => exact ⟨rfl, fun _ _ member => .inl member⟩
  | note notice next ih => exact ih catalog answers
  | register other watcher next ih =>
    obtain ⟨same, told⟩ := ih (catalog.register other watcher).1 answers
    exact ⟨same, told⟩
  | remove other next ih =>
    obtain ⟨same, told⟩ := ih (catalog.remove other).1 answers
    refine ⟨same, fun name answer member => ?_⟩
    rw [← access?_congr (accesses_remove catalog other)]
    exact told name answer member
  | list subscriber next ih => exact ih (catalog.visible subscriber) catalog answers
  | access asked next ih =>
    obtain ⟨same, told⟩ :=
      ih (catalog.access? asked) catalog (answers ++ [(asked, catalog.access? asked)])
    refine ⟨same, fun name answer member => ?_⟩
    obtain earlier | now := told name answer member
    · rw [List.mem_append, List.mem_singleton, Prod.mk.injEq] at earlier
      obtain earlier | ⟨rfl, rfl⟩ := earlier
      · exact .inl earlier
      · exact .inr rfl
    · exact .inr now

/-- That a reaction is recorded changes nothing else. -/
theorem carryOut_record (catalog : Catalog ω) (change : AccessChange)
    (answers : List (String × Option Access)) (reaction : Reaction ω α) :
    let recorded := catalog.carryOut (reaction.record change answers)
    (recorded.1, recorded.2.1, recorded.2.2.result) = catalog.carryOut reaction := by
  intro recorded
  induction reaction generalizing catalog answers with
  | done result => rfl
  | note notice next ih => simp only [carryOut, ← ih catalog answers]; rfl
  | register other watcher next ih =>
    simp only [carryOut, ← ih (catalog.register other watcher).1 answers]; rfl
  | remove other next ih => simp only [carryOut, ← ih (catalog.remove other).1 answers]; rfl
  | list subscriber next ih => exact ih (catalog.visible subscriber) catalog answers
  | access asked next ih => exact ih (catalog.access? asked) catalog _

/-- The second behaviour is the first one with other results, which can be stripped again. -/
def Dresses {β : Type} (strip : β → α) (plain : WatchId → ω → Reaction ω α)
    (dressed : WatchId → ω → Reaction ω β) : Prop :=
  ∀ (catalog : Catalog ω) (id : WatchId) (watcher : ω),
    let carried := catalog.carryOut (dressed id watcher)
    (carried.1, carried.2.1, strip carried.2.2) = catalog.carryOut (plain id watcher)

theorem Dresses.notify {β : Type} {strip : β → α} {plain : WatchId → ω → Reaction ω α}
    {dressed : WatchId → ω → Reaction ω β} (h : Dresses strip plain dressed)
    (visits : List (WatchId × ω)) (catalog : Catalog ω) :
    let round := Catalog.notify dressed visits catalog
    (⟨round.catalog, round.notices,
        round.results.map fun (id, result) => (id, strip result)⟩ : Round ω α) =
      Catalog.notify plain visits catalog := by
  intro round
  induction visits generalizing catalog with
  | nil => rfl
  | cons visit rest ih =>
    obtain ⟨other, watcher⟩ := visit
    simp only [Catalog.notify, ← h catalog other watcher, ← ih]
    rfl

/-- Each visit is a hearing of the change, with answers that are right. -/
theorem hearing_notify (react : WatchId → ω → Reaction ω α) (visits : List (WatchId × ω))
    (catalog : Catalog ω) :
    let results := (notify (fun id watcher => (react id watcher).record change []) visits
      catalog).results
    results.map Prod.fst = visits.map Prod.fst ∧ ∀ result ∈ results, result.2.change = change ∧
      ∀ name answer, (name, answer) ∈ result.2.answers → answer = catalog.access? name := by
  induction visits generalizing catalog with
  | nil => exact ⟨rfl, fun _ member => nomatch member⟩
  | cons visit rest ih =>
    obtain ⟨other, watcher⟩ := visit
    have first := answers_carryOut catalog change [] (react other watcher)
    have same := accesses_carryOut catalog ((react other watcher).record change [])
    obtain ⟨ids, others⟩ := ih (catalog.carryOut ((react other watcher).record change [])).1
    refine ⟨congrArg (other :: ·) ids, fun result member => ?_⟩
    obtain rfl | member := List.mem_cons.mp member
    · refine ⟨first.1, fun name answer told => ?_⟩
      obtain none | now := first.2 name answer told
      · cases none
      · exact now
    · obtain ⟨heard, told⟩ := others result member
      refine ⟨heard, fun name answer member => ?_⟩
      rw [told name answer member]
      exact access?_congr same name

theorem perform_of_none {react : AccessChange → WatchId → ω → Reaction ω α}
    {arrange : List (WatchId × ω) → List (WatchId × ω)} {mutation : Mutation}
    (h : (catalog.mutate mutation).2 = none) :
    catalog.perform react arrange mutation = ⟨catalog, [], []⟩ := by
  have same := mutate_of_none h
  unfold perform
  generalize catalog.mutate mutation = mutated at h same
  obtain ⟨after, change?⟩ := mutated
  obtain rfl : change? = none := h
  obtain rfl : after = catalog := same
  rfl

theorem perform_of_some {react : AccessChange → WatchId → ω → Reaction ω α}
    {arrange : List (WatchId × ω) → List (WatchId × ω)} {mutation : Mutation}
    (h : (catalog.mutate mutation).2 = some change) :
    catalog.perform react arrange mutation = (catalog.mutate mutation).1.dispatch react
      (arrange (catalog.mutate mutation).1.watchers.toList) change := by
  unfold perform
  generalize catalog.mutate mutation = mutated at h
  obtain ⟨after, change?⟩ := mutated
  obtain rfl : change? = some change := h
  rfl

theorem accesses_perform (react : AccessChange → WatchId → ω → Reaction ω α)
    (arrange : List (WatchId × ω) → List (WatchId × ω)) (mutation : Mutation) :
    (catalog.perform react arrange mutation).catalog.accesses =
      (catalog.mutate mutation).1.accesses := by
  cases changed : (catalog.mutate mutation).2 with
  | none => rw [perform_of_none changed, mutate_of_none changed]
  | some change =>
    rw [perform_of_some changed]
    exact accesses_notify ..

theorem Dresses.perform {β : Type} {strip : β → α}
    {plain : AccessChange → WatchId → ω → Reaction ω α}
    {dressed : AccessChange → WatchId → ω → Reaction ω β}
    (h : ∀ change, Dresses strip (plain change) (dressed change)) (catalog : Catalog ω)
    (arrange : List (WatchId × ω) → List (WatchId × ω)) (mutation : Mutation) :
    let round := catalog.perform dressed arrange mutation
    (⟨round.catalog, round.notices,
        round.results.map fun (id, result) => (id, strip result)⟩ : Round ω α) =
      catalog.perform plain arrange mutation := by
  intro round
  cases changed : (catalog.mutate mutation).2 with
  | none =>
    rw [perform_of_none changed]
    simp [round, perform_of_none changed]
  | some change =>
    have same := (h change).notify (arrange (catalog.mutate mutation).1.watchers.toList)
      (catalog.mutate mutation).1
    simp only [round, perform_of_some changed, dispatch, ← same]

theorem perform_record (react : AccessChange → WatchId → ω → Reaction ω α)
    (arrange : List (WatchId × ω) → List (WatchId × ω)) (mutation : Mutation) :
    let recorded := catalog.perform
      (fun change id watcher => (react change id watcher).record change []) arrange mutation
    (⟨recorded.catalog, recorded.notices,
        recorded.results.map fun (id, hearing) => (id, hearing.result)⟩ : Round ω α) =
      catalog.perform react arrange mutation :=
  Dresses.perform (fun change catalog id watcher => carryOut_record catalog change []
    (react change id watcher)) catalog arrange mutation

theorem access?_operate_of_ne {react : AccessChange → WatchId → ω → Reaction ω α}
    {operation : Operation ω} {other : String} (h : operation.name? ≠ some other) :
    (catalog.operate react operation).catalog.access? other = catalog.access? other := by
  cases operation with
  | register id watcher => rfl
  | remove id => exact access?_congr (accesses_remove catalog id) other
  | perform arrange perm mutation =>
    have apart : mutation.name ≠ other := fun same => h (congrArg some same)
    exact (access?_congr (accesses_perform ..) other).trans (access?_mutate_of_ne apart)

/-- A registered watcher hears of a change once, and while it does the mutation is done. -/
theorem exists_hearing {arrange : List (WatchId × ω) → List (WatchId × ω)}
    (perm : ∀ visits, (arrange visits).Perm visits) (registered : catalog.registers id = true)
    (react : AccessChange → WatchId → ω → Reaction ω α) {mutation : Mutation}
    (changed : (catalog.mutate mutation).2 = some change) :
    let round := catalog.operate react (.perform arrange perm mutation)
    let after := (catalog.mutate mutation).1
    ∃ hearing, (round.results.filter (·.1 == id)).map Prod.snd = [hearing] ∧
      hearing.change = change ∧
      (∀ name answer, (name, answer) ∈ hearing.answers → answer = after.access? name) ∧
      round.catalog.accesses = after.accesses := by
  intro round after
  have dispatched : round = _ := perform_of_some changed
  have still : after.registers id = true := (registers_mutate catalog mutation id).trans registered
  have once := count_visits (perm after.watchers.toList) still
  obtain ⟨ids, heard⟩ := @hearing_notify _ _ change (react change)
    (arrange after.watchers.toList) after
  rw [← ids, List.count, List.countP_map, List.countP_eq_length_filter] at once
  obtain ⟨result, only⟩ := List.length_eq_one_iff.mp once
  have member : result ∈ _ := only.symm ▸ List.mem_singleton_self result
  obtain ⟨about, told⟩ := heard result (List.mem_filter.mp member).1
  refine ⟨result.2, ?_, about, told, accesses_perform ..⟩
  rw [dispatched]
  exact congrArg (List.map Prod.snd) only

end Catalog

/-- A catalog with all hearings of its watchers, oldest first. -/
structure Ledger (ω α : Type) where
  catalog : Catalog ω
  heard : List (WatchId × Hearing α)

namespace Ledger

variable {ω α : Type} {react : AccessChange → WatchId → ω → Reaction ω α} {ledger : Ledger ω α}
  {id : WatchId} {name : String}

/-- Nothing was heard yet. -/
def start (catalog : Catalog ω) : Ledger ω α := ⟨catalog, []⟩

def next (react : AccessChange → WatchId → ω → Reaction ω α) (ledger : Ledger ω α)
    (operation : Operation ω) : Ledger ω α where
  catalog := (ledger.catalog.operate react operation).catalog
  heard := ledger.heard ++ (ledger.catalog.operate react operation).results

def run (react : AccessChange → WatchId → ω → Reaction ω α) (ledger : Ledger ω α)
    (operations : List (Operation ω)) : Ledger ω α := operations.foldl (next react) ledger

/-- The hearings of one watcher about one namespace, oldest first. -/
def log (ledger : Ledger ω α) (id : WatchId) (name : String) : List (Hearing α) :=
  ((ledger.heard.filter (·.1 == id)).map Prod.snd).filter (·.change.name == name)

/-- What the hearings make of the access that they begin with. -/
def replay (access : Access) (log : List (Hearing α)) : Access :=
  log.foldl (fun access hearing => access.apply hearing.change) access

/-- One hearing of a change of the namespace. -/
structure Hears (before after : Ledger ω α) (id : WatchId) (name : String) (hearing : Hearing α) :
    Prop where
  log_eq : after.log id name = before.log id name ++ [hearing]
  change_eq : hearing.change =
    .between name (before.catalog.accessOf name) (after.catalog.accessOf name)
  answers_eq : ∀ answer, (name, answer) ∈ hearing.answers →
    answer = after.catalog.access? name

theorem log_next (operation : Operation ω) :
    (ledger.next react operation).log id name = ledger.log id name ++
      (((ledger.catalog.operate react operation).results.filter (·.1 == id)).map Prod.snd).filter
        (·.change.name == name) := by
  simp [log, next]

/-- An operation leaves a namespace as it is, or a registered watcher hears of it. -/
theorem next_cases (registered : ledger.catalog.registers id = true) (name : String)
    (operation : Operation ω) :
    ((ledger.next react operation).log id name = ledger.log id name ∧
      (ledger.next react operation).catalog.access? name = ledger.catalog.access? name) ∨
    ∃ hearing, ledger.Hears (ledger.next react operation) id name hearing := by
  have aside (silent : (ledger.catalog.operate react operation).results = []) :
      (ledger.next react operation).log id name = ledger.log id name := by
    rw [log_next, silent]
    simp
  cases operation with
  | register other watcher => exact .inl ⟨aside rfl, rfl⟩
  | remove other =>
    have accesses := Catalog.accesses_remove ledger.catalog other
    exact .inl ⟨aside rfl, Catalog.access?_congr accesses name⟩
  | perform arrange perm mutation =>
    cases changed : (ledger.catalog.mutate mutation).2 with
    | none =>
      have still : ledger.catalog.operate react (.perform arrange perm mutation) =
          ⟨ledger.catalog, [], []⟩ := Catalog.perform_of_none changed
      exact .inl ⟨aside (congrArg Round.results still), by rw [next, still]⟩
    | some change =>
      obtain ⟨hearing, only, about, told, same⟩ :=
        Catalog.exists_hearing perm registered react changed
      have access (name : String) :
          (ledger.next react (.perform arrange perm mutation)).catalog.access? name =
            (ledger.catalog.mutate mutation).1.access? name := Catalog.access?_congr same name
      have log := @log_next _ _ react ledger id name (.perform arrange perm mutation)
      rw [only] at log
      by_cases concerned : change.name = name
      · subst concerned
        refine .inr ⟨hearing, ?_, ?_, fun answer member => ?_⟩
        · simpa [about] using log
        · have latest := congrArg (Option.getD · Access.nobody) (access change.name)
          rw [about]
          exact (Catalog.change_of_mutate changed).1.trans
            (congrArg (AccessChange.between _ _) latest.symm)
        · rw [access]
          exact told _ _ member
      · refine .inl ⟨by simpa [about, concerned] using log, ?_⟩
        rw [access]
        exact Catalog.access?_mutate_of_ne (Catalog.name_of_mutate changed ▸ concerned)

theorem replay_concat (access : Access) (log : List (Hearing α)) (hearing : Hearing α) :
    replay access (log ++ [hearing]) = (replay access log).apply hearing.change := by
  simp [replay]

theorem Hears.replay_eq {next : Ledger ω α} {hearing : Hearing α} {access : Access}
    (h : ledger.Hears next id name hearing)
    (replayed : replay access (ledger.log id name) = ledger.catalog.accessOf name) :
    replay access (next.log id name) = next.catalog.accessOf name := by
  rw [h.log_eq, replay_concat, replayed, h.change_eq, Access.apply_between]

theorem replay_next {access : Access} (registered : ledger.catalog.registers id = true)
    (operation : Operation ω)
    (replayed : replay access (ledger.log id name) = ledger.catalog.accessOf name) :
    replay access ((ledger.next react operation).log id name) =
      (ledger.next react operation).catalog.accessOf name := by
  obtain ⟨log, same⟩ | ⟨hearing, hears⟩ := next_cases registered name operation
  · rw [log, replayed, Catalog.accessOf, Catalog.accessOf, same]
  · exact hears.replay_eq replayed

@[simp] theorem run_append (ledger : Ledger ω α) (operations more : List (Operation ω)) :
    ledger.run react (operations ++ more) = (ledger.run react operations).run react more :=
  List.foldl_append

/-- What a watcher that stays registered can make of its hearings is who may see the namespace, from
whatever access the catalog had when it began to listen. -/
theorem replay_run {catalog : Catalog ω} {operations : List (Operation ω)}
    (stays : ∀ past operation, past ++ [operation] <+: operations →
      ((start catalog).run react past).catalog.registers id = true) (name : String) :
    replay (catalog.accessOf name) (((start catalog).run react operations).log id name) =
      ((start catalog).run react operations).catalog.accessOf name := by
  induction operations using List.reverseRecOn with
  | nil => rfl
  | append_singleton operations operation ih =>
    have earlier := ih fun past operation within =>
      stays past operation (within.trans (List.prefix_append _ _))
    rw [run_append]
    exact replay_next (stays operations operation List.prefix_rfl) operation earlier

/-- The changes that are handed to a watcher lead, one after another, from who could see a namespace
when the watcher began to listen to who may see it now, for as long as the watcher stays registered.
Each operation leaves the access of all namespaces as it is except for the one that it is about, and
that one too if it is unknown and to be forgotten or touched; then nothing is handed out. Of every
other change a registered watcher hears at once. While it does and when the operation returns, the
access after the change is what the catalog tells; what was removed was there and is gone, what was
added was not there, and carrying out both leads to that access. -/
theorem replay_log {catalog : Catalog ω} {operations : List (Operation ω)}
    (stays : ∀ past operation, past ++ [operation] <+: operations →
      ((start catalog).run react past).catalog.registers id = true) (name : String) :
    let now := (start catalog).run react operations
    let before := replay (catalog.accessOf name) (now.log id name)
    before = now.catalog.accessOf name ∧
    ∀ operation,
      let next := now.next react operation
      (∀ other, operation.name? ≠ some other →
        next.catalog.access? other = now.catalog.access? other) ∧
      (∀ arrange perm mutation unknown, operation = .perform arrange perm mutation →
        mutation = .forget unknown ∨ mutation = .touch unknown →
        now.catalog.access? unknown = none →
          now.catalog.operate react operation = ⟨now.catalog, [], []⟩ ∧ next = now) ∧
      (∀ arrange perm mutation, operation = .perform arrange perm mutation →
        let round := now.catalog.operate react operation
        ⟨round.catalog, round.notices, round.results.map fun (id, hearing) => (id, hearing.result)⟩ =
          now.catalog.perform react arrange mutation) ∧
      (now.catalog.registers id = true →
        (next.log id name = now.log id name ∧
          next.catalog.access? name = now.catalog.access? name) ∨
        ∃ hearing, next.log id name = now.log id name ++ [hearing] ∧
          hearing.change.name = name ∧
          before.apply hearing.change = hearing.change.latest ∧
          next.catalog.accessOf name = hearing.change.latest ∧
          (∀ answer, (name, answer) ∈ hearing.answers →
            answer.getD .nobody = hearing.change.latest) ∧
          hearing.change.removed.Within before ∧
          hearing.change.removed.Apart hearing.change.latest ∧
          hearing.change.added.Apart before) := by
  intro now before
  have replayed : before = now.catalog.accessOf name := replay_run stays name
  refine ⟨replayed, fun operation => ?_⟩
  intro next
  refine ⟨fun other => Catalog.access?_operate_of_ne, ?_, ?_, fun registered => ?_⟩
  · rintro arrange perm mutation unknown rfl kind none
    have silent : (now.catalog.mutate mutation).2 = .none := by
      obtain rfl | rfl := kind <;> simp [Catalog.mutate, none]
    have still : now.catalog.operate react (.perform arrange perm mutation) =
        ⟨now.catalog, [], []⟩ := Catalog.perform_of_none silent
    exact ⟨still, by simp [next, Ledger.next, still]⟩
  · rintro arrange perm mutation rfl
    exact Catalog.perform_record ..
  · obtain unchanged | ⟨hearing, hears⟩ := next_cases registered name operation
    · exact .inl unchanged
    · have change := hears.change_eq
      rw [← replayed] at change
      refine .inr ⟨hearing, hears.log_eq, by rw [change]; rfl, ?_, by rw [change]; rfl,
        fun answer member => ?_, ?_, ?_, ?_⟩
      · rw [change, Access.apply_between]
        rfl
      · rw [hears.answers_eq answer member, change]
        rfl
      · rw [change]
        exact Access.within_diff _ _
      · rw [change]
        exact Access.apart_diff _ _
      · rw [change]
        exact Access.apart_diff _ _

theorem replay_log_replaced :
    let react (_ : AccessChange) (id : WatchId) (asks : Bool) : Reaction Bool Unit :=
      if asks then .access "a" fun _ => .done () else .remove id (.done ())
    let inOrder (visits : List (WatchId × Bool)) := visits
    let perform (mutation : Mutation) : Operation Bool :=
      .perform inOrder (fun _ => .refl _) mutation
    let visible : Access := ⟨.ofNames ["u"], .ofNames ["g"]⟩
    let catalog : Catalog Bool := ((Catalog.empty.mutate (.setAccess "a" visible)).1.register 7 true).1
    let operations := [.register 8 false, perform (.forget "a"),
      perform (.setAccess "a" ⟨.ofNames ["v"], ∅⟩)]
    let now := (start catalog).run react operations
    (∀ past operation, past ++ [operation] <+: operations →
      ((start catalog).run react past).catalog.registers 7 = true) ∧
    now.catalog.registers 8 = false ∧ (now.log 7 "a").length = 2 ∧
    replay visible (now.log 7 "a") = ⟨.ofNames ["v"], ∅⟩ := by
  intro react inOrder perform visible catalog operations now
  have counted : ∀ count < 3,
      ((start catalog).run react (operations.take count)).catalog.registers 7 = true := by
    decide
  have stays (past : List (Operation Bool)) (operation : Operation Bool)
      (within : past ++ [operation] <+: operations) :
      ((start catalog).run react past).catalog.registers 7 = true := by
    have shorter := within.length_le
    rw [List.length_append] at shorter
    rw [List.prefix_iff_eq_take.mp ((List.prefix_append past [operation]).trans within)]
    exact counted _ shorter
  refine ⟨stays, by decide, by decide, ?_⟩
  have replayed := (replay_log stays "a").1
  have before : catalog.accessOf "a" = visible := by decide
  rw [before] at replayed
  exact replayed.trans (by decide)

end Ledger
end AccessFeed
