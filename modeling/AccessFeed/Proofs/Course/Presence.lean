import AccessFeed.Proofs.Course.Replica
import Mathlib.Computability.Language

/-! How the events of one project follow each other: it is announced, then modified any number of
times, then deleted, and all over again.

A replica that never adds what is there and never touches what is not goes through such a course
for every name. -/
namespace AccessFeed

open scoped Computability

/-- The kind of an event that carries the project of the given name. -/
def Event.kindOf? (name : String) (event : Event) : Option EventKind :=
  event.project?.bind fun project => if project.name = name then some event.kind else none

namespace EventKind

/-- What a consumer gets of a project that is there, until the project is gone. -/
def stay : Language EventKind := {[.modified]}∗ * {[.deleted]}

/-- What a consumer gets of a project from its announcement until the project is gone. -/
def presence : Language EventKind := {[.added]} * stay

/-- Whether a project is there after an event, if the event is in order. -/
def follow? : Bool → EventKind → Option Bool
  | false, .added => some true
  | true, .modified => some true
  | true, .deleted => some false
  | _, _ => none

theorem append_mem_presence {word rest : List EventKind} (first : word ∈ presence)
    (others : rest ∈ presence∗) : word ++ rest ∈ presence∗ := by
  obtain ⟨words, rfl, all⟩ := others
  exact Language.join_mem_kstar (L := word :: words) (List.forall_mem_cons.mpr ⟨first, all⟩)

theorem added_cons_mem {word : List EventKind} (h : word ∈ stay) : .added :: word ∈ presence := by
  have first : [EventKind.added] ∈ ({[.added]} : Language EventKind) := Set.mem_singleton _
  exact Language.append_mem_mul first h

theorem modified_cons_mem {word : List EventKind} (h : word ∈ stay) : .modified :: word ∈ stay := by
  obtain ⟨changes, ⟨words, rfl, all⟩, last, ended, rfl⟩ := Language.mem_mul.mp h
  have first : [EventKind.modified] ∈ ({[.modified]} : Language EventKind) := Set.mem_singleton _
  have more : ([.modified] :: words).flatten ∈ ({[.modified]} : Language EventKind)∗ :=
    Language.join_mem_kstar (List.forall_mem_cons.mpr ⟨first, all⟩)
  exact Language.append_mem_mul more ended

theorem deleted_cons_mem {rest : List EventKind} (h : rest ∈ presence∗) :
    .deleted :: rest ∈ stay * presence∗ := by
  have gone : [] ++ [EventKind.deleted] ∈ stay :=
    Language.append_mem_mul (Language.nil_mem_kstar _) (Set.mem_singleton _)
  exact Language.append_mem_mul (a := [.deleted]) gone h

/-- Events in order can be gone on with until the project is gone, from where it stands on. -/
theorem exists_append_mem {isThere now : Bool} {word : List EventKind}
    (h : word.foldlM follow? isThere = some now) :
    ∃ rest, word ++ rest ∈ if isThere then stay * presence∗ else presence∗ := by
  induction word generalizing isThere with
  | nil =>
    cases isThere with
    | false => exact ⟨[], Language.nil_mem_kstar _⟩
    | true => exact ⟨[.deleted], deleted_cons_mem (Language.nil_mem_kstar _)⟩
  | cons kind word ih =>
    rw [List.foldlM_cons] at h
    -- only the three kinds that are in order leave something to follow
    cases isThere <;> cases kind <;> try cases h
    case false.added =>
      obtain ⟨rest, member⟩ := ih h
      obtain ⟨first, stays, others, more, split⟩ := Language.mem_mul.mp member
      refine ⟨rest, ?_⟩
      rw [List.cons_append, ← split]
      exact append_mem_presence (added_cons_mem stays) more
    case true.modified =>
      obtain ⟨rest, member⟩ := ih h
      obtain ⟨first, stays, others, more, split⟩ := Language.mem_mul.mp member
      refine ⟨rest, ?_⟩
      rw [List.cons_append, ← split]
      exact Language.append_mem_mul (modified_cons_mem stays) more
    case true.deleted =>
      obtain ⟨rest, member⟩ := ih h
      exact ⟨rest, deleted_cons_mem member⟩

/-- A project that was never announced begins with its announcement. -/
theorem head?_of_mem_kstar {kind : EventKind} {word : List EventKind}
    (h : kind :: word ∈ presence∗) : kind = .added := by
  obtain ⟨words, split, all⟩ := Language.mem_kstar.mp h
  cases words with
  | nil => cases split
  | cons first words =>
    obtain ⟨_, rfl, stays, -, rfl⟩ := Language.mem_mul.mp (all first List.mem_cons_self)
    exact (List.cons.inj split).1

/-- A part of events in order is in order. -/
theorem foldlM_of_prefix {isThere now : Bool} {word part : List EventKind} (within : part <+: word)
    (h : word.foldlM follow? isThere = some now) :
    ∃ then', part.foldlM follow? isThere = some then' := by
  obtain ⟨rest, rfl⟩ := within
  rw [List.foldlM_append] at h
  obtain ⟨then', part, -⟩ := Option.bind_eq_some_iff.mp h
  exact ⟨then', part⟩

end EventKind

namespace NameSet

open EventKind

theorem follow?_of_absorb? {names next : NameSet} {event : Event}
    (h : names.absorb? event = some next) (name : String) :
    (event.kindOf? name).toList.foldlM follow? (decide (name ∈ names)) =
      some (decide (name ∈ next)) := by
  cases event with
  | added project =>
    simp only [absorb?] at h
    split at h
    · cases h
    · rename_i absent
      obtain rfl := Option.some.inj h
      by_cases same : project.name = name
      · subst same
        simp [Event.kindOf?, Event.project?, Event.kind, absent, follow?]
      · simp [Event.kindOf?, Event.project?, same]
  | modified project =>
    simp only [absorb?] at h
    split at h
    · rename_i present
      obtain rfl := Option.some.inj h
      by_cases same : project.name = name
      · subst same
        simp [Event.kindOf?, Event.project?, Event.kind, present, follow?]
      · simp [Event.kindOf?, Event.project?, same]
    · cases h
  | deleted project =>
    simp only [absorb?] at h
    split at h
    · rename_i present
      obtain rfl := Option.some.inj h
      by_cases same : project.name = name
      · subst same
        simp [Event.kindOf?, Event.project?, Event.kind, present, follow?]
      · simp [Event.kindOf?, Event.project?, same]
    · cases h
  | error status => cases h

/-- For each name, the events that a replica takes in are in order. -/
theorem foldlM_of_absorbAll? {names next : NameSet} {events : List Event}
    (h : names.absorbAll? events = some next) (name : String) :
    (events.filterMap (Event.kindOf? name)).foldlM follow? (decide (name ∈ names)) =
      some (decide (name ∈ next)) := by
  induction events generalizing names with
  | nil =>
    obtain rfl := Option.some.inj h
    rfl
  | cons event rest ih =>
    rw [absorbAll?_cons] at h
    obtain ⟨between, first, others⟩ := Option.bind_eq_some_iff.mp h
    have split : (event :: rest).filterMap (Event.kindOf? name) =
        (event.kindOf? name).toList ++ rest.filterMap (Event.kindOf? name) := by
      cases kind : event.kindOf? name <;> simp [kind]
    rw [split, List.foldlM_append, follow?_of_absorb? first]
    exact ih others

end NameSet
end AccessFeed
