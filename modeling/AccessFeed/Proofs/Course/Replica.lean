import AccessFeed.Proofs.Course.Conservation
import AccessFeed.Proofs.Course.Departure

/-! A consumer that keeps a set of names by the events it gets: what it makes of the events that a
watch starts with, and of those that the watch makes of changes. -/
namespace AccessFeed

namespace NameSet

/-- The set after an event. Only a name that is absent may be added, and only one that is present
may be modified or deleted. -/
def absorb? (names : NameSet) : Event → Option NameSet
  | .added project => if project.name ∈ names then none else some (names.insert project.name)
  | .modified project => if project.name ∈ names then some (names.insert project.name) else none
  | .deleted project => if project.name ∈ names then some (names.erase project.name) else none
  | .error _ => none

/-- The set after events in order. -/
def absorbAll? (names : NameSet) (events : List Event) : Option NameSet :=
  events.foldlM absorb? names

@[simp] theorem absorbAll?_nil (names : NameSet) : names.absorbAll? [] = some names := rfl

theorem absorbAll?_append (names : NameSet) (events more : List Event) :
    names.absorbAll? (events ++ more) = (names.absorbAll? events).bind (·.absorbAll? more) := by
  simp [absorbAll?, List.foldlM_append]

theorem absorbAll?_cons (names : NameSet) (event : Event) (events : List Event) :
    names.absorbAll? (event :: events) = (names.absorb? event).bind (·.absorbAll? events) := rfl

end NameSet

/-- The names of announced objects are added one after another. -/
theorem absorbAll?_announcements {lookup : Lookup} {names : List String}
    (resolved : ∀ name ∈ names, ∃ object, lookup name = .ok object ∧ object.name = name)
    (distinct : names.Nodup) {set : NameSet} (absent : ∀ name ∈ names, name ∉ set) :
    set.absorbAll? (announcements lookup names) =
      some (names.foldl (fun set name => set.insert name) set) := by
  induction names generalizing set with
  | nil => rfl
  | cons name rest ih =>
    obtain ⟨object, found, same⟩ := resolved name List.mem_cons_self
    obtain ⟨fresh, distinct⟩ := List.nodup_cons.mp distinct
    have first : announcements lookup (name :: rest) =
        .added object.project :: announcements lookup rest := by
      simp [announcements, found, Except.toOption]
    have added : set.absorb? (.added object.project) = some (set.insert name) := by
      have outside : name ∉ set := absent name List.mem_cons_self
      simp [NameSet.absorb?, Namespace.project, same, outside]
    rw [first, NameSet.absorbAll?_cons, added, Option.bind_some, List.foldl_cons]
    refine ih (fun other member => resolved other (List.mem_cons_of_mem _ member)) distinct ?_
    intro other member
    rw [Std.ExtTreeSet.mem_insert, Std.LawfulEqCmp.compare_eq_iff_eq]
    rintro (rfl | inside)
    · exact fresh member
    · exact absent other (List.mem_cons_of_mem _ member) inside

namespace Course

variable {course : Course} {lookup : Lookup} {change : AccessChange}

theorem accepted_arrival {event : Event} {next : Watch} {effects : List Effect}
    (arrival : course.watch.Arrival event next effects)
    (active : course.watch.phase.isFinished = false)
    (fits : (course.advance (next, effects)).rejected = []) :
    (course.advance (next, effects)).accepted = course.accepted ++ [event] := by
  cases arrival with
  | discard finished =>
    rw [active] at finished
    cases finished
  | accept => exact accepted_queued rfl event
  | fail | failAgain =>
    rw [rejected_advance rfl] at fits
    simp [Notice.rejected?] at fits

/-- A change that does no harm to the intake leads what a watch knows and what a consumer makes of
the accepted events to the same set. -/
theorem absorb_make_handle (active : course.watch.phase.isFinished = false)
    (fits : (course.make (.handle lookup change)).rejected = [])
    (named : ∀ object, lookup change.name = .ok object → object.name = change.name) :
    ∃ events, (course.make (.handle lookup change)).accepted = course.accepted ++ events ∧
      course.watch.known.absorbAll? events =
        some (course.make (.handle lookup change)).watch.known := by
  have handling := course.watch.handling_handle lookup change
  simp only [make] at fits ⊢
  generalize course.watch.handle lookup change = result at handling fits ⊢
  obtain ⟨next, effects⟩ := result
  dsimp only at handling
  cases handling with
  | ignore => exact ⟨[], by simp [advance_nil], rfl⟩
  | skip => exact ⟨[], by simp [accepted_advance, Notice.accepted?], rfl⟩
  | revoke revoked known arrival =>
    have accepted := @accepted_arrival
      { course with watch := { course.watch with known := course.watch.known.erase change.name } }
      _ _ _ arrival active fits
    refine ⟨_, accepted, ?_⟩
    simp [NameSet.absorbAll?_cons, NameSet.absorb?, Project.named, known,
      Watch.known_of_arrival arrival]
  | @grant object granted resolved _ effects arrival =>
    let informed : Course := { course with
      watch := { course.watch with known := course.watch.known.insert change.name }
      notices := course.notices ++ [.asked change.name true] }
    have same : informed.advance (next, effects) =
        course.advance (next, .note (.asked change.name true) :: effects) := by
      simp [informed, advance]
    have before : informed.accepted = course.accepted := by
      simp [informed, accepted, Notice.accepted?]
    have accepted := @accepted_arrival informed _ next effects arrival active (by rw [same]; exact fits)
    rw [same, before] at accepted
    refine ⟨_, accepted, ?_⟩
    have name : object.project.name = change.name := named object resolved
    rw [NameSet.absorbAll?_cons, watch_advance, Watch.known_of_arrival arrival]
    split
    · rename_i known
      simp [NameSet.absorb?, name, known]
    · rename_i unknown
      simp [NameSet.absorb?, name, unknown]

/-- Only a change that is handed to a watch makes its intake accept an event. -/
theorem accepted_make {move : Move} (h : ∀ lookup change, move ≠ .handle lookup change)
    (course : Course) : (course.make move).accepted = course.accepted := by
  refine make_eq (·.accepted) ?_ course
  intro before after change
  cases change with
  | aside known begun isDue heedsIntake heedsFault told asides =>
    have none := Notice.filterMap_accepted_of_isAside asides before.watch.id
    simp [accepted, none]
  | arrive kind regular arrival => exact absurd kind (h _ _)
  | relay kind advance => exact accepted_relay advance
  | _ => rfl

end Course
end AccessFeed
