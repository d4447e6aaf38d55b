import AccessFeed.World

/-! What opening a watch gives, if it succeeds. -/
namespace AccessFeed

/-- The projects that a watch starts with are those of the names that resolve, in the order
listed. -/
theorem snapshot_eq (user : String) (listing : List (String × Answer)) :
    (snapshot user listing).1 =
      listing.filterMap fun entry => entry.2.toOption.map Namespace.project := by
  induction listing with
  | nil => rfl
  | cons entry rest ih =>
    obtain ⟨name, answer⟩ := entry
    rw [snapshot, List.filterMap_cons]
    cases answer with
    | ok object => simpa [Except.toOption] using ih
    | error cause => simpa [Except.toOption] using ih

/-- The events that announce the listed namespaces that resolve, in the order listed. -/
def announcements (lookup : Lookup) (names : List String) : List Event :=
  names.filterMap fun name => (lookup name).toOption.map fun object => .added object.project

theorem map_snapshot (lookup : Lookup) (user : String) (names : List String) :
    (snapshot user (lookup.answers names)).1.map Event.added = announcements lookup names := by
  rw [snapshot_eq, Lookup.answers, List.filterMap_map, List.map_filterMap]
  simp only [Function.comp_apply, Option.map_map]
  rfl

/-- The name of a listed namespace that was left out of what a watch starts with. -/
def Notice.leftOut? : Notice → Option String
  | .snapshotSkipped _ name _ => some name
  | _ => none

/-- If nothing was left out, every listed name was resolved. -/
theorem resolved_of_snapshot {user : String} {listing : List (String × Answer)}
    (h : (snapshot user listing).2.filterMap Notice.leftOut? = []) :
    ∀ entry ∈ listing, ∃ object, entry.2 = .ok object := by
  induction listing with
  | nil => simp
  | cons first rest ih =>
    obtain ⟨name, answer⟩ := first
    rw [snapshot] at h
    cases answer with
    | ok object =>
      rw [List.forall_mem_cons]
      exact ⟨⟨object, rfl⟩, ih h⟩
    | error cause => cases h

namespace World

variable {world opened : World} {subscriber : Subscriber} {includeExisting : Option Bool}
  {options : WatchOptions} {id : WatchId} {notices : List Notice}

/-- The projects a new watch starts with, and what is told while they are resolved. -/
def replay (world : World) (subscriber : Subscriber) (includeExisting : Option Bool)
    (options : WatchOptions) (names : List String) : List Project × List Notice :=
  if includeExisting.getD options.includeExisting then
    snapshot subscriber.name (world.lookup.answers names)
  else ([], [])

theorem ofListing_answers (names : List String) :
    Watch.ofListing id subscriber options (includeExisting.getD options.includeExisting)
        (world.lookup.answers names) =
      (.start id subscriber options (.ofNames names)
          (world.replay subscriber includeExisting options names).1,
        (world.replay subscriber includeExisting options names).2 ++
          [.created id subscriber.name (NameSet.ofNames names).size
            (world.replay subscriber includeExisting options names).1.length
            options.bufferSize]) := by
  rw [Watch.ofListing, Lookup.map_fst_answers]
  rfl

/-- The events of the snapshot with which a watch of the listed namespaces starts. -/
def initialEvents (world : World) (includeExisting : Option Bool) (options : WatchOptions)
    (names : List String) : List Event :=
  if includeExisting.getD options.includeExisting then announcements world.lookup names else []

theorem map_replay (names : List String) :
    (world.replay subscriber includeExisting options names).1.map Event.added =
      world.initialEvents includeExisting options names := by
  unfold replay initialEvents
  split
  · exact map_snapshot _ _ _
  · rfl

theorem kind_ne_error_of_mem_initialEvents {names : List String} {event : Event}
    (member : event ∈ world.initialEvents includeExisting options names) :
    event.kind ≠ .error := by
  unfold initialEvents at member
  split at member
  · simp only [announcements, List.mem_filterMap, Option.map_eq_some_iff] at member
    obtain ⟨name, -, object, -, rfl⟩ := member
    simp [Event.kind]
  · cases member

/-- The state right after a watch was opened. -/
def opening (world : World) (subscriber : Subscriber) (includeExisting : Option Bool)
    (options : WatchOptions) (names : List String) : World :=
  { world with
    nextId := world.nextId + 1
    handlers := world.handlers.insert world.nextId
    consumers := world.consumers.insert world.nextId
  }.put world.nextId (.start world.nextId subscriber options (.ofNames names)
    (world.replay subscriber includeExisting options names).1)

/-- A watch is opened exactly if the options are possible, there is a runtime and the visible
namespaces can be listed. -/
theorem openWatch_eq_ok_iff :
    world.openWatch subscriber includeExisting options = (.ok id, opened, notices) ↔
      ∃ names, options.check = .ok () ∧ world.runtimeFault = none ∧
        world.host.list subscriber = .ok names ∧ id = world.nextId ∧
        opened = world.opening subscriber includeExisting options names ∧
        notices = options.warnings ++
          (world.replay subscriber includeExisting options names).2 ++
          [.created world.nextId subscriber.name (NameSet.ofNames names).size
            (world.replay subscriber includeExisting options names).1.length
            options.bufferSize] := by
  simp only [openWatch, ofListing_answers, ← List.append_assoc]
  constructor
  · intro h
    split at h
    · simp at h
    · simp at h
    · simp at h
    · rename_i names hc hr hl
      simp only [Prod.mk.injEq, Except.ok.injEq] at h
      obtain ⟨rfl, rfl, rfl⟩ := h
      exact ⟨names, hc, hr, hl, rfl, rfl, rfl⟩
  · rintro ⟨names, hc, hr, hl, rfl, rfl, rfl⟩
    split
    · rename_i refused
      rw [hc] at refused
      cases refused
    · rename_i missing
      rw [hr] at missing
      cases missing
    · rename_i failed
      rw [hl] at failed
      cases failed
    · rename_i names' _ _ hl'
      rw [hl] at hl'
      cases hl'
      rfl

/-- Opening a watch opens one or leaves everything as it is. -/
theorem openWatch_cases (world : World) (subscriber : Subscriber) (includeExisting : Option Bool)
    (options : WatchOptions) :
    (∃ names notices, world.openWatch subscriber includeExisting options =
      (.ok world.nextId, world.opening subscriber includeExisting options names, notices)) ∨
    ∃ cause notices, world.openWatch subscriber includeExisting options =
      (.error cause, world, notices) := by
  simp only [openWatch, ofListing_answers]
  split
  · exact .inr ⟨_, _, rfl⟩
  · exact .inr ⟨_, _, rfl⟩
  · exact .inr ⟨_, _, rfl⟩
  · exact .inl ⟨_, _, rfl⟩

/-- A watch that was opened got the next number. -/
theorem openWatch_of_opened
    (h : (world.openWatch subscriber includeExisting options).1.toOption = some id) :
    id = world.nextId ∧ ∃ names notices, world.openWatch subscriber includeExisting options =
      (.ok world.nextId, world.opening subscriber includeExisting options names, notices) := by
  obtain ⟨names, notices, opened⟩ | ⟨cause, notices, failed⟩ :=
    world.openWatch_cases subscriber includeExisting options
  · rw [opened] at h
    exact ⟨(Option.some.inj h).symm, names, notices, opened⟩
  · rw [failed] at h
    cases h

theorem watch_opening (names : List String) :
    (world.opening subscriber includeExisting options names).watches[world.nextId]? =
      some (.start world.nextId subscriber options (.ofNames names)
        (world.replay subscriber includeExisting options names).1) := by
  simp [opening, put]

end World
end AccessFeed
