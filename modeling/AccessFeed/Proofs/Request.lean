import AccessFeed.Monitor
import AccessFeed.Proofs.Built
import AccessFeed.Proofs.Edit

/-! Requests for watches. What keeps a request from being met is found in a fixed order, and a
request that is not met leaves nothing behind, so those that are met are numbered without gaps. -/
namespace AccessFeed

namespace WatchOptions

/-- A channel can have this many slots. -/
def IsChannelSize (size : UInt64) : Prop := 0 < size.toNat ∧ size.toNat ≤ channelLimit

instance (size : UInt64) : Decidable (IsChannelSize size) := inferInstanceAs (Decidable (_ ∧ _))

/-- Both channels can have as many slots as they shall have. -/
def Possible (options : WatchOptions) : Prop :=
  IsChannelSize options.bufferSize ∧ IsChannelSize options.outputBufferSize

instance (options : WatchOptions) : Decidable options.Possible :=
  inferInstanceAs (Decidable (_ ∧ _))

/-- What is wrong with a number of slots that no channel can have. -/
def refusal (key : String) (size : UInt64) : SettingsError :=
  if size = 0 then .emptyChannel key else .oversizedChannel key size

theorem checkChannel_eq (key : String) (size : UInt64) :
    checkChannel key size =
      if IsChannelSize size then .ok () else .error (refusal key size) := by
  split
  · rename_i fits
    exact checkChannel_eq_ok_iff.mpr fits
  · rename_i unfit
    unfold checkChannel refusal
    by_cases empty : size = 0
    · simp [empty]
    · have positive : size.toNat ≠ 0 := fun none => empty (UInt64.toNat_inj.mp none)
      have excess : channelLimit < size.toNat :=
        Nat.lt_of_not_le fun within => unfit ⟨Nat.pos_of_ne_zero positive, within⟩
      simp [empty, excess]

/-- The intake is checked before the outbox. -/
theorem check_eq (options : WatchOptions) :
    options.check =
      if IsChannelSize options.bufferSize then
        if IsChannelSize options.outputBufferSize then .ok ()
        else .error (refusal "watch.output_buffer_size" options.outputBufferSize)
      else .error (refusal "watch.buffer_size" options.bufferSize) := by
  rw [check, checkChannel_eq, checkChannel_eq]
  split <;> rfl

theorem check_of_possible {options : WatchOptions} (h : options.Possible) :
    options.check = .ok () := by
  rw [check_eq, if_pos h.1, if_pos h.2]

theorem warnings_eq (options : WatchOptions) :
    options.warnings =
      if options.Possible ∧ largeBuffer < options.bufferSize.toNat then
        [.largeBuffer options.bufferSize]
      else [] := by
  by_cases possible : options.Possible
  · simp [warnings, check_of_possible possible, possible, isLarge]
  · have refused : options.check ≠ .ok () := fun checked => possible (check_eq_ok_iff.mp checked)
    unfold warnings
    cases check : options.check with
    | ok => exact absurd check refused
    | error cause => simp [possible]

end WatchOptions

/-- A request for a watch. -/
structure Request where
  subscriber : Subscriber
  includeExisting : Option Bool
  options : WatchOptions
  /-- The watch is to be registered with the catalog. -/
  registers : Bool

/-- The action of a request. -/
def Request.action (request : Request) : Action :=
  if request.registers then
    .subscribe request.subscriber request.includeExisting request.options
  else .openWatch request.subscriber request.includeExisting request.options

namespace World

variable {world : World} {request : Request} {cause : Failure} {id : WatchId}

/-- Meets a request, if that is possible. -/
def build (world : World) (request : Request) : Except Failure WatchId × World × List Notice :=
  if request.registers then
    world.subscribe request.subscriber request.includeExisting request.options
  else world.openWatch request.subscriber request.includeExisting request.options

theorem enact_action (world : World) (request : Request) :
    world.enact request.action = (world.build request).2 := by
  unfold Request.action build
  split <;> rfl

theorem opened?_action (world : World) (request : Request) :
    world.opened? request.action = (world.build request).1.toOption := by
  unfold Request.action build
  split <;> rfl

/-- That a watch is to be registered makes no difference to whether it can be had. -/
theorem result_build (world : World) (request : Request) :
    (world.build request).1 =
      (world.openWatch request.subscriber request.includeExisting request.options).1 := by
  unfold build
  split
  · exact result_subscribe ..
  · rfl

/-- What keeps a request from being met, in the order in which it is looked for. -/
def obstacle? (world : World) (request : Request) : Option Failure :=
  if ¬ WatchOptions.IsChannelSize request.options.bufferSize then
    some (.settings (WatchOptions.refusal "watch.buffer_size" request.options.bufferSize))
  else if ¬ WatchOptions.IsChannelSize request.options.outputBufferSize then
    some (.settings
      (WatchOptions.refusal "watch.output_buffer_size" request.options.outputBufferSize))
  else
    match world.runtimeFault, world.host.list request.subscriber with
    | some reason, _ => some (.watch (.runtimeUnavailable reason))
    | none, .error cause => some cause
    | none, .ok _ => none

/-- A request is met unless there is an obstacle, and the first obstacle is the answer. -/
theorem answer_build (world : World) (request : Request) :
    (world.build request).1 =
      match world.obstacle? request with
      | some cause => .error cause
      | none => .ok world.nextId := by
  rw [result_build, openWatch, obstacle?, WatchOptions.check_eq]
  by_cases intake : WatchOptions.IsChannelSize request.options.bufferSize
  · by_cases outbox : WatchOptions.IsChannelSize request.options.outputBufferSize
    · simp only [intake, outbox, not_true_eq_false, if_true, if_false]
      cases world.runtimeFault with
      | some reason => rfl
      | none => cases world.host.list request.subscriber <;> rfl
    · simp [intake, outbox]
  · simp [intake]

theorem openWatch_of_failed {subscriber : Subscriber} {includeExisting : Option Bool}
    {options : WatchOptions}
    (h : (world.openWatch subscriber includeExisting options).1 = .error cause) :
    (world.openWatch subscriber includeExisting options).2 = (world, options.warnings) := by
  unfold openWatch at h ⊢
  split
  · rename_i refused
    rw [WatchOptions.warnings, refused]
  · rfl
  · rfl
  · rename_i names checked running listed
    rw [checked, running, listed] at h
    cases h

/-- A request that is not met changes nothing, and tells at most that the intake would be large. -/
theorem build_of_failed (h : (world.build request).1 = .error cause) :
    (world.build request).2 = (world, request.options.warnings) := by
  have failed := h
  rw [result_build] at failed
  have kept := openWatch_of_failed failed
  have opened : world.openWatch request.subscriber request.includeExisting request.options =
      (.error cause, world, request.options.warnings) := Prod.ext failed kept
  unfold build
  split
  · rw [subscribe, opened]
  · exact kept

/-- A request that is met gives a watch of the subscriber that knows what was listed and has
channels of the requested sizes. -/
theorem exists_watch_of_built (h : (world.build request).1 = .ok id) :
    ∃ names, world.host.list request.subscriber = .ok names ∧
      ∃ watch, (world.build request).2.1.watches[id]? = some watch ∧
        (watch.intakeLimit = request.options.bufferSize.toNat ∧
          watch.outboxLimit = request.options.outputBufferSize.toNat) ∧
        watch.known = .ofNames names ∧
        watch.phase = .replaying (world.replay request.subscriber request.includeExisting
          request.options names).1 := by
  have opened : world.opened? request.action = some id := by
    rw [opened?_action, h]
    rfl
  obtain ⟨subscriber, includeExisting, options, names, opens, listed, watch, found, same⟩ :=
    exists_listed_of_opened opened
  obtain ⟨rfl, rfl, rfl⟩ : request.subscriber = subscriber ∧
      request.includeExisting = includeExisting ∧ request.options = options := by
    unfold Request.action at opens
    split at opens <;> simpa using opens
  rw [enact_action] at found
  refine ⟨names, listed, watch, found, ?_⟩
  obtain rfl | rfl := same <;> exact ⟨⟨rfl, rfl⟩, rfl, rfl⟩

theorem obstacle?_eq_none_iff :
    world.obstacle? request = none ↔
      request.options.Possible ∧ world.runtimeFault = none ∧
        ∃ names, world.host.list request.subscriber = .ok names := by
  unfold obstacle? WatchOptions.Possible
  by_cases intake : WatchOptions.IsChannelSize request.options.bufferSize
  · by_cases outbox : WatchOptions.IsChannelSize request.options.outputBufferSize
    · simp only [intake, outbox, not_true_eq_false, if_false, true_and]
      cases world.runtimeFault with
      | some reason => simp
      | none => cases world.host.list request.subscriber <;> simp
    · simp [intake, outbox]
  · simp [intake]

/-- A request is met exactly if the options are possible, relays can be run and the listing is
answered. -/
theorem build_eq_ok_iff :
    (world.build request).1 = .ok id ↔
      id = world.nextId ∧ request.options.Possible ∧ world.runtimeFault = none ∧
        ∃ names, world.host.list request.subscriber = .ok names := by
  rw [answer_build, ← obstacle?_eq_none_iff]
  cases world.obstacle? request with
  | some cause => simp
  | none => simp [eq_comm]

/-- What a monitor makes of the warnings about options is at most one record. -/
theorem observeAll_warnings (monitor : Monitor) (options : WatchOptions) :
    monitor.observeAll options.warnings =
      { monitor with
        journal := monitor.journal ++
          if options.Possible ∧ WatchOptions.largeBuffer < options.bufferSize.toNat then
            (Notice.largeBuffer options.bufferSize).record?.toList
          else [] } := by
  rw [WatchOptions.warnings_eq]
  split
  · rfl
  · simp [Monitor.observeAll]

end World

/-- Something that happens to a state between requests and at them. -/
inductive Occurrence where
  | request (request : Request)
  /-- A party does something other than requesting a watch. -/
  | action (action : Action) (other : ∀ request : Request, action ≠ request.action)
  /-- From here on requests concern another catalog and directory, and relays can be run or not. -/
  | resettle (host : Host) (directory : Directory) (outages : NameMap String)
      (runtimeFault : Option String)

namespace World

variable {world : World} {request : Request} {id : WatchId}

/-- The answers to the requests, in order. -/
def answers (world : World) : List Occurrence → List (Except Failure WatchId)
  | [] => []
  | .request request :: rest => (world.build request).1 :: (world.build request).2.1.answers rest
  | .action action _ :: rest => (world.enact action).1.answers rest
  | .resettle host directory outages runtimeFault :: rest =>
    { world with host, directory, outages, runtimeFault }.answers rest

theorem opened?_of_other {action : Action} (h : ∀ request : Request, action ≠ request.action) :
    world.opened? action = none := by
  cases action with
  | openWatch subscriber includeExisting options =>
    exact absurd rfl (h ⟨subscriber, includeExisting, options, false⟩)
  | subscribe subscriber includeExisting options =>
    exact absurd rfl (h ⟨subscriber, includeExisting, options, true⟩)
  | _ => rfl

/-- A request that is met takes the next number, and leaves the one after it. -/
theorem nextId_build_of_met (h : (world.build request).1 = .ok id) :
    id = world.nextId ∧ (world.build request).2.1.nextId = world.nextId + 1 := by
  have opened : world.opened? request.action = some id := by
    rw [opened?_action, h]
    rfl
  refine ⟨eq_nextId_of_opened? opened, ?_⟩
  rw [← enact_action]
  exact nextId_enact_of_some opened

/-- The numbers given are those from the next one on, without gap or repetition. -/
theorem ids_answers (world : World) (occurrences : List Occurrence) :
    (world.answers occurrences).filterMap Except.toOption =
      List.range' world.nextId
        ((world.answers occurrences).filterMap Except.toOption).length := by
  induction occurrences generalizing world with
  | nil => rfl
  | cons occurrence rest ih =>
    cases occurrence with
    | request request =>
      cases answer : (world.build request).1 with
      | ok id =>
        have later := ih (world.build request).2.1
        obtain ⟨rfl, next⟩ := nextId_build_of_met answer
        rw [next] at later
        simp only [answers, answer, List.filterMap_cons, Except.toOption, List.length_cons,
          List.range'_succ]
        exact congrArg _ later
      | error cause =>
        -- The rest is asked of the state that the failed request was asked of.
        simp only [answers, answer, build_of_failed answer, List.filterMap_cons, Except.toOption]
        exact ih world
    | action action other =>
      have later := ih (world.enact action).1
      rw [nextId_enact_of_none (opened?_of_other other)] at later
      exact later
    | resettle host directory outages runtimeFault => exact ih _

/-- Whether a request is met, and what a failure is, is decided by its options, then by whether
relays can be run, then by the listing. A failure leaves the state as it was, and a monitor records
at most that the intake would have been large; a success has two channels of possible sizes. So
however many requests fail among the others, those that are met are numbered from one on without a
gap. -/
theorem failure_traceless :
    (∀ (world : World) (request : Request),
      ((world.build request).1 =
        match world.obstacle? request with
        | some cause => .error cause
        | none => .ok world.nextId) ∧
      (∀ id, (world.build request).1 = .ok id ↔
        id = world.nextId ∧ request.options.Possible ∧ world.runtimeFault = none ∧
          ∃ names, world.host.list request.subscriber = .ok names) ∧
      (∀ cause, (world.build request).1 = .error cause →
        (world.build request).2.1 = world ∧
        ∀ monitor : Monitor, monitor.observeAll (world.build request).2.2 =
          { monitor with
            journal := monitor.journal ++
              if request.options.Possible ∧
                  WatchOptions.largeBuffer < request.options.bufferSize.toNat then
                (Notice.largeBuffer request.options.bufferSize).record?.toList
              else [] }) ∧
      ∀ id, (world.build request).1 = .ok id →
        ∃ watch, (world.build request).2.1.watches[id]? = some watch ∧
          watch.intakeLimit = request.options.bufferSize.toNat ∧
          watch.outboxLimit = request.options.outputBufferSize.toNat ∧
          (0 < watch.intakeLimit ∧ watch.intakeLimit ≤ channelLimit) ∧
          0 < watch.outboxLimit ∧ watch.outboxLimit ≤ channelLimit) ∧
    ∀ (world : World) (occurrences : List Occurrence), world.nextId = 1 →
      (world.answers occurrences).filterMap Except.toOption =
        List.range' 1 ((world.answers occurrences).filterMap Except.toOption).length ∧
      ((world.answers occurrences).length < UInt64.size →
        ∀ id ∈ (world.answers occurrences).filterMap Except.toOption, id < UInt64.size) := by
  refine ⟨fun world request => ⟨answer_build world request, fun id => build_eq_ok_iff, ?_, ?_⟩, ?_⟩
  · intro cause failed
    rw [build_of_failed failed]
    exact ⟨rfl, fun monitor => observeAll_warnings monitor request.options⟩
  · intro id met
    obtain ⟨-, -, watch, found, ⟨intake, outbox⟩, -⟩ := exists_watch_of_built met
    obtain ⟨-, possible, -⟩ := build_eq_ok_iff.mp met
    exact ⟨watch, found, intake, outbox, intake ▸ possible.1, outbox ▸ possible.2⟩
  · intro world occurrences first
    have dense := ids_answers world occurrences
    rw [first] at dense
    refine ⟨dense, fun few id given => ?_⟩
    have fewer : ((world.answers occurrences).filterMap Except.toOption).length ≤
        (world.answers occurrences).length := List.length_filterMap_le ..
    rw [dense, List.mem_range'_1] at given
    calc id < 1 + ((world.answers occurrences).filterMap Except.toOption).length := given.2
      _ ≤ 1 + (world.answers occurrences).length := Nat.add_le_add_left fewer 1
      _ ≤ UInt64.size := Nat.add_comm 1 _ ▸ few

/-- One request fails for each reason, and each time a request that can be met comes after it. -/
theorem failure_traceless_interleaved :
    let ask (bufferSize : UInt64) : Request := ⟨⟨"u", []⟩, none, ⟨bufferSize, 1, false⟩, false⟩
    let place (host : Host) (runtimeFault : Option String) : Occurrence :=
      .resettle host .empty ∅ runtimeFault
    let unanswered : Host := .double ⟨.error (.watch (.listFailed "u" "boom")), [], []⟩
    let stranded : World := { fresh .gone with runtimeFault := some noRuntime }
    let occurrences := [.request (ask 4), .request (ask 0), .request (ask 4),
      place .gone (some noRuntime), .request (ask 4), place unanswered none, .request (ask 4),
      place .gone none, .request (ask 4)]
    let answers := (fresh (.real .empty)).answers occurrences
    (answers = [.ok 1, .error (.settings (.emptyChannel "watch.buffer_size")), .ok 2,
        .error (.watch (.runtimeUnavailable noRuntime)),
        .error (.watch (.listFailed "u" "boom")), .ok 3] ∧
      answers.filterMap Except.toOption = List.range' 1 3) ∧
    (stranded.build (ask 200000)).2.1 = stranded ∧
    (Monitor.fresh.observeAll (stranded.build (ask 200000)).2.2).metrics = .fresh ∧
    ∃ watch, ((fresh .gone).build (ask 4)).2.1.watches[1]? = some watch ∧
      watch.intakeLimit = 4 ∧ watch.outboxLimit = 1 := by
  intro ask place unanswered stranded occurrences answers
  have given : answers = [.ok 1, .error (.settings (.emptyChannel "watch.buffer_size")), .ok 2,
      .error (.watch (.runtimeUnavailable noRuntime)),
      .error (.watch (.listFailed "u" "boom")), .ok 3] := by rfl
  have dense := (failure_traceless.2 (fresh (.real .empty)) occurrences rfl).1
  have refused : (stranded.build (ask 200000)).1 =
      .error (.watch (.runtimeUnavailable noRuntime)) := by rfl
  obtain ⟨kept, told⟩ := (failure_traceless.1 stranded (ask 200000)).2.2.1 _ refused
  have met : ((fresh .gone).build (ask 4)).1 = .ok 1 := by rfl
  obtain ⟨watch, found, intake, outbox, -⟩ :=
    (failure_traceless.1 (fresh .gone) (ask 4)).2.2.2 1 met
  exact ⟨⟨given, dense⟩, kept, congrArg Monitor.metrics (told .fresh), watch, found, intake, outbox⟩

end World
end AccessFeed
