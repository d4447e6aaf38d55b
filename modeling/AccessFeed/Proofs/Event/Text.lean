import AccessFeed.Event
import AccessFeed.Proofs.Json.RoundTrip
import Mathlib.Data.List.Induction

/-! Events are read back from their texts, so a text belongs to one event only.

An absent member is read as empty, which is what its absence stands for. The text of a project shows
its maps in the order of their keys, so it does not show in which order they were written. -/
namespace AccessFeed

/-- The text that a value is, if it is one. -/
def Json.text? : Json → Option String
  | .string text => some text
  | _ => none

namespace NameMap

variable {map : NameMap String}

/-- Reads an entry of a map of texts. -/
def entry? (member : String × Json) : Option (String × String) :=
  member.2.text?.map (member.1, ·)

/-- Reads a map of texts. -/
def ofJson? : Json → Option (NameMap String)
  | .object members =>
    (members.mapM entry?).map fun entries => Std.ExtTreeMap.ofList entries compare
  | _ => none

/-- Reads a map of texts that may be absent. -/
def ofMember? : Option Json → Option (NameMap String)
  | none => some ∅
  | some value => ofJson? value

theorem ofList_toList (map : NameMap String) : Std.ExtTreeMap.ofList map.toList compare = map := by
  apply Std.ExtTreeMap.ext_getElem?
  intro key
  cases held : map[key]? with
  | none =>
    refine Std.ExtTreeMap.getElem?_ofList_of_contains_eq_false ?_
    rw [← Bool.not_eq_true, List.contains_iff_mem, List.mem_map]
    rintro ⟨⟨other, value⟩, member, rfl⟩
    rw [Std.ExtTreeMap.mem_toList_iff_getElem?_eq_some, held] at member
    cases member
  | some value =>
    exact Std.ExtTreeMap.getElem?_ofList_of_mem Std.ReflCmp.compare_self
      map.distinct_keys_toList (Std.ExtTreeMap.mem_toList_iff_getElem?_eq_some.mpr held)

theorem mapM_entry (entries : List (String × String)) :
    (entries.map fun (key, value) => (key, Json.string value)).mapM entry? = some entries := by
  induction entries with
  | nil => rfl
  | cons entry rest ih =>
    rw [List.map_cons, List.mapM_cons, ih]
    rfl

theorem ofJson?_json (map : NameMap String) : ofJson? map.json = some map := by
  rw [json, ofJson?, mapM_entry, Option.map_some, ofList_toList]

theorem ofMember?_member (map : NameMap String) : ofMember? map.member = some map := by
  unfold member
  split
  · rename_i empty
    rw [Std.ExtTreeMap.isEmpty_iff.mp empty]
    rfl
  · exact ofJson?_json map

end NameMap

namespace Project

/-- Reads a project. -/
def ofJson? (value : Json) : Option Project := do
  let name ← (← value.get? "name").text?
  let labels ← NameMap.ofMember? (value.get? "labels")
  let annotations ← NameMap.ofMember? (value.get? "annotations")
  let phase ← (value.get? "phase").elim (some "") Json.text?
  return ⟨name, labels, annotations, phase⟩

theorem ofJson?_json (project : Project) : ofJson? project.json = some project := by
  have members (name : Json) (labels annotations phase : Option Json) :
      let value := Json.objectOf [("name", some name), ("labels", labels),
        ("annotations", annotations), ("phase", phase)]
      value.get? "name" = some name ∧ value.get? "labels" = labels ∧
        value.get? "annotations" = annotations ∧ value.get? "phase" = phase := by
    cases labels <;> cases annotations <;> cases phase <;> exact ⟨rfl, rfl, rfl, rfl⟩
  obtain ⟨name, labels, annotations, phase⟩ := project
  obtain ⟨named, labelled, annotated, phased⟩ := members (.string name) labels.member
    annotations.member (if phase.isEmpty then none else some (.string phase))
  have read : (if phase.isEmpty then none else some (Json.string phase)).elim (some "")
      Json.text? = some phase := by
    split
    · rename_i empty
      rw [String.isEmpty_iff.mp empty]
      rfl
    · rfl
  rw [ofJson?, json]
  simp only [named, labelled, annotated, phased, read, NameMap.ofMember?_member,
    Option.bind_eq_bind, Option.bind_some, Json.text?]
  rfl

end Project

namespace Status

/-- Reads the payload of an error. -/
def ofJson? (value : Json) : Option Status := do
  let label ← (← value.get? "status").text?
  let message ← (← value.get? "message").text?
  if label = StatusKind.success.label then some ⟨.success, message⟩
  else if label = StatusKind.failure.label then some ⟨.failure, message⟩
  else none

theorem ofJson?_json (status : Status) : ofJson? status.json = some status := by
  obtain ⟨_ | _, message⟩ := status <;> rfl

end Status

namespace Event

/-- Reads an event. -/
def ofJson? (value : Json) : Option Event := do
  let tag ← (← value.get? "type").text?
  let payload ← value.get? "object"
  if tag = EventKind.added.tag then (Project.ofJson? payload).map .added
  else if tag = EventKind.modified.tag then (Project.ofJson? payload).map .modified
  else if tag = EventKind.deleted.tag then (Project.ofJson? payload).map .deleted
  else if tag = EventKind.error.tag then (Status.ofJson? payload).map .error
  else none

/-- Reads an event from its text. -/
def ofText? (text : String) : Option Event := (Json.parse? text).bind ofJson?

theorem ofJson?_json (event : Event) : ofJson? event.json = some event := by
  cases event with
  | added project => exact congrArg (Option.map added) project.ofJson?_json
  | modified project => exact congrArg (Option.map modified) project.ofJson?_json
  | deleted project => exact congrArg (Option.map deleted) project.ofJson?_json
  | error status => exact congrArg (Option.map error) status.ofJson?_json

theorem ofText?_compact (event : Event) : ofText? event.json.compact = some event := by
  rw [ofText?, Json.parse?_compact, Option.bind_some, ofJson?_json]

end Event

/-- Writes a label or an annotation. -/
inductive Marking where
  | labelled (key value : String)
  | annotated (key value : String)

namespace Marking

def labelled? : Marking → Option (String × String)
  | .labelled key value => some (key, value)
  | _ => none

def annotated? : Marking → Option (String × String)
  | .annotated key value => some (key, value)
  | _ => none

end Marking

/-- The value that was last written for a key. -/
def lastWritten (writes : List (String × String)) (key : String) : Option String :=
  (writes.reverse.find? (·.1 == key)).map (·.2)

namespace Namespace

variable {name phase name' phase' : String} {markings markings' : List Marking}

def mark (object : Namespace) : Marking → Namespace
  | .labelled key value => object.label key value
  | .annotated key value => object.annotate key value

/-- A namespace that was marked step by step. -/
def marked (name phase : String) (markings : List Marking) : Namespace :=
  { markings.foldl mark (active name) with phase }

/-- The maps of a marked namespace hold what was last written for each key. -/
theorem maps_marked (name : String) (markings : List Marking) :
    let object := markings.foldl mark (active name)
    object.name = name ∧
      (∀ key, object.labels[key]? = lastWritten (markings.filterMap Marking.labelled?) key) ∧
      ∀ key, object.annotations[key]? =
        lastWritten (markings.filterMap Marking.annotated?) key := by
  have write (writes : List (String × String)) (key other value : String) :
      lastWritten (writes ++ [(other, value)]) key =
        if other = key then some value else lastWritten writes key := by
    by_cases same : other = key <;> simp [lastWritten, same]
  induction markings using List.reverseRecOn with
  | nil => simp [active, lastWritten]
  | append_singleton markings marking ih =>
    obtain ⟨named, labels, annotations⟩ := ih
    rw [List.foldl_append, List.foldl_cons, List.foldl_nil, List.filterMap_append,
      List.filterMap_append]
    cases marking with
    | labelled other value =>
      refine ⟨named, fun key => ?_, fun key => ?_⟩
      · have last : [Marking.labelled other value].filterMap Marking.labelled? = [(other, value)] := rfl
        rw [last, write, ← labels key, mark, label, Std.ExtTreeMap.getElem?_insert]
        simp
      · have none : [Marking.labelled other value].filterMap Marking.annotated? = [] := rfl
        rw [none, List.append_nil]
        exact annotations key
    | annotated other value =>
      refine ⟨named, fun key => ?_, fun key => ?_⟩
      · have none : [Marking.annotated other value].filterMap Marking.labelled? = [] := rfl
        rw [none, List.append_nil]
        exact labels key
      · have last : [Marking.annotated other value].filterMap Marking.annotated? =
            [(other, value)] := rfl
        rw [last, write, ← annotations key, mark, annotate, Std.ExtTreeMap.getElem?_insert]
        simp

/-- Projects of marked namespaces are the same if the same was written last, in whatever order. -/
theorem project_marked_eq_iff :
    (marked name phase markings).project = (marked name' phase' markings').project ↔
      (name = name' ∧ phase = phase') ∧
        (∀ key, lastWritten (markings.filterMap Marking.labelled?) key =
          lastWritten (markings'.filterMap Marking.labelled?) key) ∧
        ∀ key, lastWritten (markings.filterMap Marking.annotated?) key =
          lastWritten (markings'.filterMap Marking.annotated?) key := by
  obtain ⟨named, labels, annotations⟩ := maps_marked name markings
  obtain ⟨named', labels', annotations'⟩ := maps_marked name' markings'
  simp only [← labels, ← labels', ← annotations, ← annotations', project, marked,
    Project.mk.injEq, named, named']
  constructor
  · rintro ⟨names, labels, annotations, phases⟩
    exact ⟨⟨names, phases⟩, fun key => by rw [labels], fun key => by rw [annotations]⟩
  · rintro ⟨⟨names, phases⟩, labels, annotations⟩
    exact ⟨names, Std.ExtTreeMap.ext_getElem? labels, Std.ExtTreeMap.ext_getElem? annotations,
      phases⟩

end Namespace

namespace Event

/-- The text of an event is JSON with its kind and what it carries and nothing else, and the event
is read back from it. So two events have the same text only if they are the same. The texts of two
projects are the same exactly if their namespaces have the same name and phase and the same values
were last written for their labels and annotations. -/
theorem text_canonical :
    (∀ event : Event,
      Json.parse? event.json.compact =
          some (.object [("type", .string event.kind.tag), ("object", event.payload)]) ∧
        ofText? event.json.compact = some event) ∧
    (∀ event event' : Event, event.json.compact = event'.json.compact ↔ event = event') ∧
    ∀ name name' phase phase' markings markings',
      (Namespace.marked name phase markings).project.json.compact =
          (Namespace.marked name' phase' markings').project.json.compact ↔
        (name = name' ∧ phase = phase') ∧
          (∀ key, lastWritten (markings.filterMap Marking.labelled?) key =
            lastWritten (markings'.filterMap Marking.labelled?) key) ∧
          ∀ key, lastWritten (markings.filterMap Marking.annotated?) key =
            lastWritten (markings'.filterMap Marking.annotated?) key := by
  refine ⟨fun event => ⟨Json.parse?_compact _, event.ofText?_compact⟩, fun event event' => ?_, ?_⟩
  · refine ⟨fun same => ?_, fun same => by rw [same]⟩
    have read := congrArg ofText? same
    rw [ofText?_compact, ofText?_compact] at read
    exact Option.some.inj read
  · intro name name' phase phase' markings markings'
    rw [← Namespace.project_marked_eq_iff]
    refine ⟨fun same => ?_, fun same => by rw [same]⟩
    have read := congrArg (fun text => (Json.parse? text).bind Project.ofJson?) same
    simp only [Json.parse?_compact, Option.bind_some, Project.ofJson?_json] at read
    exact Option.some.inj read

end Event
end AccessFeed
