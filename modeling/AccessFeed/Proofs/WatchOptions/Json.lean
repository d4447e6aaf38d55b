import AccessFeed.Proofs.Json.RoundTrip
import AccessFeed.WatchOptions.Json

/-! The shapes in which options are read from JSON. What is written is read back, members may come
in any order, among unknown ones and not all of them, and a list is read like the object that gives
its items the names of the fields. -/
namespace AccessFeed

namespace Json

variable {members listed unknown : List (String × Json)} {name : String}

/-- Only the members of a name tell what is found under it. -/
theorem get?_object (members : List (String × Json)) (name : String) :
    (object members).get? name = ((members.filter (·.1 == name)).getLast?).map (·.2) := by
  rw [get?, ← List.head?_filter, List.filter_reverse, List.head?_reverse]

/-- A member that is listed once is found in any order and among members of other names. -/
theorem get?_of_perm (perm : members.Perm (listed ++ unknown))
    (aside : ∀ member ∈ unknown, member.1 ≠ name)
    (once : (listed.filter (·.1 == name)).length ≤ 1) :
    (object members).get? name = (object listed).get? name := by
  have none : unknown.filter (·.1 == name) = [] := by
    simpa [List.filter_eq_nil_iff] using aside
  have kept := perm.filter (·.1 == name)
  rw [List.filter_append, none, List.append_nil] at kept
  have same : members.filter (·.1 == name) = listed.filter (·.1 == name) := by
    generalize listed.filter (·.1 == name) = found at kept once
    match found, once with
    | [], _ => exact List.perm_nil.mp kept
    | [_], _ => exact List.perm_singleton.mp kept
  rw [get?_object, get?_object, same]

theorem decodeSize_natural (size : UInt64) : decodeSize (.natural size.toNat) = .ok size := by
  have below : size.toNat < 2 ^ 64 := size.toNat_lt
  have wide : isWide size.toNat = true := by
    have low : Int.pow 2 63 = 2 ^ 63 := rfl
    have high : Int.pow 2 64 = 2 ^ 64 := rfl
    simp only [isWide, low, high, Bool.and_eq_true, decide_eq_true_eq]
    omega
  have signless : ¬(size.toNat : Int) < 0 := by omega
  simp [decodeSize, natural, wide, signless]

/-- What may be stated as a member is read back, or it has its standard value. -/
theorem decodeOr_map {α : Type} {decode : Json → Except DecodeError α} {encode : α → Json}
    (reads : ∀ value, decode (encode value) = .ok value) (standard : α) (stated : Option α) :
    decodeOr decode standard (stated.map encode) = .ok (stated.getD standard) := by
  cases stated with
  | none => rfl
  | some value => exact reads value

end Json

namespace WatchOptions

/-- Options of which some are stated. -/
structure Stated where
  bufferSize : Option UInt64
  outputBufferSize : Option UInt64
  includeExisting : Option Bool

namespace Stated

/-- The options where those that are not stated have their standard values. -/
def complete (stated : Stated) : WatchOptions :=
  ⟨stated.bufferSize.getD standard.bufferSize,
    stated.outputBufferSize.getD standard.outputBufferSize,
    stated.includeExisting.getD standard.includeExisting⟩

/-- The members that state them. -/
def members (stated : Stated) : List (String × Json) :=
  (stated.bufferSize.map fun size => ("buffer_size", .natural size.toNat)).toList ++
    (stated.outputBufferSize.map fun size => ("output_buffer_size", .natural size.toNat)).toList ++
      (stated.includeExisting.map fun flag => ("include_existing", .bool flag)).toList

/-- All options are stated. -/
def all (options : WatchOptions) : Stated :=
  ⟨some options.bufferSize, some options.outputBufferSize, some options.includeExisting⟩

theorem object_members_all (options : WatchOptions) :
    .object (all options).members = options.json := rfl

theorem once_members (stated : Stated) (name : String) (known : name ∈ fieldNames) :
    (stated.members.filter (·.1 == name)).length ≤ 1 := by
  obtain ⟨bufferSize, outputBufferSize, includeExisting⟩ := stated
  simp only [fieldNames, List.mem_cons, List.not_mem_nil, or_false] at known
  obtain rfl | rfl | rfl := known <;>
    cases bufferSize <;> cases outputBufferSize <;> cases includeExisting <;> simp [members]

theorem get?_members (stated : Stated) :
    let value := Json.object stated.members
    value.get? "buffer_size" = stated.bufferSize.map (.natural ·.toNat) ∧
      value.get? "output_buffer_size" = stated.outputBufferSize.map (.natural ·.toNat) ∧
      value.get? "include_existing" = stated.includeExisting.map .bool := by
  obtain ⟨bufferSize, outputBufferSize, includeExisting⟩ := stated
  cases bufferSize <;> cases outputBufferSize <;> cases includeExisting <;> exact ⟨rfl, rfl, rfl⟩

end Stated

open Json (decodeOr decodeSize decodeBool)

variable {options : WatchOptions} {items : List Json}

/-- An object gives options if each field can be read, in whatever order that is done. -/
theorem ofJson_object_eq_ok_iff {members : List (String × Json)} :
    ofJson (.object members) = .ok options ↔
      decodeOr decodeSize standard.bufferSize ((Json.object members).get? "buffer_size") =
          .ok options.bufferSize ∧
        decodeOr decodeSize standard.outputBufferSize
            ((Json.object members).get? "output_buffer_size") = .ok options.outputBufferSize ∧
        decodeOr decodeBool standard.includeExisting
            ((Json.object members).get? "include_existing") = .ok options.includeExisting := by
  obtain ⟨size, output, existing⟩ := options
  simp only [ofJson, ofMembers]
  generalize decodeOr decodeSize _ (Json.get? "buffer_size" _) = first
  generalize decodeOr decodeSize _ (Json.get? "output_buffer_size" _) = second
  generalize decodeOr decodeBool _ (Json.get? "include_existing" _) = third
  cases first <;> cases second <;> cases third <;> simp [bind, Except.bind, pure, Except.pure]

/-- A list gives options if it is short enough and each of its items can be read. -/
theorem ofJson_array_eq_ok_iff :
    ofJson (.array items) = .ok options ↔
      (decodeOr decodeSize standard.bufferSize items[0]? = .ok options.bufferSize ∧
        decodeOr decodeSize standard.outputBufferSize items[1]? = .ok options.outputBufferSize ∧
        decodeOr decodeBool standard.includeExisting items[2]? = .ok options.includeExisting) ∧
      items.length ≤ 3 := by
  obtain ⟨size, output, existing⟩ := options
  simp only [ofJson, ofItems]
  generalize decodeOr decodeSize _ items[0]? = first
  generalize decodeOr decodeSize _ items[1]? = second
  generalize decodeOr decodeBool _ items[2]? = third
  by_cases short : items.length ≤ 3
  · have within : ¬3 < items.length := by omega
    cases first <;> cases second <;> cases third <;>
      simp [bind, Except.bind, short, within]
  · have beyond : 3 < items.length := by omega
    cases first <;> cases second <;> cases third <;>
      simp [bind, Except.bind, short, beyond]

/-- Stated members are read in any order and among unknown ones, the others have their standard
values. -/
theorem ofJson_of_perm {stated : Stated} {members unknown : List (String × Json)}
    (aside : ∀ member ∈ unknown, member.1 ∉ fieldNames)
    (perm : members.Perm (stated.members ++ unknown)) :
    ofJson (.object members) = .ok stated.complete := by
  have found {name : String} (known : name ∈ fieldNames) :
      (Json.object members).get? name = (Json.object stated.members).get? name :=
    Json.get?_of_perm perm (fun member present same => aside member present (same ▸ known))
      (stated.once_members name known)
  obtain ⟨size, output, existing⟩ := stated.get?_members
  rw [ofJson_object_eq_ok_iff, found (by decide), found (by decide), found (by decide), size,
    output, existing]
  refine ⟨?_, ?_, ?_⟩
  · exact Json.decodeOr_map Json.decodeSize_natural _ _
  · exact Json.decodeOr_map Json.decodeSize_natural _ _
  · exact @Json.decodeOr_map _ decodeBool .bool (fun _ => rfl) _ _

/-- The items of a short list are read like the members that they are in an object. -/
theorem ofJson_zip_eq_ok_iff (short : items.length ≤ 3) :
    ofJson (.array items) = .ok options ↔
      ofJson (.object (fieldNames.zip items)) = .ok options := by
  rw [ofJson_array_eq_ok_iff, ofJson_object_eq_ok_iff]
  match items, short with
  | [], _ | [_], _ | [_, _], _ | [_, _, _], _ => simp [fieldNames, Json.get?]

theorem ofSettingsJson_of_perm {value : Json} {others settings : List (String × Json)}
    (aside : ∀ member ∈ others, member.1 ≠ "watch")
    (perm : settings.Perm (("watch", value) :: others)) :
    ofSettingsJson (.object settings) = ofJson value := by
  have found := @Json.get?_of_perm settings [("watch", value)] others "watch" perm aside (by simp)
  rw [ofSettingsJson, found]
  rfl

/-- What is written as JSON is read back, alone and as the section of settings. The members that
state some or all of the options give these, in any order and among unknown members, and standard
values for the rest. A list of at most three values gives the same options as the object in which
they have the names of the fields, and a longer list gives none. In settings, among other sections,
each of these is read as it is alone. -/
theorem read_in_every_shape :
    (∀ options : WatchOptions,
      (Json.parse? options.json.compact).map ofJson = some (.ok options) ∧
        (Json.parse? (Json.object [("watch", options.json)]).compact).map ofSettingsJson =
          some (.ok options) ∧
        options.json = .object (Stated.all options).members ∧
        (Stated.all options).complete = options) ∧
    (∀ (stated : Stated) (members unknown : List (String × Json)),
      (∀ member ∈ unknown, member.1 ∉ fieldNames) → members.Perm (stated.members ++ unknown) →
        ofJson (.object members) = .ok stated.complete) ∧
    (∀ items : List Json, items.length ≤ 3 → ∀ options,
      ofJson (.array items) = .ok options ↔
        ofJson (.object (fieldNames.zip items)) = .ok options) ∧
    (∀ items : List Json, 3 < items.length → ∃ cause, ofJson (.array items) = .error cause) ∧
    ∀ (value : Json) (settings others : List (String × Json)),
      (∀ member ∈ others, member.1 ≠ "watch") → settings.Perm (("watch", value) :: others) →
        ofSettingsJson (.object settings) = ofJson value := by
  have written (options : WatchOptions) : ofJson options.json = .ok options := by
    rw [← Stated.object_members_all]
    exact @ofJson_of_perm (Stated.all options) _ [] (by simp) (by rw [List.append_nil])
  refine ⟨fun options => ⟨?_, ?_, rfl, rfl⟩, fun stated members unknown => ofJson_of_perm,
    fun items short options => ofJson_zip_eq_ok_iff short, fun items long => ?_,
    fun value settings others => ofSettingsJson_of_perm⟩
  · rw [Json.parse?_compact, Option.map_some, written]
  · rw [Json.parse?_compact, Option.map_some, ofSettingsJson_of_perm (by simp) (.refl _), written]
  · cases read : ofJson (.array items) with
    | error cause => exact ⟨cause, rfl⟩
    | ok options =>
      have short := (ofJson_array_eq_ok_iff.mp read).2
      omega

/-- Settings whose section states the largest size there is, in the wrong order and among unknown
members, and a list that states one size. -/
theorem read_in_every_shape_shuffled :
    let unknown : List (String × Json) := [("Buffer_size", .null), ("z", .array [])]
    let members := unknown ++
      [("include_existing", .bool true), ("output_buffer_size", .natural 18446744073709551615)]
    let settings := [("x", .null), ("watch", .object members)]
    ofSettingsJson (.object settings) = .ok ⟨1000, 18446744073709551615, true⟩ ∧
      ofJson (.array [.natural 5]) = .ok ⟨5, 1, false⟩ ∧
      ∃ cause, ofJson (.array [.natural 5, .natural 6, .bool true, .null]) = .error cause := by
  intro unknown members settings
  obtain ⟨-, stated, short, long, among⟩ := read_in_every_shape
  let told : Stated := ⟨none, some 18446744073709551615, some true⟩
  have shuffled : members.Perm (told.members ++ unknown) :=
    ((List.reverse_perm told.members).append_left unknown).trans List.perm_append_comm
  have listed : settings.Perm [("watch", .object members), ("x", .null)] := .swap ..
  refine ⟨?_, ?_, long _ (by decide)⟩
  · rw [among _ _ [("x", .null)] (by decide) listed]
    exact stated told _ unknown (by decide) shuffled
  · refine (short _ (by decide) _).mpr ?_
    exact stated ⟨some 5, none, none⟩ _ [] (by simp) (.refl _)

end WatchOptions
end AccessFeed
