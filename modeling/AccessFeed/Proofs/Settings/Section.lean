import Mathlib.Data.List.Basic
import AccessFeed.Proofs.Settings.KeyPath
import AccessFeed.Proofs.Settings.Tree
import AccessFeed.Settings.Loading

/-! The section of watch options in the settings tree. Layering a source over the tree changes the
fields that the source assigns and no others, and layering a tree over an empty one changes no
field at all. -/
namespace AccessFeed

/-- The names of the section and its fields are small, and none has the letter that a KELVIN SIGN
becomes. -/
theorem WatchOptions.isSmall_names : ∀ name ∈ "watch" :: fieldNames, ∀ char ∈ name.toList,
    Text.IsSmall char ∧ char ≠ 'k' := by
  have all : (("watch" :: fieldNames).all fun name => name.toList.all fun char =>
      decide (Text.IsSmall char ∧ char ≠ 'k')) = true := by decide +kernel
  simpa only [List.all_eq_true, decide_eq_true_eq] using all

namespace Setting

variable {root value : Setting} {steps : List Step} {path : KeyPath} {name field : String}

/-- The value of a field of the section. -/
def watchField? (root : Setting) (field : String) : Option Setting :=
  (root.member? "watch").bind (·.member? field)

/-- The values that the section gets for a field when a value is set at the end of a way in it. -/
def givenTo (field : String) (steps : List Step) (value : Setting) : List Setting :=
  match steps, value with
  | [], .table _ entries => underName entries field
  | [.member name], value => if Text.lowerCase name = field then [value] else []
  | _, _ => []

/-- The section itself is set to a table or a field of it is set, and known fields are set to
single values only. -/
def OnlyFields (steps : List Step) (value : Setting) : Prop :=
  match steps, value with
  | [], .table _ entries =>
    ∀ entry ∈ entries, Text.lowerCase entry.1 ∈ WatchOptions.fieldNames → entry.2.isScalar = true
  | .member name :: rest, value =>
    Text.lowerCase name ∈ WatchOptions.fieldNames → rest = [] ∧ value.isScalar = true
  | _, _ => False

instance (steps : List Step) (value : Setting) : Decidable (OnlyFields steps value) :=
  match steps, value with
  | [], .table _ _ => inferInstanceAs (Decidable (∀ entry ∈ _, _ → _))
  | .member _ :: _, _ => inferInstanceAs (Decidable (_ → _ ∧ _))
  | [], .scalar .. | [], .array .. | .item _ :: _, _ => inferInstanceAs (Decidable False)

theorem isScalar_of_mem_givenTo (only : OnlyFields steps value)
    (known : field ∈ WatchOptions.fieldNames) :
    ∀ given ∈ givenTo field steps value, given.isScalar = true := by
  intro given member
  match steps, value, only with
  | [], .table _ entries, only =>
    obtain ⟨entry, kept, rfl⟩ := List.mem_map.mp member
    simp only [List.mem_filter, decide_eq_true_eq] at kept
    exact only entry kept.1 (kept.2 ▸ known)
  | .member name :: rest, value, only =>
    cases rest with
    | cons => simp [givenTo] at member
    | nil =>
      simp only [givenTo] at member
      split at member
      case isTrue same => exact List.mem_singleton.mp member ▸ (only (same ▸ known)).2
      case isFalse => cases member

/-- What is done at the end of a way. -/
def changeAt (steps : List Step) (value : Setting) : Option Setting → Setting :=
  match steps.getLast? with
  | some (.item _) => fun _ => value
  | _ => merge value

theorem assign_eq (path : KeyPath) (value root : Setting) :
    assign path value root =
      root.updateMember path.first (follow (changeAt path.steps value) path.steps) := rfl

theorem member?_follow (only : OnlyFields steps value) (known : field ∈ WatchOptions.fieldNames)
    (present : Option Setting) :
    (follow (changeAt steps value) steps present).member? field =
      (givenTo field steps value).getLast?.or (present.bind (·.member? field)) := by
  have scalars := isScalar_of_mem_givenTo only known
  match steps, value, only with
  | [], .table _ entries, _ =>
    have start : (present.getD emptyTable).member? field = present.bind (·.member? field) := by
      cases present <;> rfl
    rw [← start]
    exact member?_mergeEntries scalars
  | .member name :: rest, value, only =>
    have start : (present.getD unfilled).member? field = present.bind (·.member? field) := by
      cases present <;> rfl
    rw [follow, member?_updateMember, start]
    split
    case isTrue same =>
      obtain ⟨rfl, scalar⟩ := only (same ▸ known)
      simp only [givenTo, if_pos same, List.getLast?_singleton, Option.some_or]
      exact congrArg some (merge_of_isScalar scalar _)
    case isFalse other => cases rest <;> simp [givenTo, other]

theorem settled_follow (only : OnlyFields steps value) {present : Option Setting}
    (settled : ∀ watch ∈ present, watch.isTable = true ∧ watch.Settled) :
    (follow (changeAt steps value) steps present).isTable = true ∧
      (follow (changeAt steps value) steps present).Settled := by
  match steps, value, only with
  | [], .table _ entries, _ =>
    have start : (present.getD emptyTable).isTable = true ∧ (present.getD emptyTable).Settled := by
      cases present with
      | none => exact ⟨rfl, settled_emptyTable⟩
      | some watch => exact settled watch rfl
    exact ⟨isTable_mergeEntries entries start.1, start.2.mergeEntries entries⟩
  | .member name :: rest, value, _ =>
    have start : (present.getD unfilled).Settled := by
      cases present with
      | none => exact settled_unfilled
      | some watch => exact (settled watch rfl).2
    exact ⟨isTable_updateMember .., start.updateMember ..⟩

/-- The values that one entry of a source gives to a field of the section. -/
def givenBy (field : String) (entry : String × Setting) : List Setting :=
  let path := KeyPath.ofName entry.1
  if Text.lowerCase path.first = "watch" then givenTo field path.steps entry.2 else []

/-- The name of an entry is a path, and of the section it sets fields only. -/
def Fits (entry : String × Setting) : Prop :=
  (KeyPath.parse? entry.1).isSome = true ∧
    (Text.lowerCase (KeyPath.ofName entry.1).first = "watch" →
      OnlyFields (KeyPath.ofName entry.1).steps entry.2)

instance (entry : String × Setting) : Decidable (Fits entry) :=
  inferInstanceAs (Decidable (_ ∧ (_ → _)))

theorem fits_iff {entry : String × Setting} : Fits entry ↔
    ∃ path, KeyPath.parse? entry.1 = some path ∧
      (Text.lowerCase path.first = "watch" → OnlyFields path.steps entry.2) := by
  rw [Fits, KeyPath.ofName]
  cases KeyPath.parse? entry.1 <;> simp

theorem isScalar_of_mem_givenBy {entry : String × Setting} (fits : Fits entry)
    (known : field ∈ WatchOptions.fieldNames) :
    ∀ given ∈ givenBy field entry, given.isScalar = true := by
  obtain ⟨path, read, only⟩ := fits_iff.mp fits
  rw [givenBy, KeyPath.ofName_of_parse? read]
  split
  case isTrue inside => exact isScalar_of_mem_givenTo (only inside) known
  case isFalse => exact fun _ none => absurd none List.not_mem_nil

theorem member?_assign (path : KeyPath) (value root : Setting) (name : String) :
    (assign path value root).member? name = if Text.lowerCase path.first = name then
      some (follow (changeAt path.steps value) path.steps (root.member? name))
      else root.member? name := by
  rw [assign_eq, member?_updateMember]

/-- Setting the value of an entry changes the fields that it gives a value to, and no others. -/
theorem watchField?_assign {entry : String × Setting} (fits : Fits entry)
    (known : field ∈ WatchOptions.fieldNames) (root : Setting) :
    (assign (.ofName entry.1) entry.2 root).watchField? field =
      (givenBy field entry).getLast?.or (root.watchField? field) := by
  obtain ⟨path, read, only⟩ := fits_iff.mp fits
  rw [givenBy, KeyPath.ofName_of_parse? read, watchField?, member?_assign]
  split
  case isTrue inside => exact member?_follow (only inside) known _
  case isFalse => rfl

/-- A tree that sources are layered over: its top-level names are plain, and its section is a table
in which known fields have single values. -/
structure Ordered (root : Setting) : Prop where
  settled : root.Settled
  named : ∀ name ∈ root.names, KeyPath.IsName name
  tables : ∀ watch ∈ root.member? "watch", watch.isTable = true ∧ watch.Settled
  scalars : ∀ field ∈ WatchOptions.fieldNames, ∀ value ∈ root.watchField? field,
    value.isScalar = true

theorem ordered_emptyTable : emptyTable.Ordered where
  settled := settled_emptyTable
  named := by simp [names, emptyTable, members]
  tables := by simp [member?, emptyTable, members]
  scalars := by simp [watchField?, member?, emptyTable, members]

theorem Ordered.assign (h : root.Ordered) {entry : String × Setting} (fits : Fits entry) :
    (assign (.ofName entry.1) entry.2 root).Ordered := by
  have law {field : String} (known : field ∈ WatchOptions.fieldNames) :=
    watchField?_assign fits known root
  have given {field : String} (known : field ∈ WatchOptions.fieldNames) :=
    isScalar_of_mem_givenBy fits known
  obtain ⟨path, read, only⟩ := fits_iff.mp fits
  rw [KeyPath.ofName_of_parse? read] at law ⊢
  refine ⟨h.settled.updateMember .., fun name member => ?_, fun watch present => ?_,
    fun field known value present => ?_⟩
  · obtain before | rfl := mem_names_updateMember member
    · exact h.named name before
    · exact KeyPath.isName_lowerCase (KeyPath.isName_first read)
  · rw [member?_assign] at present
    split at present
    case isTrue inside =>
      cases present
      exact settled_follow (only inside) h.tables
    case isFalse => exact h.tables watch present
  · rw [law known, Option.mem_def, Option.or_eq_some_iff] at present
    obtain last | ⟨-, before⟩ := present
    · exact given known value (List.mem_of_getLast? last)
    · exact h.scalars field known value before

variable {values : SourceValues}

theorem Ordered.layer (h : root.Ordered) (fits : ∀ entry ∈ values, Fits entry) :
    (root.layer values).Ordered := by
  induction values generalizing root with
  | nil => exact h
  | cons entry rest ih =>
    rw [List.forall_mem_cons] at fits
    exact ih (h.assign fits.1) fits.2

/-- Layering a source changes the fields that it assigns, and no others. -/
theorem watchField?_layer (fits : ∀ entry ∈ values, Fits entry)
    (known : field ∈ WatchOptions.fieldNames) (root : Setting) :
    (root.layer values).watchField? field =
      (values.flatMap (givenBy field)).getLast?.or (root.watchField? field) := by
  induction values generalizing root with
  | nil => rfl
  | cons entry rest ih =>
    rw [List.forall_mem_cons] at fits
    have step : root.layer (entry :: rest) = (assign (.ofName entry.1) entry.2 root).layer rest :=
      rfl
    rw [step, ih fits.2, watchField?_assign fits.1 known, List.flatMap_cons, List.getLast?_append,
      Option.or_assoc]

/-- In an ordered tree the top-level names stay as they are, also as paths. -/
theorem Ordered.name_eq (h : root.Ordered) (member : name ∈ root.names) :
    KeyPath.parse? name = some ⟨name, []⟩ ∧ Text.lowerCase name = name := by
  obtain ⟨text, lowered⟩ := h.settled.lowered name member
  have plain := h.named name member
  refine ⟨KeyPath.parse?_of_isName plain, Text.lowerCase_of_isSmall fun char present => ?_⟩
  refine ⟨KeyPath.toNat_lt_of_isPlain (plain.2 char present), ?_⟩
  rw [lowered, Text.toList_lowerCase] at present
  exact Text.not_isCapital_of_mem_lowerChars present

/-- Lower-casing the names of a settled table once more leads to no field that was not there. -/
theorem Settled.underName_eq {origin : Option String} {entries : List (String × Setting)}
    (h : (Setting.table origin entries).Settled) (known : field ∈ WatchOptions.fieldNames) :
    underName entries field = ((Setting.table origin entries).member? field).toList := by
  have same : ∀ entry ∈ entries,
      decide (Text.lowerCase entry.1 = field) = decide (entry.1 = field) := by
    intro entry member
    obtain ⟨text, lowered⟩ := h.lowered entry.1 (List.mem_map_of_mem member)
    rw [lowered, decide_eq_decide]
    exact Text.lowerCase_lowerCase_eq_iff
      (WatchOptions.isSmall_names field (List.mem_cons_of_mem _ known))
  rw [underName, List.filter_congr same]
  exact Entries.values_of_nodup h.once field

theorem Ordered.value_eq (h : root.Ordered) {entry : String × Setting}
    (member : entry ∈ root.members) : root.member? entry.1 = some entry.2 := by
  have found : entry.2 ∈ (root.members.filter (·.1 = entry.1)).map (·.2) :=
    List.mem_map_of_mem (List.mem_filter.mpr ⟨member, by simp⟩)
  rw [Entries.values_of_nodup h.settled.once, Option.mem_toList] at found
  exact found

/-- The members of an ordered tree are a source that can be layered in turn. -/
theorem Ordered.fits (h : root.Ordered) : ∀ entry ∈ root.members, Fits entry := by
  intro entry member
  obtain ⟨read, lowered⟩ := h.name_eq (List.mem_map_of_mem member)
  refine fits_iff.mpr ⟨_, read, fun inside => ?_⟩
  -- A top-level name is its own lower case, so this entry is the section.
  have present := h.value_eq member
  rw [← lowered, inside] at present
  obtain ⟨table, settled⟩ := h.tables _ present
  match entry.2, table, settled, present with
  | .table origin entries, _, settled, present =>
    intro inner among known
    have here : inner.2 ∈ underName entries (Text.lowerCase inner.1) :=
      List.mem_map_of_mem (List.mem_filter.mpr ⟨among, by simp⟩)
    rw [settled.underName_eq known, Option.mem_toList] at here
    exact h.scalars _ known inner.2 (by rw [watchField?, present]; exact here)

theorem Ordered.flatMap_givenBy (h : root.Ordered) (known : field ∈ WatchOptions.fieldNames) :
    root.members.flatMap (givenBy field) = (root.watchField? field).toList := by
  have inside : ∀ entry ∈ root.members,
      givenBy field entry = if entry.1 = "watch" then givenTo field [] entry.2 else [] := by
    intro entry member
    obtain ⟨read, lowered⟩ := h.name_eq (List.mem_map_of_mem member)
    rw [givenBy, KeyPath.ofName_of_parse? read, lowered]
  rw [List.flatMap_congr inside, Entries.flatMap_of_nodup h.settled.once, watchField?]
  change (root.member? "watch").toList.flatMap _ = _
  cases present : root.member? "watch" with
  | none => rfl
  | some watch =>
    obtain ⟨table, settled⟩ := h.tables watch present
    match watch, table, settled with
    | .table origin entries, _, settled =>
      rw [Option.toList_some, List.flatMap_singleton, Option.bind_some]
      exact settled.underName_eq known

end Setting
end AccessFeed
