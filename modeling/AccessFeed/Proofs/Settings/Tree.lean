import AccessFeed.Settings.Tree

/-! Tables of the settings tree. A member is changed under the lower case of its name; so the names
of a table that is built up this way are lower-cased, and each of them is there once. -/
namespace AccessFeed
namespace Setting

variable {setting value : Setting} {name field : String} {change : Option Setting → Setting}

/-- A single value, neither an array nor a table. -/
def isScalar : Setting → Bool
  | .scalar .. => true
  | _ => false

def isTable : Setting → Bool
  | .table .. => true
  | _ => false

theorem isTable_updateMember (name : String) (change : Option Setting → Setting)
    (setting : Setting) : (setting.updateMember name change).isTable = true := by
  cases setting <;> rfl

theorem members_updateMember (name : String) (change : Option Setting → Setting)
    (setting : Setting) :
    (setting.updateMember name change).members =
      Entries.put (Text.lowerCase name) (change (setting.member? (Text.lowerCase name)))
        setting.members := by
  cases setting <;> rfl

theorem member?_updateMember (name field : String) (change : Option Setting → Setting)
    (setting : Setting) :
    (setting.updateMember name change).member? field =
      if Text.lowerCase name = field then some (change (setting.member? field))
      else setting.member? field := by
  rw [member?, members_updateMember, Entries.value?_put]
  split
  case isTrue same => rw [same]
  case isFalse => rfl

theorem merge_of_isScalar (scalar : value.isScalar = true) (present : Option Setting) :
    merge value present = value := by
  cases value with
  | scalar => rw [merge]; simp
  | array | table => cases scalar

/-- Entries under names that become a given one in lower case. -/
def underName (entries : List (String × Setting)) (field : String) : List Setting :=
  (entries.filter fun entry => Text.lowerCase entry.1 = field).map (·.2)

/-- Of the single values that are merged in under a name, the last one counts. -/
theorem member?_mergeEntries {entries : List (String × Setting)} {target : Setting}
    (scalars : ∀ value ∈ underName entries field, value.isScalar = true) :
    (mergeEntries entries target).member? field =
      (underName entries field).getLast?.or (target.member? field) := by
  induction entries generalizing target with
  | nil => rfl
  | cons entry rest ih =>
    obtain ⟨name, value⟩ := entry
    by_cases same : Text.lowerCase name = field
    · have split : underName ((name, value) :: rest) field = value :: underName rest field := by
        simp [underName, same]
      rw [split, List.forall_mem_cons] at scalars
      rw [mergeEntries, ih scalars.2, member?_updateMember, if_pos same,
        merge_of_isScalar scalars.1, split, ← List.singleton_append, List.getLast?_append,
        Option.or_assoc]
      rfl
    · have skip : underName ((name, value) :: rest) field = underName rest field := by
        simp [underName, same]
      rw [skip] at scalars
      rw [mergeEntries, ih scalars, member?_updateMember, if_neg same, skip]

/-- The names of the members. -/
def names (setting : Setting) : List String := setting.members.map (·.1)

theorem names_updateMember (name : String) (change : Option Setting → Setting)
    (setting : Setting) :
    (setting.updateMember name change).names =
      if Text.lowerCase name ∈ setting.names then setting.names
      else setting.names ++ [Text.lowerCase name] := by
  rw [names, members_updateMember, Entries.names_put]
  rfl

theorem mem_names_updateMember {other : String}
    (member : other ∈ (setting.updateMember name change).names) :
    other ∈ setting.names ∨ other = Text.lowerCase name := by
  rw [names_updateMember] at member
  split at member
  case isTrue => exact .inl member
  case isFalse => simpa using member

/-- The names of the members have been lower-cased, and each is there once. -/
structure Settled (setting : Setting) : Prop where
  lowered : ∀ name ∈ setting.names, ∃ text, name = Text.lowerCase text
  once : setting.names.Nodup

theorem settled_emptyTable : emptyTable.Settled :=
  ⟨by simp [names, emptyTable, members], List.nodup_nil⟩

theorem settled_unfilled : unfilled.Settled :=
  ⟨by simp [names, unfilled, members], List.nodup_nil⟩

theorem Settled.updateMember (h : setting.Settled) (name : String)
    (change : Option Setting → Setting) : (setting.updateMember name change).Settled := by
  refine ⟨fun other member => ?_, ?_⟩
  · obtain before | rfl := mem_names_updateMember member
    · exact h.lowered other before
    · exact ⟨name, rfl⟩
  · rw [names_updateMember]
    split
    case isTrue => exact h.once
    case isFalse fresh =>
      refine List.nodup_append.mpr ⟨h.once, by simp, fun other before new last same => ?_⟩
      rw [List.mem_singleton.mp last] at same
      exact fresh (same ▸ before)

theorem Settled.mergeEntries (entries : List (String × Setting)) {target : Setting}
    (h : target.Settled) : (mergeEntries entries target).Settled := by
  induction entries generalizing target with
  | nil => exact h
  | cons entry rest ih => exact ih (h.updateMember entry.1 (merge entry.2))

theorem isTable_mergeEntries (entries : List (String × Setting)) {target : Setting}
    (table : target.isTable = true) : (mergeEntries entries target).isTable = true := by
  induction entries generalizing target with
  | nil => exact table
  | cons entry rest ih => exact ih (isTable_updateMember ..)

end Setting
end AccessFeed
