import AccessFeed.Proofs.Settings.Section

/-! Which variables of the environment set a field of the section of watch options: those whose
name is, in any case, made of the start of all settings, the section and the field. -/
namespace AccessFeed
namespace Environment

variable {start chars rest : List Char} {field name key : String}

theorem after?_eq_some_iff : after? start chars = some rest ↔ chars = start ++ rest := by
  induction start generalizing chars with
  | nil => simp [after?, eq_comm]
  | cons first start ih =>
    cases chars with
    | nil => simp [after?]
    | cons char chars =>
      by_cases same : first = char
      · simp [after?, same, ih]
      · simp [after?, same, Ne.symm same]

/-- Where a text with dots for pairs of underscores has no dot, it is the text itself. -/
theorem eq_of_dotted_eq (same : dotted chars = rest) (noDot : '.' ∉ rest) : chars = rest := by
  induction chars using dotted.induct generalizing rest with
  | case1 chars =>
    rw [dotted] at same
    exact absurd (same ▸ List.mem_cons_self) noDot
  | case2 char chars single ih =>
    rw [dotted] at same
    · subst same
      rw [← ih rfl fun dot => noDot (List.mem_cons_of_mem _ dot)]
    · exact single
  | case3 => exact same

/-- One dot of such a text was a dot or a pair of underscores. -/
theorem eq_or_eq_of_dotted_eq {front : List Char} (same : dotted chars = front ++ '.' :: rest)
    (noFront : '.' ∉ front) (noRest : '.' ∉ rest) :
    chars = front ++ '.' :: rest ∨ chars = front ++ '_' :: '_' :: rest := by
  -- The induction is on the scan of the text; where the dot is reached the rest has none.
  induction chars using dotted.induct generalizing front with
  | case1 chars =>
    rw [dotted] at same
    cases front with
    | nil =>
      obtain ⟨-, tail⟩ := List.cons_eq_cons.mp same
      exact .inr (by rw [eq_of_dotted_eq tail noRest]; rfl)
    | cons first front =>
      obtain ⟨rfl, -⟩ := List.cons_eq_cons.mp same
      exact absurd List.mem_cons_self noFront
  | case2 char chars single ih =>
    rw [dotted] at same
    · cases front with
      | nil =>
        obtain ⟨rfl, tail⟩ := List.cons_eq_cons.mp same
        exact .inl (by rw [eq_of_dotted_eq tail noRest]; rfl)
      | cons first front =>
        obtain ⟨rfl, tail⟩ := List.cons_eq_cons.mp same
        refine (ih tail fun dot => noFront (List.mem_cons_of_mem _ dot)).imp ?_ ?_
        all_goals exact fun equal => congrArg (char :: ·) equal
    · exact single
  | case3 => simp [dotted] at same

/-- The name of a variable, in any case, is made of the start of all settings, the section and a
field, with two underscores or a dot before the field. -/
def Sets (field name : String) : Prop :=
  Text.lowerCase name = "project__watch__" ++ field ∨
    Text.lowerCase name = "project__watch." ++ field

instance (field name : String) : Decidable (Sets field name) := inferInstanceAs (Decidable (_ ∨ _))

theorem settingName?_eq_some_iff : settingName? name = some key ↔ ∃ rest,
    (Text.lowerCase name).toList = settingStart ++ rest ∧ dotted rest = key.toList := by
  simp only [settingName?, Option.map_eq_some_iff, after?_eq_some_iff, ← String.toList_inj,
    String.toList_ofList]

/-- How the fields are written in the names of variables. -/
theorem dotted_fieldNames : ∀ field ∈ WatchOptions.fieldNames, '.' ∉ field.toList ∧
    dotted ("watch__".toList ++ field.toList) = ("watch." ++ field).toList ∧
    dotted ("watch.".toList ++ field.toList) = ("watch." ++ field).toList := by
  decide +kernel

theorem settingName?_eq_iff (known : field ∈ WatchOptions.fieldNames) :
    settingName? name = some ("watch." ++ field) ↔ Sets field name := by
  obtain ⟨noDot, underscores, dot⟩ := dotted_fieldNames field known
  have start (middle : String) : Text.lowerCase name = "project__" ++ middle ++ field ↔
      (Text.lowerCase name).toList = settingStart ++ (middle.toList ++ field.toList) := by
    rw [← String.toList_inj, String.toList_append, String.toList_append, List.append_assoc]
    rfl
  rw [settingName?_eq_some_iff, Sets]
  constructor
  · rintro ⟨rest, whole, same⟩
    have parts : dotted rest = "watch".toList ++ '.' :: field.toList := by
      rw [same, String.toList_append]
      rfl
    obtain rfl | rfl := eq_or_eq_of_dotted_eq parts (by decide +kernel) noDot
    · exact .inr ((start "watch.").mpr whole)
    · exact .inl ((start "watch__").mpr whole)
  · rintro (named | named)
    · exact ⟨_, (start "watch__").mp named, underscores⟩
    · exact ⟨_, (start "watch.").mp named, dot⟩

theorem mem_of_mem_dotted {char : Char} (member : char ∈ dotted chars) :
    char ∈ chars ∨ char = '.' := by
  induction chars using dotted.induct with
  | case1 chars ih =>
    rw [dotted, List.mem_cons] at member
    obtain dot | later := member
    · exact .inr dot
    · exact (ih later).imp_left fun present => by simp [present]
  | case2 first chars single ih =>
    rw [dotted, List.mem_cons] at member
    · obtain rfl | later := member
      · exact .inl List.mem_cons_self
      · exact (ih later).imp_left (List.mem_cons_of_mem _)
    · exact single
  | case3 => exact .inl member

/-- The name of a setting that a variable sets has no capital letters. -/
theorem not_isCapital_of_settingName? (named : settingName? name = some key) :
    ∀ char ∈ key.toList, ¬ Text.IsCapital char := by
  obtain ⟨rest, whole, same⟩ := settingName?_eq_some_iff.mp named
  intro char member
  obtain present | rfl := mem_of_mem_dotted (same ▸ member)
  · have lowered : char ∈ Text.lowerChars [] name.toList := by
      rw [← Text.toList_lowerCase, whole]
      exact List.mem_append_right _ present
    exact Text.not_isCapital_of_mem_lowerChars lowered
  · decide

theorem lowerCase_watch : Text.lowerCase "watch" = "watch" :=
  Text.lowerCase_of_isSmall fun char member =>
    (WatchOptions.isSmall_names "watch" List.mem_cons_self char member).1

theorem lowerCase_of_mem_fieldNames (known : field ∈ WatchOptions.fieldNames) :
    Text.lowerCase field = field :=
  Text.lowerCase_of_isSmall fun char member =>
    (WatchOptions.isSmall_names field (List.mem_cons_of_mem _ known) char member).1

theorem parse?_fieldNames : ∀ field ∈ WatchOptions.fieldNames,
    KeyPath.parse? ("watch." ++ field) = some ⟨"watch", [.member field]⟩ := by
  decide +kernel

/-- A single value under a name without capital letters is given to a field of the section if the
name is that of the field. -/
theorem givenBy_scalar (known : field ∈ WatchOptions.fieldNames)
    (small : ∀ char ∈ key.toList, ¬ Text.IsCapital char) (source : Option String)
    (value : Scalar) :
    Setting.givenBy field (key, .scalar source value) =
      if key = "watch." ++ field then [.scalar source value] else [] := by
  split
  case isTrue same =>
    simp only [Setting.givenBy, same, KeyPath.ofName_of_parse? (parse?_fieldNames field known),
      lowerCase_of_mem_fieldNames known, lowerCase_watch, Setting.givenTo, if_true]
  case isFalse other =>
    unfold Setting.givenBy KeyPath.ofName
    cases read : KeyPath.parse? key with
    | none => simp [Setting.givenTo]
    | some path =>
      obtain ⟨first, steps⟩ := path
      obtain _ | ⟨second | index, _ | ⟨third, rest⟩⟩ := steps
      case cons.member.nil =>
        simp only [Option.getD_some, Setting.givenTo]
        split
        case isFalse => rfl
        case isTrue inside =>
          refine if_neg fun same => other ?_
          have whole := KeyPath.toList_of_parse? read
          rw [whole] at small
          have ascii {name : String} (named : name ∈ "watch" :: WatchOptions.fieldNames) :
              ∀ char ∈ name.toList, char.toNat < 128 ∧ char ≠ 'k' := fun char member =>
            (WatchOptions.isSmall_names name named char member).imp_left (·.1)
          obtain rfl : first = "watch" := Text.eq_of_lowerCase_eq
            (fun char member => small char (List.mem_append_left _ member))
            (ascii List.mem_cons_self) inside
          obtain rfl : second = field := Text.eq_of_lowerCase_eq
            (fun char member => small char (by simp [member]))
            (ascii (List.mem_cons_of_mem _ known)) same
          rw [← String.toList_inj, whole, String.toList_append]
          rfl
      all_goals simp [Setting.givenTo]

theorem values_cons (name value : String) (rest : List (String × String)) :
    values ((name, value) :: rest) =
      (if value = "" then [] else
        ((settingName? name).map fun key => (key, .scalar (some origin) (scalar value))).toList) ++
        values rest := by
  by_cases empty : value = ""
  · simp [values, empty]
  · cases named : settingName? name <;> simp [values, empty, named]

/-- The variables of an environment give a field of the section the values that are not empty of
those that set it. -/
theorem flatMap_givenBy_values (known : field ∈ WatchOptions.fieldNames)
    (environment : List (String × String)) :
    (values environment).flatMap (Setting.givenBy field) =
      (environment.filter fun (name, value) => value ≠ "" ∧ Sets field name).map
        fun (_, value) => .scalar (some origin) (scalar value) := by
  induction environment with
  | nil => rfl
  | cons entry rest ih =>
    obtain ⟨name, value⟩ := entry
    rw [values_cons, List.flatMap_append, ih]
    by_cases empty : value = ""
    · simp [empty]
    · have sets : settingName? name = some ("watch." ++ field) ↔ Sets field name :=
        settingName?_eq_iff known
      cases named : settingName? name with
      | none =>
        rw [named] at sets
        simp [empty, ← sets]
      | some key =>
        rw [named, Option.some.injEq] at sets
        have given := givenBy_scalar known (not_isCapital_of_settingName? named)
          (some origin) (scalar value)
        by_cases here : Sets field name <;> simp [empty, given, sets, here]

end Environment
end AccessFeed
