import AccessFeed.Proofs.Settings.Environment

/-! Loading layers its sources field by field: each field of the section of watch options has the
value that the last source assigning it gives to it, whatever else the sources hold. -/
namespace AccessFeed

variable {field : String}

/-- A source that sets fields only in the section, each known one at most once. -/
structure SourceValues.Orderly (values : SourceValues) : Prop where
  fits : ∀ entry ∈ values, Setting.Fits entry
  once : ∀ field ∈ WatchOptions.fieldNames, (values.flatMap (Setting.givenBy field)).length ≤ 1

instance (values : SourceValues) : Decidable values.Orderly :=
  decidable_of_iff ((∀ entry ∈ values, Setting.Fits entry) ∧ ∀ field ∈ WatchOptions.fieldNames,
    (values.flatMap (Setting.givenBy field)).length ≤ 1)
    ⟨fun ⟨fits, once⟩ => ⟨fits, once⟩, fun ⟨fits, once⟩ => ⟨fits, once⟩⟩

/-- The value that a source assigns to a field of the section. -/
def SourceValues.assigned? (field : String) (values : SourceValues) : Option Setting :=
  (values.flatMap (Setting.givenBy field)).head?

/-- The value that a variable which is not empty assigns to a field of the section. -/
def Environment.assigned? (field : String) (environment : List (String × String)) :
    Option Setting :=
  (environment.find? fun (name, value) => value ≠ "" ∧ Sets field name).map fun (_, value) =>
    .scalar (some origin) (scalar value)

theorem Environment.assigned?_values (known : field ∈ WatchOptions.fieldNames)
    (environment : List (String × String)) :
    (values environment).assigned? field = assigned? field environment := by
  rw [SourceValues.assigned?, flatMap_givenBy_values known, List.head?_map, List.head?_filter]
  rfl

namespace Setting

variable {root : Setting}

/-- Layering an orderly source changes the fields that it assigns. -/
theorem watchField?_layer_of_orderly {values : SourceValues} (orderly : values.Orderly)
    (known : field ∈ WatchOptions.fieldNames) (root : Setting) :
    (root.layer values).watchField? field =
      (values.assigned? field).or (root.watchField? field) := by
  rw [watchField?_layer orderly.fits known, SourceValues.assigned?]
  have once := orderly.once field known
  match values.flatMap (givenBy field), once with
  | [], _ | [_], _ => rfl

theorem Ordered.foldl_layer (h : root.Ordered) {layers : List SourceValues}
    (orderly : ∀ values ∈ layers, values.Orderly) : (layers.foldl Setting.layer root).Ordered := by
  induction layers generalizing root with
  | nil => exact h
  | cons values rest ih =>
    rw [List.forall_mem_cons] at orderly
    exact ih (h.layer orderly.1.fits) orderly.2

/-- Layering an ordered tree over the empty one gives a tree with the same fields. -/
theorem Ordered.watchField?_again (h : root.Ordered) (known : field ∈ WatchOptions.fieldNames) :
    (emptyTable.layer root.members).watchField? field = root.watchField? field := by
  have empty : emptyTable.watchField? field = none := rfl
  rw [watchField?_layer h.fits known, h.flatMap_givenBy known, empty, Option.or_none]
  cases root.watchField? field <;> rfl

/-- The options of a section, or the standard ones where there is none, are made of its fields. -/
theorem convertOr_toSection {section? : Option Setting}
    (table : ∀ watch ∈ section?, watch.isTable = true) :
    convertOr toSection .standard section? =
      toOptions (fun name _ => "watch." ++ name)
        fun name _ => section?.bind (·.member? name) := by
  cases section? with
  | none => rfl
  | some watch =>
    match watch, table watch rfl with
    | .table .., _ => rfl

theorem toOptions_eq_ok_iff {key : String → Nat → String}
    {member? : String → Nat → Option Setting} {options : WatchOptions} :
    toOptions key member? = .ok options ↔
      convertOr (toSize (key "buffer_size" 0)) WatchOptions.standard.bufferSize
          (member? "buffer_size" 0) = .ok options.bufferSize ∧
        convertOr (toSize (key "output_buffer_size" 1)) WatchOptions.standard.outputBufferSize
          (member? "output_buffer_size" 1) = .ok options.outputBufferSize ∧
        convertOr (toBool (key "include_existing" 2)) WatchOptions.standard.includeExisting
          (member? "include_existing" 2) = .ok options.includeExisting := by
  obtain ⟨size, output, existing⟩ := options
  simp only [toOptions]
  generalize convertOr (toSize (key "buffer_size" 0)) _ _ = first
  generalize convertOr (toSize (key "output_buffer_size" 1)) _ _ = second
  generalize convertOr (toBool (key "include_existing" 2)) _ _ = third
  cases first <;> cases second <;> cases third <;> simp [bind, Except.bind, pure, Except.pure]

end Setting

namespace SettingsSources

variable {sources : SettingsSources}

/-- The name of the further file, if the variable for it is set. -/
def furtherFile? (sources : SettingsSources) : Option String :=
  (sources.environment.find? (·.1 == pathVariable)).map (·.2)

/-- The values of a file; none where there is no file, or it cannot be read. -/
def valuesOf (sources : SettingsSources) : Option String → SourceValues
  | some name => (sources.read name).toOption.getD []
  | none => []

/-- The values of the sources in the order in which they are layered. -/
def layers (sources : SettingsSources) : List SourceValues :=
  [sources.valuesOf sources.path, sources.valuesOf sources.furtherFile?,
    Environment.values sources.environment]

/-- The sources that layering is described for: every file that is named can be read, and each
source sets fields only in the section, each known one at most once. -/
structure Orderly (sources : SettingsSources) : Prop where
  readable : ∀ name ∈ sources.fileNames, (sources.read name).isOk = true
  orderly : ∀ values ∈ sources.layers, values.Orderly

/-- The value that counts for a field: that of the environment if it assigns one, else that of the
further file, else that of the file that the caller gives. -/
def counting (sources : SettingsSources) (field : String) : Option Setting :=
  (Environment.assigned? field sources.environment).or
    (((sources.valuesOf sources.furtherFile?).assigned? field).or
      ((sources.valuesOf sources.path).assigned? field))

theorem readFiles_toList {name : Option String}
    (readable : ∀ file ∈ name, (sources.read file).isOk = true) (rest : List String)
    (root : Setting) :
    sources.readFiles (name.toList ++ rest) root =
      sources.readFiles rest (root.layer (sources.valuesOf name)) := by
  cases name with
  | none => rfl
  | some name =>
    have read := readable name rfl
    rw [Option.toList_some, List.singleton_append, readFiles, valuesOf]
    cases file : sources.read name with
    | error cause =>
      rw [file] at read
      cases read
    | ok values => rfl

namespace Orderly

variable (h : sources.Orderly)
include h

/-- The tree that the sources are gathered in. -/
theorem gathered_eq :
    sources.gathered = .ok (sources.layers.foldl Setting.layer .emptyTable) := by
  have names : sources.fileNames =
      sources.path.toList ++ (sources.furtherFile?.toList ++ []) := by
    rw [List.append_nil]
    rfl
  have readable := h.readable
  simp only [names, List.append_nil, List.forall_mem_append, Option.mem_toList] at readable
  rw [gathered, names, readFiles_toList readable.1, readFiles_toList readable.2]
  rfl

theorem watchField?_gathered (known : field ∈ WatchOptions.fieldNames) :
    (sources.layers.foldl Setting.layer .emptyTable).watchField? field =
      sources.counting field := by
  have orderly := h.orderly
  simp only [layers, List.forall_mem_cons] at orderly
  have empty : Setting.emptyTable.watchField? field = none := rfl
  simp only [layers, List.foldl_cons, List.foldl_nil]
  rw [Setting.watchField?_layer_of_orderly orderly.2.2.1 known,
    Setting.watchField?_layer_of_orderly orderly.2.1 known,
    Setting.watchField?_layer_of_orderly orderly.1 known, empty, Option.or_none,
    Environment.assigned?_values known, counting]

theorem options_eq_ok_iff {options : WatchOptions} :
    sources.options = .ok options ↔
      Setting.convertOr (Setting.toSize "watch.buffer_size") 1000
          (sources.counting "buffer_size") = .ok options.bufferSize ∧
        Setting.convertOr (Setting.toSize "watch.output_buffer_size") 1
          (sources.counting "output_buffer_size") = .ok options.outputBufferSize ∧
        Setting.convertOr (Setting.toBool "watch.include_existing") false
          (sources.counting "include_existing") = .ok options.includeExisting := by
  -- The members of the gathered tree are layered once more, over an empty one.
  have ordered := Setting.ordered_emptyTable.foldl_layer h.orderly
  have again := Setting.ordered_emptyTable.layer ordered.fits
  have law {field : String} (known : field ∈ WatchOptions.fieldNames) :=
    (ordered.watchField?_again known).trans (h.watchField?_gathered known)
  have stated : sources.options = Setting.convertOr Setting.toSection .standard
      ((Setting.emptyTable.layer
        (sources.layers.foldl Setting.layer .emptyTable).members).member? "watch") := by
    rw [SettingsSources.options, merged, h.gathered_eq]
    rfl
  rw [stated, Setting.convertOr_toSection fun watch present => (again.tables watch present).1,
    Setting.toOptions_eq_ok_iff]
  simp only [← Setting.watchField?.eq_1]
  rw [law (by decide), law (by decide), law (by decide)]
  rfl

end Orderly

theorem load_eq_ok_iff_check {options : WatchOptions} :
    sources.load.1 = .ok options ↔ sources.options = .ok options ∧ options.check = .ok () := by
  rw [load]
  cases sources.options with
  | error cause => simp
  | ok other =>
    simp only [Except.ok.injEq]
    constructor
    · cases checked : other.check with
      | error cause => exact fun loaded => nomatch loaded
      | ok =>
        rintro ⟨⟩
        exact ⟨rfl, checked⟩
    · rintro ⟨rfl, checked⟩
      rw [checked]

/-- Loading succeeds if and only if the three values that count convert and both sizes are possible
for a channel, and what it gives are these values. -/
theorem load_eq_ok_iff (h : sources.Orderly) (options : WatchOptions) :
    sources.load.1 = .ok options ↔
      (Setting.convertOr (Setting.toSize "watch.buffer_size") 1000
          (sources.counting "buffer_size") = .ok options.bufferSize ∧
        Setting.convertOr (Setting.toSize "watch.output_buffer_size") 1
          (sources.counting "output_buffer_size") = .ok options.outputBufferSize ∧
        Setting.convertOr (Setting.toBool "watch.include_existing") false
          (sources.counting "include_existing") = .ok options.includeExisting) ∧
      (1 ≤ options.bufferSize.toNat ∧ options.bufferSize.toNat ≤ channelLimit) ∧
        1 ≤ options.outputBufferSize.toNat ∧ options.outputBufferSize.toNat ≤ channelLimit :=
  load_eq_ok_iff_check.trans (and_congr h.options_eq_ok_iff WatchOptions.check_eq_ok_iff)

/-- Two files, one of them far from the working directory and one beside it, and two variables,
where each field has its value from another source. -/
def threefold : SettingsSources where
  folder := ⟨[("/etc/a.toml", "[WATCH]\nBUFFER_SIZE=9\nINCLUDE_EXISTING=true\n[X]\nY=1"),
    ("/srv/b.toml", "WATCH.OUTPUT_BUFFER_SIZE=7")]⟩
  path := some "/etc/a.toml"
  environment := [("CONFIG_PATH", "../b"), ("PROJECT__WATCH__OUTPUT_BUFFER_SIZE", ""),
    ("PROJECT__WATCH__BUFFER_SIZE", "8")]
  workingDirectory := "/srv/feed"

theorem load_eq_ok_threefold : threefold.Orderly ∧ threefold.load.1 = .ok ⟨8, 7, true⟩ := by
  have orderly : threefold.Orderly := ⟨by decide +kernel, by decide +kernel⟩
  exact ⟨orderly, (load_eq_ok_iff orderly _).mpr (by decide +kernel)⟩

end SettingsSources
end AccessFeed
