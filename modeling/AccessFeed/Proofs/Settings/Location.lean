import AccessFeed.Settings.Source
import Mathlib.Data.List.Nodup

/-! Where settings files are found. A name leads to one place, from the root or from the working
directory, and a file is found wherever it lies; only where no file lies is there none to find. -/
namespace AccessFeed
namespace Folder

variable {folder : Folder} {base name text : String} {path : List String}

/-- A file lies at the place that a path leads to. -/
def Holds (folder : Folder) (base : String) (path : List String) : Prop :=
  ∃ place, folder.walk base [] path = some place ∧ ∃ file ∈ folder.files, way base file.1 = place

/-- No two files lie at the same place. -/
def Distinct (folder : Folder) (base : String) : Prop :=
  (folder.files.map fun file => way base file.1).Nodup

/-- A path without two dots leads straight on. -/
theorem walk_of_straight (straight : ".." ∉ path) (place : List String) :
    folder.walk base place path = some (place ++ path) := by
  induction path generalizing place with
  | nil => rw [walk, List.append_nil]
  | cons part rest ih =>
    rw [List.mem_cons, not_or] at straight
    rw [walk, if_neg (Ne.symm straight.1), ih straight.2, List.append_assoc]
    rfl

theorem file?_eq_none_iff : folder.file? base path = none ↔ ¬ folder.Holds base path := by
  unfold file? Holds
  cases folder.walk base [] path with
  | none => simp
  | some place =>
    simp only [Option.bind_eq_bind, Option.bind_some, Option.map_eq_none_iff, List.find?_eq_none,
      Option.some.injEq, exists_eq_left']
    simp

theorem file?_of_listed (distinct : folder.Distinct base) (listed : (name, text) ∈ folder.files)
    (straight : ".." ∉ way base name) : folder.file? base (way base name) = some text := by
  have first : folder.files.find? (fun file => way base file.1 == way base name) =
      some (name, text) := by
    cases found : folder.files.find? (fun file => way base file.1 == way base name) with
    | none => simpa using List.find?_eq_none.mp found _ listed
    | some file =>
      have same : way base file.1 = way base name := by simpa using List.find?_some found
      rw [List.inj_on_of_nodup_map distinct (List.mem_of_find?_eq_some found) listed same]
  rw [file?, walk_of_straight straight, List.nil_append]
  simp [first]

/-- A name is not found exactly if no file lies at its place, nor after the extension of settings
files is appended. It does not matter whether it is absolute. -/
theorem locate_eq_fileNotFound_iff :
    folder.locate base name = .error (.fileNotFound name) ↔
      (isDirectoryName name = false → ¬ folder.Holds base (way base name)) ∧
        ∀ path, extended? (way base name) = some path → ¬ folder.Holds base path := by
  have unnamed : folder.textOf? base name = none ↔
      (isDirectoryName name = false → ¬ folder.Holds base (way base name)) := by
    rw [← file?_eq_none_iff, textOf?]
    cases isDirectoryName name <;> simp
  rw [← unnamed, locate]
  simp only [← file?_eq_none_iff]
  cases folder.textOf? base name with
  | some text => by_cases settings : isSettingsPath (way base name) <;> simp [settings]
  | none =>
    cases extended? (way base name) with
    | none => simp
    | some path => cases found : folder.file? base path <;> simp [found]

/-- A settings file is found by its own name, absolute or not. -/
theorem locate_of_listed (distinct : folder.Distinct base) (listed : (name, text) ∈ folder.files)
    (straight : ".." ∉ way base name) (plain : isDirectoryName name = false)
    (settings : isSettingsPath (way base name) = true) :
    folder.locate base name = .ok (originName base (way base name), text) := by
  have named : folder.textOf? base name = some text := by
    rw [textOf?, plain]
    exact file?_of_listed distinct listed straight
  rw [locate, named]
  exact if_pos settings

/-- A settings file whose text is in order is read by its own name. -/
theorem isOk_read_of_listed (distinct : folder.Distinct base)
    (listed : (name, text) ∈ folder.files) (straight : ".." ∉ way base name)
    (plain : isDirectoryName name = false) (settings : isSettingsPath (way base name) = true)
    (ordered : (Toml.parse? text).isSome = true) : (folder.read base name).isOk = true := by
  obtain ⟨entries, parsed⟩ := Option.isSome_iff_exists.mp ordered
  rw [read, locate_of_listed distinct listed straight plain settings]
  simp [bind, Except.bind, parsed, Except.isOk, Except.toBool]

end Folder
end AccessFeed
