import AccessFeed.Notice
import AccessFeed.Settings.Source

/-! Loading the options of watches from a file given by the caller, a file named by a variable, and
the environment, each overriding the ones before. -/
namespace AccessFeed

namespace Setting

/-- Numbers in messages about settings: of two equally near the larger one, and never an
exponent. -/
def realStyle : RealStyle := ⟨.larger, none⟩

/-- A value as a message tells it when one of its own kind was expected. -/
def found : Setting → Found
  | .scalar _ .unit => .unit
  | .scalar _ (.bool value) => .bool value
  | .scalar _ (.integer value) => .integer value
  | .scalar _ (.real value) => .real realStyle value
  | .scalar _ (.text value) => .text value
  | .array .. => .sequence
  | .table .. => .map

def origin : Setting → Option String
  | .scalar origin _ | .array origin _ | .table origin _ => origin

def refuse {α : Type} (setting : Setting) (found : Found) (expected key : String) :
    Except SettingsError α :=
  .error (.mismatch ⟨found, expected⟩ key setting.origin)

/-- A number of slots. Truth values count as one and zero, also by name, and numbers with a point
are rounded. -/
def toSize (key : String) (setting : Setting) : Except SettingsError UInt64 :=
  match setting with
  | .scalar _ (.integer value) =>
    if value < 0 then
      setting.refuse (.wideInteger value) "an unsigned 64 bit or less integer" key
    else .ok value.toNat.toUInt64
  | .scalar _ (.bool value) => .ok (if value then 1 else 0)
  | .scalar _ (.real value) => .ok value.toSize
  | .scalar _ (.text value) =>
    let lowered := Text.lowerCase value
    if lowered ∈ ["true", "on", "yes"] then .ok 1
    else if lowered ∈ ["false", "off", "no"] then .ok 0
    else
      match Number.readSize? value.toList with
      | some size => .ok size
      | none => setting.refuse (.text value) "an integer" key
  | _ => setting.refuse setting.found "an integer" key

/-- A truth value. Numbers other than zero count as true, and some words in any case. -/
def toBool (key : String) (setting : Setting) : Except SettingsError Bool :=
  match setting with
  | .scalar _ (.bool value) => .ok value
  | .scalar _ (.integer value) => .ok (value ≠ 0)
  | .scalar _ (.real value) => .ok value.isNonzero
  | .scalar _ (.text value) =>
    let lowered := Text.lowerCase value
    if lowered ∈ ["1", "true", "on", "yes"] then .ok true
    else if lowered ∈ ["0", "false", "off", "no"] then .ok false
    else setting.refuse (.text lowered) "a boolean" key
  | _ => setting.refuse setting.found "a boolean" key

/-- A value that may be absent. -/
def convertOr {α : Type} (convert : Setting → Except SettingsError α) (standard : α) :
    Option Setting → Except SettingsError α
  | some setting => convert setting
  | none => .ok standard

/-- Watch options from their three members, which `key` names in messages. -/
def toOptions (key : String → Nat → String) (member? : String → Nat → Option Setting) :
    Except SettingsError WatchOptions := do
  let standard := WatchOptions.standard
  let size (name : String) (index : Nat) (otherwise : UInt64) :=
    convertOr (toSize (key name index)) otherwise (member? name index)
  let bufferSize ← size "buffer_size" 0 standard.bufferSize
  let outputBufferSize ← size "output_buffer_size" 1 standard.outputBufferSize
  let includeExisting ← convertOr (toBool (key "include_existing" 2)) standard.includeExisting
    (member? "include_existing" 2)
  return ⟨bufferSize, outputBufferSize, includeExisting⟩

/-- The section that holds watch options: a table of members, or an array of them in order. -/
def toSection (setting : Setting) : Except SettingsError WatchOptions :=
  match setting with
  | .table _ entries =>
    toOptions (fun name _ => "watch." ++ name) fun name _ => Entries.value? entries name
  | .array _ items =>
    toOptions (fun _ index => "watch[" ++ toString index ++ "]") fun _ index => items[index]?
  | _ => .error (.notTable ⟨setting.found, "struct WatchConfig"⟩)

end Setting

/-- What settings are loaded from. -/
structure SettingsSources where
  folder : Folder
  /-- The name of a file given by the caller. -/
  path : Option String
  /-- The variables of the environment. -/
  environment : List (String × String)
  /-- The absolute name of the working directory. -/
  workingDirectory : String := Folder.rootName

namespace SettingsSources

/-- The variable that names a further file; its name is taken exactly. -/
def pathVariable : String := "CONFIG_PATH"

/-- The names of the files that are read, in order. -/
def fileNames (sources : SettingsSources) : List String :=
  sources.path.toList ++
    ((sources.environment.find? (·.1 == pathVariable)).map (·.2)).toList

/-- Reads the file that a name stands for in the working directory. -/
def read (sources : SettingsSources) (name : String) : Except SettingsError SourceValues :=
  sources.folder.read sources.workingDirectory name

/-- Reads files one after another into a tree. The first failure counts. -/
def readFiles (sources : SettingsSources) : List String → Setting → Except SettingsError Setting
  | [], root => .ok root
  | name :: rest, root => do readFiles sources rest (root.layer (← sources.read name))

/-- All sources merged into one tree. -/
def gathered (sources : SettingsSources) : Except SettingsError Setting := do
  let root ← sources.readFiles sources.fileNames .emptyTable
  return root.layer (Environment.values sources.environment)

/-- The tree that options are taken from. It holds the members of the gathered tree, whose names,
now in lower case, are read as paths once more: one with a KELVIN SIGN is a path only now. -/
def merged (sources : SettingsSources) : Except SettingsError Setting := do
  return Setting.emptyTable.layer (← sources.gathered).members

/-- The options that the sources state, with the standard ones for the rest, not yet checked. -/
def options (sources : SettingsSources) : Except SettingsError WatchOptions := do
  Setting.convertOr Setting.toSection .standard ((← sources.merged).member? "watch")

/-- Loads options and checks them, with what there is to tell. -/
def load (sources : SettingsSources) : Except SettingsError WatchOptions × List Notice :=
  match sources.options with
  | .error cause => (.error cause, [])
  | .ok options =>
    match options.check with
    | .error cause => (.error cause, [])
    | .ok () => (.ok options, options.warnings ++ [.loaded options])

end SettingsSources

end AccessFeed
