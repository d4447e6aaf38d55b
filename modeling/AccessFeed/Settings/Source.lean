import AccessFeed.Failure
import AccessFeed.Number.Reading
import AccessFeed.Settings.KeyPath
import AccessFeed.Toml.Reader

/-! The sources of settings: TOML files, and the variables of the environment. Each gives named
values, which are set one after another in the tree. -/
namespace AccessFeed

/-- The files that can be read, with their texts. A name that starts with a slash means the same
everywhere, any other starts from the working directory. No name here has two dots as a part. -/
structure Folder where
  files : List (String × String)
  deriving Inhabited

/-- The named values of one source. -/
abbrev SourceValues := Entries Setting

namespace Folder

def splitPath : List Char → List (List Char)
  | [] => [[]]
  | char :: rest =>
    match splitPath rest with
    | [] => [[char]]
    | part :: parts => if char = '/' then [] :: part :: parts else (char :: part) :: parts

/-- The parts of a name; empty parts and single dots mean nothing. -/
def parts (name : String) : List String :=
  (splitPath name.toList).map String.ofList |>.filter fun part => part ≠ "" && part ≠ "."

/-- A name that starts with a slash starts from the root. -/
def isAbsolute (name : String) : Bool := name.toList.head? = some '/'

/-- The parts of the way to a name from the root. The working directory is the `base` of names that
are not absolute. -/
def way (base name : String) : List String :=
  if isAbsolute name then parts name else parts base ++ parts name

/-- A directory, which exists because a file or the working directory lies below it, or because it is
the working directory. -/
def hasDirectory (folder : Folder) (base : String) (place : List String) : Bool :=
  place.isPrefixOf (parts base) ||
    folder.files.any fun (name, _) =>
      place.length < (way base name).length && place.isPrefixOf (way base name)

/-- The place that one gets to from a directory. Two dots lead back out of a directory, and at the
root nowhere else. -/
def walk (folder : Folder) (base : String) : List String → List String → Option (List String)
  | place, [] => some place
  | place, part :: rest =>
    if part = ".." then
      if folder.hasDirectory base place then walk folder base place.dropLast rest else none
    else walk folder base (place ++ [part]) rest

/-- The text of a file. -/
def file? (folder : Folder) (base : String) (path : List String) : Option String := do
  let place ← folder.walk base [] path
  (folder.files.find? fun (name, _) => way base name == place).map (·.2)

/-- A name that ends in a slash or a single dot means a directory. -/
def isDirectoryName (name : String) : Bool :=
  match (splitPath name.toList).getLast? with
  | some part => part = [] || part = ['.']
  | none => true

/-- The extension of a file name: what follows the last dot, unless that is its first character. -/
def extension? (name : String) : Option String :=
  let reversed := name.toList.reverse
  match reversed.dropWhile (· ≠ '.') with
  | '.' :: _ :: _ => some (String.ofList (reversed.takeWhile (· ≠ '.')).reverse)
  | _ => none

/-- The extension of settings files. -/
def settingsExtension : String := "toml"

/-- What messages show in place of the working directory where its name does not matter. -/
def rootName : String := "<cwd>"

/-- A name as it is shown after the working directory that it starts from. -/
def shownFrom (base name : String) : String :=
  if isAbsolute name then name
  else if base.toList.getLast? = some '/' then base ++ name
  else base ++ "/" ++ name

/-- The parts of a path as seen from a directory: out of it as far as the two part, and on from
there. -/
def seenFrom : List String → List String → List String
  | [], path => path
  | directory, [] => directory.map fun _ => ".."
  | outer :: directory, part :: path =>
    if outer = part then seenFrom directory path
    else ((outer :: directory).map fun _ => "..") ++ part :: path

/-- What the values of a file are said to come from: its name as seen from the working directory. -/
def originName (base : String) (path : List String) : String :=
  "/".intercalate (seenFrom (parts base) path)

/-- The text of the file of exactly this name. -/
def textOf? (folder : Folder) (base name : String) : Option String :=
  if isDirectoryName name then none else folder.file? base (way base name)

/-- A path after the extension of settings files is appended to its last part. -/
def extended? (path : List String) : Option (List String) :=
  path.getLast?.bind fun last =>
    if last = ".." then none else some (path.dropLast ++ [last ++ "." ++ settingsExtension])

/-- The path ends in the name of a settings file. -/
def isSettingsPath (path : List String) : Bool :=
  path.getLast?.bind extension? = some settingsExtension

/-- The file that a name stands for, as the origin of its values and its text. A file of exactly
this name counts first and must have the extension of settings files; otherwise that is appended. -/
def locate (folder : Folder) (base name : String) : Except SettingsError (String × String) :=
  let path := way base name
  match folder.textOf? base name with
  | some text =>
    if isSettingsPath path then .ok (originName base path, text)
    else .error (.unregisteredFormat (shownFrom base name))
  | none =>
    match (extended? path).bind fun path => (folder.file? base path).map (path, ·) with
    | some (path, text) => .ok (originName base path, text)
    | none => .error (.fileNotFound name)

end Folder

mutual

/-- A value of a file as a setting of that origin. -/
def Setting.ofToml (origin : String) : Toml → Setting
  | .bool value => .scalar (some origin) (.bool value)
  | .integer value => .scalar (some origin) (.integer value)
  | .real value => .scalar (some origin) (.real value)
  | .string value | .moment value => .scalar (some origin) (.text value)
  | .array items => .array (some origin) (ofItems origin items)
  | .tables items => .array (some origin) (ofItems origin items)
  | .table _ entries => .table (some origin) (ofEntries origin entries)

def Setting.ofItems (origin : String) : List Toml → List Setting
  | [] => []
  | item :: rest => Setting.ofToml origin item :: Setting.ofItems origin rest

def Setting.ofEntries (origin : String) : List (String × Toml) → List (String × Setting)
  | [] => []
  | (name, value) :: rest => (name, Setting.ofToml origin value) :: Setting.ofEntries origin rest

end

/-- Reads the file that a name stands for. -/
def Folder.read (folder : Folder) (base name : String) : Except SettingsError SourceValues := do
  let (origin, text) ← folder.locate base name
  match Toml.parse? text with
  | some entries => .ok (Setting.ofEntries origin entries)
  | none => .error .malformed

namespace Environment

/-- The start of the names of variables that are settings, in lower case. -/
def settingStart : List Char := "project__".toList

/-- The origin of values that come from variables. -/
def origin : String := "the environment"

/-- A text in which every pair of underscores is a dot. -/
def dotted : List Char → List Char
  | '_' :: '_' :: rest => '.' :: dotted rest
  | char :: rest => char :: dotted rest
  | [] => []

/-- What the rest of a text is after a given start. -/
def after? : List Char → List Char → Option (List Char)
  | [], rest => some rest
  | _, [] => none
  | first :: start, char :: rest => if first = char then after? start rest else none

/-- The setting that a variable names. Names are compared in lower case. -/
def settingName? (variableName : String) : Option String :=
  (after? settingStart (Text.lowerCase variableName).toList).map fun rest =>
    String.ofList (dotted rest)

/-- The value of a variable: a truth value, else an integer, else a real number, else a text. -/
def scalar (value : String) : Scalar :=
  let lowered := Text.lowerCase value
  if lowered = "true" then .bool true
  else if lowered = "false" then .bool false
  else
    match Number.readInteger? value.toList with
    | some number => .integer number
    | none =>
      match Number.readReal? value.toList with
      | some number => .real number
      | none => .text value

/-- The settings among variables. A variable with an empty value sets nothing. -/
def values (environment : List (String × String)) : SourceValues :=
  environment.filterMap fun (name, value) =>
    if value.isEmpty then none
    else (settingName? name).map fun name => (name, .scalar (some origin) (scalar value))

end Environment

/-- Sets the values of one source in a tree. -/
def Setting.layer (root : Setting) (values : SourceValues) : Setting :=
  values.foldl (fun root (name, value) => Setting.assign (.ofName name) value root) root

end AccessFeed
