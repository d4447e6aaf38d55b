import AccessFeed.Json.Printer
import AccessFeed.WatchOptions

/-! The JSON form of watch options, alone and as a section of settings. They are written as an
object. They are read from an object, where absent members take their standard values and unknown
ones are ignored, or from an array that holds the first members in their order. -/
namespace AccessFeed

/-- Why a JSON value is no settings. -/
inductive DecodeError where
  | mismatch (cause : Mismatch)
  /-- A negative number of slots. -/
  | negative (value : Int)
  /-- An array with more items than there are members. -/
  | tooLong (length : Nat)
  deriving DecidableEq, Inhabited

/-- The text of an unreadable value. -/
def DecodeError.message : DecodeError → String
  | .mismatch cause => cause.message
  | .negative value => "invalid value: integer `" ++ toString value ++ "`, expected usize"
  | .tooLong length =>
    "invalid length " ++ toString length ++ ", expected fewer elements in array"

namespace Json

/-- An integer that 64 bits can hold, with or without a sign. -/
def isWide (value : Int) : Bool := -Int.pow 2 63 ≤ value && value < Int.pow 2 64

/-- Numbers in messages about JSON: of two equally near the even one, and an exponent from ten to
the sixteenth on and below a hundred-thousandth. -/
def realStyle : RealStyle := ⟨.even, some (-4, 16)⟩

/-- A value as a message tells it. An integer that 64 bits cannot hold counts as a number with a
point. -/
def found : Json → Found
  | .null => .null
  | .bool value => .bool value
  | .integer value =>
    if isWide value then .integer value
    else .real realStyle (.ofLeadingDigits ⟨value < 0, value.natAbs, 0⟩)
  | .real value => .real realStyle (.ofLeadingDigits value)
  | .string value => .text value
  | .array _ => .sequence
  | .object _ => .map

/-- The refusal of a value where another kind is expected. -/
def refuse {α : Type} (value : Json) (expected : String) : Except DecodeError α :=
  .error (.mismatch ⟨value.found, expected⟩)

def decodeSize (value : Json) : Except DecodeError UInt64 :=
  match value with
  | .integer number =>
    if !isWide number then value.refuse "usize"
    else if number < 0 then .error (.negative number)
    else .ok number.toNat.toUInt64
  | _ => value.refuse "usize"

def decodeBool (value : Json) : Except DecodeError Bool :=
  match value with
  | .bool flag => .ok flag
  | _ => value.refuse "a boolean"

/-- A value that may be absent. -/
def decodeOr {α : Type} (decode : Json → Except DecodeError α) (standard : α) :
    Option Json → Except DecodeError α
  | some value => decode value
  | none => .ok standard

end Json

namespace WatchOptions

def json (options : WatchOptions) : Json :=
  .object [
    ("buffer_size", .natural options.bufferSize.toNat),
    ("output_buffer_size", .natural options.outputBufferSize.toNat),
    ("include_existing", .bool options.includeExisting)]

/-- Options from members that may be absent, each read once; they are read in the order of the
names, so the first fault in that order is the one reported. -/
def ofMembers (member? : String → Option Json) : Except DecodeError WatchOptions := do
  let bufferSize ← Json.decodeOr Json.decodeSize standard.bufferSize (member? "buffer_size")
  let includeExisting ←
    Json.decodeOr Json.decodeBool standard.includeExisting (member? "include_existing")
  let outputBufferSize ←
    Json.decodeOr Json.decodeSize standard.outputBufferSize (member? "output_buffer_size")
  return ⟨bufferSize, outputBufferSize, includeExisting⟩

/-- Options from a list of their members in order. A fault of a member is reported before a list
that is too long. -/
def ofItems (items : List Json) : Except DecodeError WatchOptions := do
  let bufferSize ← Json.decodeOr Json.decodeSize standard.bufferSize items[0]?
  let outputBufferSize ← Json.decodeOr Json.decodeSize standard.outputBufferSize items[1]?
  let includeExisting ← Json.decodeOr Json.decodeBool standard.includeExisting items[2]?
  if 3 < items.length then .error (.tooLong items.length)
  else .ok ⟨bufferSize, outputBufferSize, includeExisting⟩

def ofJson (value : Json) : Except DecodeError WatchOptions :=
  match value with
  | .object _ => ofMembers fun name => value.get? name
  | .array items => ofItems items
  | _ => value.refuse "struct WatchConfig"

/-- Reads settings, whose only section is the options of watches. -/
def ofSettingsJson (value : Json) : Except DecodeError WatchOptions :=
  match value with
  | .object _ => Json.decodeOr ofJson standard (value.get? "watch")
  | .array items => do
    let options ← Json.decodeOr ofJson standard items[0]?
    if 1 < items.length then .error (.tooLong items.length) else .ok options
  | _ => value.refuse "struct Settings"

end WatchOptions

end AccessFeed
