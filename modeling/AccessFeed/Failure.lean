import AccessFeed.Mismatch

/-! Everything that can go wrong, by cause. Failures are scoped to one feed or to one loading of
settings; `Failure.message` gives the text of each. -/
namespace AccessFeed

/-- Why a namespace could not be resolved. -/
inductive LookupError where
  | notFound (name : String)
  /-- The directory could not answer. -/
  | unavailable (reason : String)
  deriving DecidableEq, Inhabited

/-- The kind of event that met a full intake. It is the terminal error of the feed. -/
inductive Overflow where
  | addition
  | deletion
  deriving DecidableEq, Inhabited

/-- Why a feed could not be opened, or ended with an error. -/
inductive WatchError where
  | overflow (kind : Overflow)
  /-- The visible namespaces of a subscriber could not be listed. -/
  | listFailed (user reason : String)
  /-- There is nothing to run a relay on. -/
  | runtimeUnavailable (reason : String)
  deriving DecidableEq, Inhabited

/-- Why settings could not be loaded or are refused. -/
inductive SettingsError where
  | frozen
  | propertyNotFound (key : String)
  /-- A channel without a single slot. -/
  | emptyChannel (key : String)
  /-- A channel with more slots than any channel can have. -/
  | oversizedChannel (key : String) (size : UInt64)
  | fileNotFound (name : String)
  | unregisteredFormat (path : String)
  /-- A file that is not well formed. -/
  | malformed
  /-- A value of the wrong kind under a key, with the source it came from if that is known. -/
  | mismatch (cause : Mismatch) (key : String) (origin : Option String)
  /-- A section that is not a table. -/
  | notTable (cause : Mismatch)
  /-- A refusal in the words of another party. -/
  | reported (text : String)
  deriving DecidableEq, Inhabited

inductive Failure where
  | settings (cause : SettingsError)
  | watch (cause : WatchError)
  | lookup (cause : LookupError)
  deriving DecidableEq, Inhabited

def LookupError.message : LookupError → String
  | .notFound name => "namespace \"" ++ name ++ "\" not found"
  | .unavailable reason => "namespace lookup unavailable: " ++ reason

namespace Overflow

def message : Overflow → String
  | .addition => "add notification timeout"
  | .deletion => "delete notification timeout"

/-- The label under which the overflow is counted. -/
def label : Overflow → String
  | .addition => "add"
  | .deletion => "delete"

end Overflow

def WatchError.message : WatchError → String
  | .overflow kind => kind.message
  | .listFailed user reason => "failed to list namespaces for user " ++ user ++ ": " ++ reason
  | .runtimeUnavailable reason => "no async runtime available: " ++ reason

/-- The most slots a channel can have. -/
def channelLimit : Nat := Nat.pow 2 61 - 1

/-- The text of refused settings; a file that is not well formed has none of its own. -/
def SettingsError.message : SettingsError → String
  | .frozen => "configuration is frozen"
  | .propertyNotFound key => "configuration property " ++ Text.quoted key ++ " not found"
  | .emptyChannel key => key ++ " must be greater than 0"
  | .oversizedChannel key size =>
    key ++ " (" ++ toString size ++ ") exceeds the channel limit of " ++ toString channelLimit
  | .fileNotFound name => "configuration file \"" ++ name ++ "\" not found"
  | .unregisteredFormat path =>
    "configuration file \"" ++ path ++ "\" is not of a registered file format"
  | .malformed => ""
  | .mismatch cause key origin =>
    cause.message ++ " for key `" ++ key ++ "`" ++ (origin.map (" in " ++ ·)).getD ""
  | .notTable cause => cause.message
  | .reported text => text

def Failure.message : Failure → String
  | .settings cause => cause.message
  | .watch cause => cause.message
  | .lookup cause => cause.message

end AccessFeed
