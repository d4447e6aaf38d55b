import AccessFeed.Number.Shortest
import AccessFeed.Text.Quoted

/-! How a message names a value that was found where another kind of value is needed. -/
namespace AccessFeed

/-- A value that was found, as far as a message tells it. -/
inductive Found where
  | null
  /-- A place that was made for a value and never filled. -/
  | unit
  | bool (value : Bool)
  | integer (value : Int)
  /-- An integer that a setting holds in 64 bits. -/
  | wideInteger (value : Int)
  /-- A number with a point, shown in a style. -/
  | real (style : RealStyle) (value : Binary64)
  | text (value : String)
  | sequence
  | map
  deriving DecidableEq, Inhabited

namespace Found

def describe : Found → String
  | .null => "null"
  | .unit => "unit value"
  | .bool value => "boolean `" ++ toString value ++ "`"
  | .integer value => "integer `" ++ toString value ++ "`"
  | .wideInteger value => "64-bit integer `" ++ toString value ++ "`"
  | .real style value => "floating point `" ++ value.text style ++ "`"
  | .text value => "string " ++ Text.quoted value
  | .sequence => "sequence"
  | .map => "map"

end Found

/-- A value of the wrong kind, beside the words for the kind that is needed. -/
structure Mismatch where
  found : Found
  expected : String
  deriving DecidableEq, Inhabited

namespace Mismatch

def message (mismatch : Mismatch) : String :=
  "invalid type: " ++ mismatch.found.describe ++ ", expected " ++ mismatch.expected

end Mismatch

end AccessFeed
