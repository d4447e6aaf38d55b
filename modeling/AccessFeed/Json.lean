/-! JSON values. Numbers keep the decimal they were written as, so that reading one loses
nothing; objects keep their members in the order written, and looking a member up finds the
last one of its name. -/
namespace AccessFeed

/-- A decimal written with a fraction or an exponent: a sign, the digits as one number, and the
power of ten that scales them. -/
structure Decimal where
  negative : Bool
  digits : Nat
  exponent : Int
  deriving DecidableEq, Inhabited

/-- A JSON value. -/
inductive Json where
  | null
  | bool (value : Bool)
  /-- A number written without fraction and exponent. -/
  | integer (value : Int)
  /-- A number written with a fraction or an exponent, or the integer zero with a minus sign. -/
  | real (value : Decimal)
  | string (value : String)
  | array (items : List Json)
  | object (members : List (String × Json))
  deriving Inhabited

namespace Json

/-- The last member of the given name, if the value is an object that has one. -/
def get? (name : String) : Json → Option Json
  | .object members => (members.reverse.find? (·.1 == name)).map (·.2)
  | _ => none

/-- The members of an object that have a value, in the given order. -/
def objectOf (members : List (String × Option Json)) : Json :=
  .object (members.filterMap fun (name, value) => value.map (name, ·))

def strings (values : List String) : Json := .array (values.map .string)

def natural (value : Nat) : Json := .integer value

end Json

end AccessFeed
