import AccessFeed.Entries
import AccessFeed.Number.Binary64
import AccessFeed.Text.LowerCase

/-! The tree that settings are merged into. Every value knows the source it came from, if it came
from one as it is; names are in lower case wherever something is set. -/
namespace AccessFeed

/-- A single value of the settings. -/
inductive Scalar where
  /-- A place that was made and never filled. -/
  | unit
  | bool (value : Bool)
  | integer (value : Int)
  | real (value : Binary64)
  | text (value : String)
  deriving DecidableEq, Inhabited

/-- A value of the settings, with its source where that is known. -/
inductive Setting where
  | scalar (origin : Option String) (value : Scalar)
  | array (origin : Option String) (items : List Setting)
  | table (origin : Option String) (entries : List (String × Setting))
  deriving Inhabited

/-- One step of the way to a value. -/
inductive Step where
  /-- The member of a table. -/
  | member (name : String)
  /-- The item of an array; a negative index counts from the end. -/
  | item (index : Int)
  deriving DecidableEq, Inhabited

/-- The way to a value: the name of a top-level member, then further steps. -/
structure KeyPath where
  first : String
  steps : List Step
  deriving DecidableEq, Inhabited

namespace Setting

/-- A place that was made and never filled. -/
def unfilled : Setting := .scalar none .unit

/-- A table without members that belongs to no source. -/
def emptyTable : Setting := .table none []

def members : Setting → Entries Setting
  | .table _ entries => entries
  | _ => []

/-- The value of a member, if this is a table that has it. -/
def member? (setting : Setting) (name : String) : Option Setting :=
  Entries.value? setting.members name

/-- Changes a member of a table, which may be missing. What is not a table is replaced by one. -/
def updateMember (name : String) (change : Option Setting → Setting) : Setting → Setting
  | .table origin entries =>
    let name := Text.lowerCase name
    .table origin (Entries.put name (change (Entries.value? entries name)) entries)
  | _ =>
    let name := Text.lowerCase name
    .table none [(name, change none)]

mutual

/-- What a value becomes when another one is set in its place: a table is merged member by member
into what was there, and anything else replaces it. -/
def merge (incoming : Setting) (present : Option Setting) : Setting :=
  match incoming with
  | .table _ entries => mergeEntries entries (present.getD emptyTable)
  | other => other

/-- Sets the members of a table one after another in a value. -/
def mergeEntries : List (String × Setting) → Setting → Setting
  | [], target => target
  | (name, value) :: rest, target =>
    mergeEntries rest (target.updateMember name (merge value))

end

/-- The position that an index means in an array of the given length. -/
def position (index : Int) (length : Nat) : Nat :=
  if 0 ≤ index then index.toNat else length - index.natAbs

/-- Changes an item of an array; missing items before it are made. What is not an array is replaced
by one. -/
def updateItem (index : Int) (change : Setting → Setting) (setting : Setting) : Setting :=
  let (origin, items) :=
    match setting with
    | .array origin items => (origin, items)
    | _ => (none, [])
  let position := position index items.length
  let items := items ++ List.replicate (position + 1 - items.length) unfilled
  .array origin (items.modify position change)

/-- Changes the value at the end of a way. Missing places on the way are made. -/
def follow (change : Option Setting → Setting) : List Step → Option Setting → Setting
  | [], present => change present
  | .member name :: rest, present =>
    (present.getD unfilled).updateMember name (follow change rest)
  | .item index :: rest, present =>
    (present.getD unfilled).updateItem index fun item => follow change rest (some item)

/-- Sets a value at a path. The item of an array is replaced, and the member of a table merged. -/
def assign (path : KeyPath) (value : Setting) (root : Setting) : Setting :=
  let change :=
    match path.steps.getLast? with
    | some (.item _) => fun _ => value
    | _ => merge value
  root.updateMember path.first (follow change path.steps)

end Setting

end AccessFeed
