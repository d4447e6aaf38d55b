import AccessFeed.Entries
import AccessFeed.Number.Binary64

/-! TOML documents as values, and the rules by which their statements define tables.

A table may be defined once by a header and may be implied by the headers of tables inside it; keys
with dots define tables of their own, which no header may define again. -/
namespace AccessFeed

/-- How a table came to be. -/
inductive TableKind where
  /-- A header of its own. -/
  | header
  /-- The header of a table inside it. -/
  | implied
  /-- A key with dots. -/
  | dotted
  /-- Braces, which nothing outside can extend. -/
  | inline
  deriving DecidableEq, Inhabited

/-- A TOML value. -/
inductive Toml where
  | bool (value : Bool)
  | integer (value : Int)
  | real (value : Binary64)
  | string (value : String)
  /-- A date, a time or both, in canonical form. -/
  | moment (value : String)
  | array (items : List Toml)
  | table (kind : TableKind) (entries : List (String × Toml))
  /-- Tables that are defined one by one under the same header. -/
  | tables (items : List Toml)
  deriving Inhabited

namespace Toml

/-- A header and the assignments below it. The first section of a document has no header. -/
structure Section where
  path : List String
  /-- The header adds a table to those of the same header. -/
  isItem : Bool
  assignments : List (List String × Toml)

/-- Follows a path of tables from the given one and changes the entries of the last table. Missing
tables are made on the way, `dotted` or implied. A path goes through the last of the tables of one
header. A dotted path never goes through a table that has a header. -/
def descend (dotted : Bool) (change : TableKind → Entries Toml → Option (Entries Toml)) :
    List String → TableKind → Entries Toml → Option (Entries Toml)
  | [], kind, entries => change kind entries
  | name :: rest, _, entries =>
    match entries.value? name with
    | none =>
      let kind := if dotted then TableKind.dotted else .implied
      (descend dotted change rest kind []).map fun inner =>
        entries.put name (.table kind inner)
    | some (.table kind inner) =>
      if kind = .inline || (dotted && kind = .header) then none
      else (descend dotted change rest kind inner).map fun inner =>
        entries.put name (.table kind inner)
    | some (.tables items) =>
      match items.getLast? with
      | some (.table kind inner) =>
        (descend dotted change rest kind inner).map fun inner =>
          entries.put name (.tables (items.dropLast ++ [.table kind inner]))
      | _ => none
    | some _ => none

/-- Assigns a value to a key that may have dots. The last table on the way is the given one or was
made by such a key, and the last name is new. -/
def assign (path : List String) (value : Toml) (kind : TableKind) (entries : Entries Toml) :
    Option (Entries Toml) :=
  match path.getLast? with
  | none => none
  | some name =>
    let tables := path.dropLast
    descend true (fun kind entries =>
      if !tables.isEmpty && kind ≠ .dotted then none
      else if (entries.value? name).isSome then none
      else some (entries.put name value)) tables kind entries

/-- Carries out assignments in order. -/
def assignAll (kind : TableKind) : List (List String × Toml) → Entries Toml → Option (Entries Toml)
  | [], entries => some entries
  | (path, value) :: rest, entries => do
    assignAll kind rest (← assign path value kind entries)

/-- Adds a section below the entries of the table that holds the one it defines. The table goes to
the end even if it was implied before. -/
def define (name : String) (isItem : Bool) (assignments : List (List String × Toml))
    (entries : Entries Toml) : Option (Entries Toml) :=
  match isItem, entries.value? name with
  | true, none => do
    let inner ← assignAll .header assignments []
    return entries.put name (.tables [.table .header inner])
  | true, some (.tables items) => do
    let inner ← assignAll .header assignments []
    return entries.put name (.tables (items ++ [.table .header inner]))
  | false, none => do
    let inner ← assignAll .header assignments []
    return entries.put name (.table .header inner)
  | false, some (.table .implied inner) => do
    let inner ← assignAll .header assignments inner
    return (entries.erase name).put name (.table .header inner)
  | _, _ => none

/-- Adds a section to a document. -/
def addSection (part : Section) (entries : Entries Toml) : Option (Entries Toml) :=
  match part.path.getLast? with
  | none => assignAll .header part.assignments entries
  | some name =>
    descend false (fun _ entries => define name part.isItem part.assignments entries)
      part.path.dropLast .header entries

/-- The entries of a document with the given sections. -/
def document : List Section → Entries Toml → Option (Entries Toml)
  | [], entries => some entries
  | part :: rest, entries => do document rest (← addSection part entries)

end Toml

end AccessFeed
