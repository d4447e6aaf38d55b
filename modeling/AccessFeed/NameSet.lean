import Std.Data.ExtTreeMap
import Std.Data.ExtTreeSet

/-! Finite sets of names and finite maps keyed by names. Both are extensional: two sets with
the same members are equal, and so are two maps with the same entries. Listing either goes
through the names in increasing code-point order. -/
namespace AccessFeed

/-- A finite set of names. -/
abbrev NameSet := Std.ExtTreeSet String

/-- A finite map from names. -/
abbrev NameMap (α : Type) := Std.ExtTreeMap String α

namespace NameSet

/-- The set holding exactly the names of a list. -/
def ofNames (names : List String) : NameSet :=
  names.foldl (fun set name => set.insert name) ∅

theorem mem_foldl_insert (names : List String) (set : NameSet) (name : String) :
    name ∈ names.foldl (fun set name => set.insert name) set ↔ name ∈ names ∨ name ∈ set := by
  induction names generalizing set with
  | nil => simp
  | cons first rest ih =>
    simp only [List.foldl_cons, ih, Std.ExtTreeSet.mem_insert, List.mem_cons,
      Std.LawfulEqCmp.compare_eq_iff_eq]
    grind

@[simp] theorem mem_ofNames (names : List String) (name : String) :
    name ∈ ofNames names ↔ name ∈ names := by
  simp [ofNames, mem_foldl_insert]

end NameSet

namespace NameMap

/-- The map that binds each name to the last value paired with it in a list. -/
def ofPairs {α : Type} (pairs : List (String × α)) : NameMap α :=
  pairs.foldl (fun map pair => map.insert pair.1 pair.2) ∅

end NameMap

end AccessFeed
