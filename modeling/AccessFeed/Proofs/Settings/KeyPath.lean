import Mathlib.Data.List.TakeWhile
import AccessFeed.Proofs.Text.LowerCase
import AccessFeed.Settings.KeyPath

/-! Plain names: what a path begins with is one, its lower case is one again, and a plain name
stands for itself. A path of two names is written with a dot between them. -/
namespace AccessFeed
namespace KeyPath

variable {char lowered : Char} {name text : String} {chars rest : List Char}

/-- A name of letters, digits, blanks, underscores and hyphens, at least one of them. -/
def IsName (name : String) : Prop := name.toList ≠ [] ∧ ∀ char ∈ name.toList, isPlain char = true

theorem toNat_lt_of_isPlain (plain : isPlain char = true) : char.toNat < 128 := by
  have letters : char.isAlphanum =
      ((decide ('A'.val ≤ char.val ∧ char.val ≤ 'Z'.val) ||
        (decide ('a'.val ≤ char.val) && decide (char.val ≤ 'z'.val))) ||
        (decide ('0'.val ≤ char.val) && decide (char.val ≤ '9'.val))) := rfl
  simp only [isPlain, letters, Bool.or_eq_true, decide_eq_true_eq, Bool.and_eq_true,
    UInt32.le_iff_toNat_le] at plain
  change (((((65 ≤ char.toNat ∧ char.toNat ≤ 90) ∨ (97 ≤ char.toNat ∧ char.toNat ≤ 122)) ∨
    (48 ≤ char.toNat ∧ char.toNat ≤ 57)) ∨ char = ' ') ∨ char = '_') ∨ char = '-' at plain
  obtain ((range | rfl) | rfl) | rfl := plain
  · omega
  all_goals decide

theorem parse?_of_isName (plain : IsName name) : parse? name = some ⟨name, []⟩ := by
  have taken : name.toList.takeWhile isPlain = name.toList :=
    List.takeWhile_eq_self_iff.mpr plain.2
  have dropped : name.toList.dropWhile isPlain = [] := List.dropWhile_eq_nil_iff.mpr plain.2
  have read : readName name.toList = some (name, []) := by
    unfold readName
    rw [taken, dropped]
    split
    case h_1 empty => exact absurd empty plain.1
    case h_2 => rw [String.ofList_toList]
  rw [parse?, read]
  rfl

theorem ofName_of_parse? {path : KeyPath} (read : parse? name = some path) :
    ofName name = path := by
  rw [ofName, read, Option.getD_some]

/-- Reading a name takes a plain name off the front of a text. -/
theorem split_of_readName (read : readName chars = some (name, rest)) :
    chars = name.toList ++ rest ∧ IsName name := by
  unfold readName at read
  split at read
  case h_1 => cases read
  case h_2 start some =>
    cases read
    rw [IsName, String.toList_ofList]
    exact ⟨(List.takeWhile_append_dropWhile ..).symm, fun empty => some empty,
      fun _ member => List.mem_takeWhile_imp member⟩

/-- What a path begins with is a plain name. -/
theorem isName_first {path : KeyPath} (read : parse? name = some path) : IsName path.first := by
  simp only [parse?, Option.bind_eq_bind, Option.bind_eq_some_iff, Prod.exists] at read
  obtain ⟨first, rest, start, steps, -, made⟩ := read
  cases made
  exact (split_of_readName start).2

theorem eq_nil_of_readSteps {fuel : Nat} (read : readSteps fuel chars = some []) : chars = [] := by
  unfold readSteps at read
  split at read
  all_goals simp_all [Option.bind_eq_some_iff]

/-- A path of two names is written with a dot between them. -/
theorem toList_of_parse? {first second : String}
    (read : parse? text = some ⟨first, [.member second]⟩) :
    text.toList = first.toList ++ '.' :: second.toList := by
  simp only [parse?, Option.bind_eq_bind, Option.bind_eq_some_iff, Prod.exists] at read
  obtain ⟨name, rest, start, steps, follow, made⟩ := read
  cases made
  rw [(split_of_readName start).1]
  unfold readSteps at follow
  split at follow
  case h_1 => cases follow
  case h_2 => cases follow
  case h_3 =>
    simp only [Option.bind_eq_bind, Option.bind_eq_some_iff, Prod.exists] at follow
    obtain ⟨name, rest, next, steps, last, made⟩ := follow
    cases made
    rw [(split_of_readName next).1, eq_nil_of_readSteps last, List.append_nil]
  case h_4 =>
    simp only [Option.bind_eq_bind, Option.bind_eq_some_iff, Prod.exists] at follow
    obtain ⟨index, rest, next, steps, last, made⟩ := follow
    cases made
  case h_5 => cases follow

theorem isPlain_of_mem_lowerChar (plain : isPlain char = true)
    (member : lowered ∈ Text.lowerChar char) :
    isPlain lowered = true ∧ Text.IsSmall lowered := by
  have ascii := toNat_lt_of_isPlain plain
  have form := Text.form_lowerChar char
  generalize Text.lowerChar char = forms at form member
  cases form with
  | own small =>
    rw [List.mem_singleton.mp member]
    exact ⟨plain, ascii, small⟩
  | letter capital =>
    have letters : ∀ code < 128, 0x41 ≤ code → code ≤ 0x5a →
        isPlain (Char.ofNat (code + 32)) = true ∧ Text.IsSmall (Char.ofNat (code + 32)) := by
      decide
    rw [List.mem_singleton.mp member]
    exact letters _ ascii capital.1 capital.2
  | kelvin | dotted | foreign => omega

/-- Lower-casing plain characters gives plain characters without capital letters. -/
theorem isPlain_of_mem_lowerChars {before chars : List Char}
    (plain : ∀ char ∈ chars, isPlain char = true) (member : lowered ∈ Text.lowerChars before chars) :
    isPlain lowered = true ∧ Text.IsSmall lowered := by
  obtain ⟨char, present, single⟩ | ⟨⟨char, present, sigma⟩, -⟩ :=
    Text.exists_of_mem_lowerChars member
  · exact isPlain_of_mem_lowerChar (plain char present) single
  · exact absurd (toNat_lt_of_isPlain (plain char present)) (by omega)

theorem isName_lowerCase (plain : IsName name) : IsName (Text.lowerCase name) := by
  rw [IsName, Text.toList_lowerCase]
  exact ⟨mt Text.lowerChars_eq_nil plain.1,
    fun char member => (isPlain_of_mem_lowerChars plain.2 member).1⟩

end KeyPath
end AccessFeed
