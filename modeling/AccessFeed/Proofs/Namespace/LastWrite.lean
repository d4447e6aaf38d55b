import AccessFeed.Namespace.Directory
import Mathlib.Data.List.Induction

/-! What a directory answers, told from the writes that made it: under a name it holds the object
that was last stored there, unless the name was forgotten since. -/
namespace AccessFeed
namespace Directory

/-- A change of a directory. -/
inductive Write where
  | upsert (object : Namespace)
  | remove (name : String)
  deriving DecidableEq

namespace Write

/-- The name that a write is about. -/
def name : Write → String
  | .upsert object => object.name
  | .remove name => name

/-- What the name of a write holds after it. -/
def value? : Write → Option Namespace
  | .upsert object => some object
  | .remove _ => none

end Write

/-- Carries out a write and gives what it answers. -/
def write (directory : Directory) : Write → Option Namespace × Directory
  | .upsert object => directory.upsert object
  | .remove name => directory.remove name

/-- The directory that writes make of an empty one. -/
def written (writes : List Write) : Directory :=
  writes.foldl (fun directory write => (directory.write write).2) empty

/-- An object was stored under a name, and every later write is as described. -/
def Stored (since : Write → Prop) (writes : List Write) (name : String) (object : Namespace) :
    Prop :=
  ∃ past rest, writes = past ++ .upsert object :: rest ∧ object.name = name ∧
    ∀ write ∈ rest, since write

/-- An object was stored under a name that was not forgotten since. -/
abbrev Stands (writes : List Write) (name : String) (object : Namespace) : Prop :=
  Stored (· ≠ .remove name) writes name object

/-- No later write is about the name under which an object was stored. -/
abbrev IsLast (writes : List Write) (name : String) (object : Namespace) : Prop :=
  Stored (·.name ≠ name) writes name object

variable {directory : Directory} {write : Write} {writes : List Write} {name : String}
  {object : Namespace} {since : Write → Prop}

theorem find_eq_ok_iff : directory.find name = .ok object ↔ directory.get? name = some object := by
  unfold find
  cases directory.get? name <;> simp

theorem toOption_find (directory : Directory) (name : String) :
    (directory.find name).toOption = directory.get? name := by
  unfold find
  cases directory.get? name <;> rfl

/-- A failure to find something is always that it is not there. -/
theorem find_eq_error_iff :
    directory.find name = .error (.notFound name) ↔ ¬∃ object, directory.find name = .ok object := by
  unfold find
  cases directory.get? name <;> simp

theorem get?_write (directory : Directory) (write : Write) (name : String) :
    (directory.write write).2.get? name =
      if write.name = name then write.value? else directory.get? name := by
  cases write with
  | upsert object => exact get?_upsert directory object name
  | remove removed => exact get?_remove directory removed name

theorem answer_write (directory : Directory) (write : Write) :
    (directory.write write).1 = (directory.find write.name).toOption := by
  rw [toOption_find]
  cases write <;> rfl

theorem written_concat (writes : List Write) (write : Write) :
    written (writes ++ [write]) = ((written writes).write write).2 := by
  rw [written, List.foldl_append]
  rfl

theorem not_stored_nil : ¬Stored since [] name object := by
  rintro ⟨past, rest, split, -⟩
  simp at split

/-- One more write stores the object, or it comes after the object was stored. -/
theorem stored_concat :
    Stored since (writes ++ [write]) name object ↔
      write = .upsert object ∧ object.name = name ∨ since write ∧ Stored since writes name object := by
  constructor
  · rintro ⟨past, rest, split, named, later⟩
    obtain rfl | ⟨rest, final, rfl⟩ := rest.eq_nil_or_concat
    · obtain ⟨-, same⟩ := List.append_inj' split rfl
      exact .inl ⟨List.singleton_inj.mp same, named⟩
    · rw [List.concat_eq_append, ← List.cons_append, ← List.append_assoc] at split
      obtain ⟨rfl, same⟩ := List.append_inj' split rfl
      obtain rfl := List.singleton_inj.mp same
      refine .inr ⟨later write (by simp), past, rest, rfl, named, fun other member => ?_⟩
      exact later other (by simp [member])
  · rintro (⟨rfl, named⟩ | ⟨last, past, rest, rfl, named, later⟩)
    · exact ⟨writes, [], rfl, named, by simp⟩
    · refine ⟨past, rest ++ [write], by simp, named, fun other member => ?_⟩
      obtain member | rfl := by simpa using member
      · exact later other member
      · exact last

/-- What a name holds is the object that was last stored under it and not forgotten since. -/
theorem get?_written_eq_some_iff :
    (written writes).get? name = some object ↔ IsLast writes name object := by
  induction writes using List.reverseRecOn with
  | nil => simp [written, not_stored_nil]
  | append_singleton writes write ih =>
    rw [written_concat, get?_write, IsLast, stored_concat]
    split
    · rename_i about
      cases write with
      | upsert other =>
        have named : other.name = name := about
        simp only [Write.value?, Option.some.injEq, Write.upsert.injEq, Write.name, named]
        grind
      | remove removed => simp [Write.value?, about]
    · rename_i aside
      have other : ¬(write = .upsert object ∧ object.name = name) := by
        rintro ⟨rfl, named⟩
        exact aside named
      simp [other, aside, ih]

theorem Stored.mono {stricter : Write → Prop} (h : Stored stricter writes name object)
    (weaker : ∀ write, stricter write → since write) : Stored since writes name object := by
  obtain ⟨past, rest, split, named, later⟩ := h
  exact ⟨past, rest, split, named, fun write member => weaker write (later write member)⟩

/-- Of the objects that stand under a name one was stored last. -/
theorem exists_isLast_iff :
    (∃ object, IsLast writes name object) ↔ ∃ object, Stands writes name object := by
  constructor
  · rintro ⟨object, last⟩
    refine ⟨object, last.mono fun write aside => ?_⟩
    rintro rfl
    exact aside rfl
  · induction writes using List.reverseRecOn with
    | nil => exact fun ⟨object, stands⟩ => absurd stands not_stored_nil
    | append_singleton writes write ih =>
      rintro ⟨object, stands⟩
      obtain ⟨stored, named⟩ | ⟨kept, stands⟩ := stored_concat.mp stands
      · exact ⟨object, stored_concat.mpr (.inl ⟨stored, named⟩)⟩
      · obtain ⟨last, isLast⟩ := ih ⟨object, stands⟩
        by_cases about : write.name = name
        · cases write with
          | upsert other => exact ⟨other, stored_concat.mpr (.inl ⟨rfl, about⟩)⟩
          | remove removed => exact absurd (congrArg Write.remove about) kept
        · exact ⟨last, stored_concat.mpr (.inr ⟨about, isLast⟩)⟩

/-- The names under which a directory holds something. -/
def names (directory : Directory) : List String := directory.entries.keys

theorem mem_names_iff :
    name ∈ directory.names ↔ ∃ object, directory.find name = .ok object := by
  simp only [find_eq_ok_iff, names, Std.ExtTreeMap.mem_keys, get?,
    ← Option.isSome_iff_exists, Std.ExtTreeMap.isSome_getElem?_iff_mem]

/-- A name can be resolved exactly if an object that was stored under it was not forgotten since, and
then it gives the last such object as it was stored; else it is reported as not found. A write
answers what its name gave before and changes the answer for no other name. The size is the number of
the names that can be resolved, and only a directory without any is empty. -/
theorem last_write_wins (writes : List Write) :
    let directory := written writes
    (∀ name, (∃ object, directory.find name = .ok object) ↔ ∃ object, Stands writes name object) ∧
    (∀ name object, directory.find name = .ok object ↔ IsLast writes name object) ∧
    (∀ name, directory.find name = .error (.notFound name) ↔
      ¬∃ object, Stands writes name object) ∧
    (∀ write, (directory.write write).1 = (directory.find write.name).toOption ∧
      ∀ name, name = write.name ∨ (written (writes ++ [write])).find name = directory.find name) ∧
    (∃ names : List String, names.Nodup ∧
      (∀ name, name ∈ names ↔ ∃ object, directory.find name = .ok object) ∧
      directory.size = names.length) ∧
    (directory.isEmpty = true ↔ directory.size = 0) := by
  intro directory
  have found (name : String) (object : Namespace) :
      directory.find name = .ok object ↔ IsLast writes name object :=
    find_eq_ok_iff.trans get?_written_eq_some_iff
  have held (name : String) :
      (∃ object, directory.find name = .ok object) ↔ ∃ object, Stands writes name object := by
    simp only [found, exists_isLast_iff]
  refine ⟨held, found, fun name => ?_, fun write => ⟨answer_write directory write, ?_⟩, ?_, ?_⟩
  · rw [find_eq_error_iff, held]
  · intro name
    by_cases about : write.name = name
    · exact .inl about.symm
    · right
      rw [written_concat, find, get?_write, if_neg about]
      rfl
  · exact ⟨directory.names, Std.ExtTreeMap.nodup_keys, fun name => mem_names_iff,
      Std.ExtTreeMap.length_keys.symm⟩
  · simp [isEmpty, size, Std.ExtTreeMap.isEmpty_eq_size_beq_zero]

example : (written [.upsert (.active "a"), .upsert ((Namespace.active "a").label "k" "v"),
    .remove "a", .upsert (.active "b"), .upsert ((Namespace.active "a").annotate "k" "w")]).find "a" =
      .ok ((Namespace.active "a").annotate "k" "w") := by
  decide

end Directory
end AccessFeed
