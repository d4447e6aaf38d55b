/-! Association lists by name, in which every name is bound once and a new name goes to the end. -/
namespace AccessFeed

/-- Values by name, in the order in which the names were first bound. -/
abbrev Entries (α : Type) := List (String × α)

namespace Entries

variable {α : Type}

/-- The value bound to a name. -/
def value? (entries : Entries α) (name : String) : Option α :=
  (entries.find? (·.1 == name)).map (·.2)

/-- Binds a name, in place of an earlier binding if there is one. -/
def put (name : String) (value : α) : Entries α → Entries α
  | [] => [(name, value)]
  | entry :: rest =>
    if entry.1 == name then (name, value) :: rest else entry :: put name value rest

def erase (entries : Entries α) (name : String) : Entries α := entries.filter (·.1 != name)

@[simp] theorem value?_nil (name : String) : value? ([] : Entries α) name = none := rfl

theorem value?_cons (entry : String × α) (rest : Entries α) (name : String) :
    value? (entry :: rest) name = if entry.1 = name then some entry.2 else value? rest name := by
  by_cases h : entry.1 = name <;> simp [value?, h]

/-- Binding a name changes the value of that name alone. -/
@[simp] theorem value?_put (entries : Entries α) (name other : String) (value : α) :
    value? (put name value entries) other =
      if name = other then some value else value? entries other := by
  induction entries with
  | nil => simp [put, value?_cons]
  | cons entry rest ih =>
    by_cases h : entry.1 = name
    · subst h
      simp only [put, beq_self_eq_true, if_true, value?_cons]
      split <;> rfl
    · simp only [put, beq_iff_eq, if_neg h, value?_cons, ih]
      grind

theorem names_put (name : String) (value : α) (entries : Entries α) :
    (put name value entries).map (·.1) =
      if name ∈ entries.map (·.1) then entries.map (·.1) else entries.map (·.1) ++ [name] := by
  induction entries with
  | nil => rfl
  | cons entry rest ih =>
    by_cases h : entry.1 = name
    · simp [put, h]
    · simp only [put, beq_iff_eq, if_neg h, List.map_cons, ih, List.mem_cons, Ne.symm h, false_or]
      split <;> rfl

/-- Where every name is bound once, the values bound to a name are the one that is found. -/
theorem values_of_nodup {entries : Entries α} (once : (entries.map (·.1)).Nodup) (name : String) :
    (entries.filter (·.1 = name)).map (·.2) = (value? entries name).toList := by
  induction entries with
  | nil => rfl
  | cons entry rest ih =>
    rw [List.map_cons, List.nodup_cons] at once
    by_cases h : entry.1 = name
    · subst h
      have others : rest.filter (·.1 = entry.1) = [] := by
        refine List.filter_eq_nil_iff.mpr fun other member same => once.1 ?_
        exact List.mem_map.mpr ⟨other, member, by simpa using same⟩
      simp [value?_cons, others]
    · simp only [decide_eq_true_eq, h, not_false_eq_true, List.filter_cons_of_neg, value?_cons,
        if_false, ih once.2]

/-- What is collected for a name where every name is bound once. -/
theorem flatMap_of_nodup {β : Type} {entries : Entries α} (once : (entries.map (·.1)).Nodup)
    (name : String) (collect : α → List β) :
    entries.flatMap (fun entry => if entry.1 = name then collect entry.2 else []) =
      (value? entries name).toList.flatMap collect := by
  rw [← values_of_nodup once]
  clear once
  induction entries with
  | nil => rfl
  | cons entry rest ih => by_cases h : entry.1 = name <;> simp [h, ih]

end Entries

end AccessFeed
