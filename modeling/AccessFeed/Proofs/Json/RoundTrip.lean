import AccessFeed.Proofs.Json.Lexeme

/-! A JSON value is read back from its compact text.

The fuel of the reader is spent on parts of a value, of which there are fewer than characters, so
twice the length of the text is enough. -/
namespace AccessFeed
namespace Json

variable {fuel : Nat} {char : Char} {rest : List Char} {value : Json} {items : List Json}
  {members : List (String × Json)}

theorem skipBlanks_cons (h : isBlank char = false) (rest : List Char) :
    skipBlanks (char :: rest) = char :: rest := by
  simp [skipBlanks, h]

/-- The first character of a number is a digit or a minus sign. -/
theorem exists_number_eq (negative : Bool) (digits : Nat) (rest : List Char) :
    ∃ char tail, (if negative then ['-'] else []) ++ Nat.toDigits 10 digits ++ rest =
      char :: tail ∧ (char.isDigit = true ∨ char = '-') := by
  cases negative with
  | true => exact ⟨'-', _, rfl, .inr rfl⟩
  | false =>
    obtain ⟨char, tail, same, digit⟩ := exists_toDigits_eq digits
    exact ⟨char, tail ++ rest, by simp [same], .inl digit⟩

theorem exists_integer_eq (value : Int) :
    ∃ char tail, (toString value).toList = char :: tail ∧ (char.isDigit = true ∨ char = '-') := by
  have written := exists_number_eq (decide (value < 0)) value.natAbs []
  rw [toList_toString]
  simpa only [decide_eq_true_eq, List.append_nil] using written

theorem exists_real_eq (value : Decimal) :
    ∃ char tail, decimalText value = char :: tail ∧ (char.isDigit = true ∨ char = '-') := by
  have written := exists_number_eq value.negative value.digits
    ('e' :: (toString value.exponent).toList)
  unfold decimalText
  rw [Nat.toString_eq_repr, Nat.toList_repr]
  exact written

theorem isBlank_of_number (start : char.isDigit = true ∨ char = '-') :
    isBlank char = false ∧ char ≠ ']' := by
  obtain digit | rfl := start
  · refine ⟨?_, by rintro rfl; cases digit⟩
    cases blank : isBlank char with
    | false => rfl
    | true =>
      simp only [isBlank, Bool.or_eq_true, decide_eq_true_eq] at blank
      obtain ((rfl | rfl) | rfl) | rfl := blank <;> cases digit
  · decide

theorem ends_of_punctuation (h : char = ',' ∨ char = ']' ∨ char = '\x7d') (rest : List Char) :
    Ends (char :: rest) := by
  intro other head
  obtain rfl := Option.some.inj head
  obtain rfl | rfl | rfl := h <;> decide

/-- A value is read back where no number goes on, and what follows it is left. -/
def IsReadBack (value : Json) : Prop :=
  ∀ fuel rest, 2 * value.chars.length < fuel → Ends rest →
    readValue fuel (value.chars ++ rest) = some (value, rest)

/-- Items are read back up to the bracket that closes them. -/
def AreReadBack (items : List Json) : Prop :=
  items ≠ [] → ∀ fuel rest, 2 * (itemChars items).length + 1 < fuel →
    readItems fuel (itemChars items ++ ']' :: rest) = some (items, rest)

/-- Members are read back up to the brace that closes them. -/
def MembersAreReadBack (members : List (String × Json)) : Prop :=
  members ≠ [] → ∀ fuel rest, 2 * (memberChars members).length + 1 < fuel →
    readMembers fuel (memberChars members ++ '\x7d' :: rest) = some (members, rest)

theorem itemChars_cons (more : items ≠ []) (item : Json) :
    itemChars (item :: items) = item.chars ++ ',' :: itemChars items := by
  cases items with
  | nil => exact absurd rfl more
  | cons => rfl

theorem memberChars_cons (more : members ≠ []) (name : String) (value : Json) :
    memberChars ((name, value) :: members) =
      quote name ++ ':' :: value.chars ++ ',' :: memberChars members := by
  cases members with
  | nil => exact absurd rfl more
  | cons => rfl

/-- The first character of a value is neither blank nor closes an array. -/
theorem exists_chars_eq (value : Json) :
    ∃ char tail, value.chars = char :: tail ∧ isBlank char = false ∧ char ≠ ']' := by
  have number {text : List Char}
      (written : ∃ char tail, text = char :: tail ∧ (char.isDigit = true ∨ char = '-')) :
      ∃ char tail, text = char :: tail ∧ isBlank char = false ∧ char ≠ ']' := by
    obtain ⟨char, tail, same, start⟩ := written
    exact ⟨char, tail, same, isBlank_of_number start⟩
  cases value with
  | null => exact ⟨'n', _, rfl, by decide, by decide⟩
  | bool value => cases value <;> exact ⟨_, _, rfl, by decide, by decide⟩
  | integer value => exact number (exists_integer_eq value)
  | real value => exact number (exists_real_eq value)
  | string value => exact ⟨'"', _, rfl, by decide, by decide⟩
  | array items => exact ⟨'[', _, rfl, by decide, by decide⟩
  | object members => exact ⟨'\x7b', _, rfl, by decide, by decide⟩

theorem exists_itemChars_eq (nonempty : items ≠ []) :
    ∃ char tail, itemChars items = char :: tail ∧ isBlank char = false ∧ char ≠ ']' := by
  cases items with
  | nil => exact absurd rfl nonempty
  | cons item items =>
    obtain ⟨char, tail, written, plain⟩ := exists_chars_eq item
    by_cases last : items = []
    · subst last
      exact ⟨char, tail, written, plain⟩
    · rw [itemChars_cons last, written]
      exact ⟨char, _, rfl, plain⟩

theorem exists_memberChars_eq (nonempty : members ≠ []) :
    ∃ tail, memberChars members = '"' :: tail := by
  cases members with
  | nil => exact absurd rfl nonempty
  | cons member members => cases members <;> exact ⟨_, rfl⟩

theorem readValue_number (start : char.isDigit = true ∨ char = '-') (text : List Char) :
    readValue (fuel + 1) (char :: text) = readNumber (char :: text) := by
  unfold readValue
  rw [skipBlanks_cons (isBlank_of_number start).1]
  split
  case h_7 => rfl
  all_goals
    rename_i same
    obtain ⟨rfl, -⟩ := List.cons.inj same
    obtain digit | minus := start
    · cases digit
    · cases minus

theorem isReadBack_number {text : List Char} (written : value.chars = text)
    (start : ∃ char tail, text = char :: tail ∧ (char.isDigit = true ∨ char = '-'))
    (read : ∀ rest, Ends rest → readNumber (text ++ rest) = some (value, rest)) :
    IsReadBack value := by
  intro fuel rest enough ends
  rw [written] at enough ⊢
  cases fuel with
  | zero => omega
  | succ fuel =>
    obtain ⟨char, tail, rfl, start⟩ := start
    rw [List.cons_append, readValue_number start]
    exact read rest ends

theorem readValue_bracket (fuel : Nat) (rest : List Char) :
    readValue (fuel + 1) ('[' :: rest) =
      match skipBlanks rest with
      | ']' :: rest => some (.array [], rest)
      | rest => (readItems fuel rest).map fun (items, rest) => (.array items, rest) := by
  rw [readValue, skipBlanks_cons (by decide)]
  rfl

theorem readValue_brace (fuel : Nat) (rest : List Char) :
    readValue (fuel + 1) ('\x7b' :: rest) =
      match skipBlanks rest with
      | '\x7d' :: rest => some (.object [], rest)
      | rest => (readMembers fuel rest).map fun (members, rest) => (.object members, rest) := by
  rw [readValue, skipBlanks_cons (by decide)]
  rfl

theorem isReadBack_array (h : AreReadBack items) : IsReadBack (.array items) := by
  intro fuel rest enough ends
  cases fuel with
  | zero => omega
  | succ fuel =>
    simp only [chars, List.cons_append, List.length_cons, List.length_append, List.append_assoc,
      List.nil_append, List.length_nil] at enough ⊢
    rw [readValue_bracket]
    by_cases empty : items = []
    · subst empty
      rfl
    · have read := h empty fuel rest (by omega)
      obtain ⟨char, tail, written, plain, inside⟩ := exists_itemChars_eq empty
      rw [written, List.cons_append] at read ⊢
      rw [skipBlanks_cons plain]
      split
      · rename_i same
        exact absurd (List.cons.inj same).1 inside
      · rw [read]
        rfl

theorem isReadBack_object (h : MembersAreReadBack members) : IsReadBack (.object members) := by
  intro fuel rest enough ends
  cases fuel with
  | zero => omega
  | succ fuel =>
    simp only [chars, List.cons_append, List.length_cons, List.length_append, List.append_assoc,
      List.nil_append, List.length_nil] at enough ⊢
    rw [readValue_brace]
    by_cases empty : members = []
    · subst empty
      rfl
    · have read := h empty fuel rest (by omega)
      obtain ⟨tail, written⟩ := exists_memberChars_eq empty
      rw [written, List.cons_append] at read ⊢
      rw [skipBlanks_cons (by decide)]
      simp [read]

theorem areReadBack_cons {item : Json} (h : IsReadBack item) (others : AreReadBack items) :
    AreReadBack (item :: items) := by
  intro _ fuel rest enough
  cases fuel with
  | zero => omega
  | succ fuel =>
    by_cases last : items = []
    · subst last
      rw [itemChars] at enough ⊢
      have read := h fuel (']' :: rest) (by omega) (ends_of_punctuation (by simp) rest)
      rw [readItems, read]
      rfl
    · rw [itemChars_cons last] at enough ⊢
      simp only [List.length_append, List.length_cons] at enough
      have read := h fuel (',' :: (itemChars items ++ ']' :: rest)) (by omega)
        (ends_of_punctuation (by simp) _)
      have further := others last fuel rest (by omega)
      rw [List.append_assoc, List.cons_append, readItems, read, Option.bind_eq_bind,
        Option.bind_some]
      dsimp only
      rw [skipBlanks_cons (by decide)]
      simp [further]

theorem readMembers_quote (fuel : Nat) (name : String) (rest : List Char) :
    readMembers (fuel + 1) (quote name ++ ':' :: rest) =
      (readValue fuel rest).bind fun (value, rest) =>
        match skipBlanks rest with
        | ',' :: rest =>
          (readMembers fuel rest).map fun (members, rest) => ((name, value) :: members, rest)
        | '\x7d' :: rest => some ([(name, value)], rest)
        | _ => none := by
  have written : quote name ++ ':' :: rest =
      '"' :: (name.toList.flatMap escape ++ '"' :: ':' :: rest) := by
    simp [quote]
  rw [written, readMembers, skipBlanks_cons (by decide)]
  simp only [readText_quote, Option.bind_eq_bind, Option.bind_some]
  rw [skipBlanks_cons (by decide)]
  rfl

theorem membersAreReadBack_cons {name : String} (h : IsReadBack value)
    (others : MembersAreReadBack members) : MembersAreReadBack ((name, value) :: members) := by
  intro _ fuel rest enough
  cases fuel with
  | zero => omega
  | succ fuel =>
    by_cases last : members = []
    · subst last
      simp only [memberChars, List.length_append, List.length_cons] at enough ⊢
      have read := h fuel ('\x7d' :: rest) (by omega) (ends_of_punctuation (by simp) rest)
      rw [List.append_assoc, List.cons_append, readMembers_quote, read]
      rfl
    · rw [memberChars_cons last] at enough ⊢
      simp only [List.length_append, List.length_cons] at enough
      have read := h fuel (',' :: (memberChars members ++ '\x7d' :: rest)) (by omega)
        (ends_of_punctuation (by simp) _)
      have further := others last fuel rest (by omega)
      simp only [List.append_assoc, List.cons_append]
      rw [readMembers_quote, read, Option.bind_some]
      dsimp only
      rw [skipBlanks_cons (by decide)]
      simp [further]

theorem isReadBack_plain {text : List Char} (written : value.chars = text)
    (read : ∀ fuel rest, readValue (fuel + 1) (text ++ rest) = some (value, rest)) :
    IsReadBack value := by
  intro fuel rest enough _
  cases fuel with
  | zero => omega
  | succ fuel => exact written ▸ read fuel rest

theorem isReadBack_string (text : String) : IsReadBack (.string text) := by
  refine isReadBack_plain (by rw [chars]) fun fuel rest => ?_
  have written : quote text ++ rest = '"' :: (text.toList.flatMap escape ++ '"' :: rest) := by
    simp [quote]
  rw [written, readValue, skipBlanks_cons (by decide)]
  simp [readText_quote]

/-- Every value is read back. -/
theorem isReadBack (value : Json) : IsReadBack value := by
  refine chars.induct IsReadBack MembersAreReadBack AreReadBack ?null ?true ?false ?integer ?real
    isReadBack_string (fun _ => isReadBack_array) (fun _ => isReadBack_object)
    (fun none => absurd rfl none) (fun _ h => areReadBack_cons h fun none => absurd rfl none)
    (fun _ _ _ => areReadBack_cons) (fun none => absurd rfl none)
    (fun _ _ h => membersAreReadBack_cons h fun none => absurd rfl none)
    (fun _ _ _ _ => membersAreReadBack_cons) value
  case null => exact isReadBack_plain rfl fun _ _ => rfl
  case true => exact isReadBack_plain rfl fun _ _ => rfl
  case false => exact isReadBack_plain rfl fun _ _ => rfl
  case integer =>
    intro value
    exact isReadBack_number (by rw [chars]) (exists_integer_eq value) fun rest ends =>
      readNumber_integer ends value
  case real =>
    intro value
    exact isReadBack_number (by rw [chars]) (exists_real_eq value) fun rest ends =>
      readNumber_real ends value

/-- Reading the compact text of a value gives the value. -/
theorem parse?_compact (value : Json) : parse? value.compact = some value := by
  have enough : 2 * value.chars.length < 2 * value.compact.length + 2 := by
    rw [compact, String.length_ofList]
    omega
  have read := value.isReadBack _ [] enough (by simp [Ends])
  rw [List.append_nil] at read
  rw [parse?, compact, String.toList_ofList, ← compact, read]
  rfl

end Json
end AccessFeed
