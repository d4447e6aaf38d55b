import AccessFeed.Json.Printer
import AccessFeed.Json.Reader

/-! The parts of a JSON text, read back: quoted texts with their escapes, and numbers. -/
namespace AccessFeed
namespace Number

theorem takeDigits_append {digits rest : List Char} (all : ∀ char ∈ digits, char.isDigit = true)
    (ends : ∀ char ∈ rest.head?, char.isDigit = false) :
    takeDigits (digits ++ rest) = (digits, rest) := by
  have stop : rest.takeWhile Char.isDigit = [] ∧ rest.dropWhile Char.isDigit = rest := by
    cases rest with
    | nil => exact ⟨rfl, rfl⟩
    | cons char rest => simp [ends char rfl]
  rw [takeDigits, List.takeWhile_append_of_pos all, List.dropWhile_append_of_pos all, stop.1,
    stop.2, List.append_nil]

theorem digitsValue_toDigits (value : Nat) : digitsValue (Nat.toDigits 10 value) = value := by
  have same : digitsValue (Nat.toDigits 10 value) =
      Nat.ofDigitChars 10 (Nat.toDigits 10 value) 0 := by
    simp only [digitsValue, Nat.ofDigitChars, Nat.mul_comm]
    rfl
  rw [same, Nat.ofDigitChars_ten_toDigits]

theorem isDigit_of_mem_toDigits {value : Nat} {char : Char}
    (member : char ∈ Nat.toDigits 10 value) : char.isDigit = true :=
  Nat.isDigit_of_mem_toDigits (by decide) (by decide) member

/-- No number but zero is written with a zero in front. -/
theorem head?_toDigits_ne_zero {value : Nat} (pos : 0 < value) :
    (Nat.toDigits 10 value).head? ≠ some '0' := by
  induction value using Nat.strongRecOn with
  | ind value ih =>
    by_cases small : value < 10
    · rw [Nat.toDigits_of_lt_base small, List.head?_cons, ne_eq, Option.some.injEq]
      have digits : ∀ digit : Fin 10, digit.val ≠ 0 → digit.val.digitChar ≠ '0' := by decide
      exact digits ⟨value, small⟩ (Nat.ne_of_gt pos)
    · rw [Nat.toDigits_of_base_le (by decide) (Nat.not_lt.mp small),
        List.head?_append, Option.or_of_isSome (by simp)]
      exact ih (value / 10) (by omega) (by omega)

end Number

namespace Json

/-- A character is written with a letter that stands for it, by its number, or as it is. -/
theorem escape_cases (char : Char) :
    (∃ letter, escape char = ['\\', letter] ∧ letter ≠ 'u' ∧ unescape? letter = some char) ∨
      (char.toNat < 32 ∧ escape char = ['\\', 'u', '0', '0', Text.hexDigit (char.toNat / 16),
        Text.hexDigit (char.toNat % 16)]) ∨
      (char ≠ '"' ∧ char ≠ '\\' ∧ ¬ char.toNat < 32 ∧ escape char = [char]) := by
  have named {letter : Char} (written : escape char = ['\\', letter]) (other : letter ≠ 'u')
      (read : unescape? letter = some char) :
      ∃ letter, escape char = ['\\', letter] ∧ letter ≠ 'u' ∧ unescape? letter = some char :=
    ⟨letter, written, other, read⟩
  by_cases special : char ∈ ['"', '\\', '\x08', '\x0c', '\n', '\r', '\t']
  · left
    simp only [List.mem_cons, List.not_mem_nil, or_false] at special
    obtain rfl | rfl | rfl | rfl | rfl | rfl | rfl := special <;> exact named rfl (by decide) rfl
  · simp only [List.mem_cons, List.not_mem_nil, or_false, not_or] at special
    obtain ⟨quote, backslash, backspace, feed, line, carriage, tab⟩ := special
    right
    unfold escape
    by_cases control : char.toNat < 32
    · exact .inl ⟨control, by simp [*]⟩
    · exact .inr ⟨quote, backslash, control, by simp [*]⟩

/-- A character of a quoted text is read back from the way it is written. -/
theorem readQuoted_escape (char : Char) (rest : List Char) :
    readQuoted .plain (escape char ++ rest) =
      (readQuoted .plain rest).map fun (text, rest) => (char :: text, rest) := by
  obtain ⟨letter, written, other, read⟩ | ⟨control, written⟩ |
    ⟨quote, backslash, printable, written⟩ := escape_cases char
  · rw [written]
    simp [readQuoted, other, read]
  · have high : Text.hexValue? (Text.hexDigit (char.toNat / 16)) = some (char.toNat / 16) :=
      Text.hexValue?_hexDigit _ (by omega)
    have low : Text.hexValue? (Text.hexDigit (char.toNat % 16)) = some (char.toNat % 16) :=
      Text.hexValue?_hexDigit _ (by omega)
    have zero : Text.hexValue? '0' = some 0 := rfl
    have value : char.toNat / 16 * 16 + char.toNat % 16 = char.toNat := by omega
    have closed : closeEscape? char.toNat none = some (.plain, [char]) := by
      have small : ¬ 0xd800 ≤ char.toNat ∧ ¬ 0xdc00 ≤ char.toNat := by omega
      simp [closeEscape?, small, Char.ofNat_toNat]
    rw [written]
    simp [readQuoted, zero, high, low, value, closed]
  · rw [written]
    simp [readQuoted, quote, backslash, printable]

/-- A quoted text is read back, and what follows it is left. -/
theorem readText_quote (text : String) (rest : List Char) :
    readText (text.toList.flatMap escape ++ '"' :: rest) = some (text, rest) := by
  have read (chars : List Char) :
      readQuoted .plain (chars.flatMap escape ++ '"' :: rest) = some (chars, rest) := by
    induction chars with
    | nil => simp [readQuoted]
    | cons char chars ih =>
      rw [List.flatMap_cons, List.append_assoc, readQuoted_escape, ih]
      rfl
  rw [readText, read, Option.map_some]
  dsimp only
  rw [String.ofList_toList]

/-- No number goes on with this text. -/
def Ends (rest : List Char) : Prop :=
  ∀ char ∈ rest.head?, char.isDigit = false ∧ char ≠ '.' ∧ char ≠ 'e' ∧ char ≠ 'E'

variable {rest : List Char}

theorem toList_toString (value : Int) :
    (toString value).toList =
      (if value < 0 then ['-'] else []) ++ Nat.toDigits 10 value.natAbs := by
  rw [Int.toString_eq_repr]
  cases value with
  | ofNat value => simp [Int.repr]
  | negSucc value => simp [Int.repr, Int.negSucc_lt_zero]

theorem exists_toDigits_eq (value : Nat) :
    ∃ char tail, Nat.toDigits 10 value = char :: tail ∧ char.isDigit = true := by
  cases digits : Nat.toDigits 10 value with
  | nil => exact absurd digits Nat.toDigits_ne_nil
  | cons char tail =>
    have first : char ∈ Nat.toDigits 10 value := by simp [digits]
    exact ⟨char, tail, rfl, Number.isDigit_of_mem_toDigits first⟩

theorem takeDigits_toDigits (value : Nat) (ends : ∀ char ∈ rest.head?, char.isDigit = false) :
    Number.takeDigits (Nat.toDigits 10 value ++ rest) = (Nat.toDigits 10 value, rest) :=
  Number.takeDigits_append (fun _ => Number.isDigit_of_mem_toDigits) ends

theorem readFraction_of_ends (ends : ∀ char ∈ rest.head?, char ≠ '.') :
    readFraction rest = some ([], rest) := by
  unfold readFraction
  split
  · exact absurd rfl (ends '.' rfl)
  · rfl

theorem readExponent_of_ends (ends : Ends rest) : readExponent rest = some (none, rest) := by
  unfold readExponent
  split
  all_goals first | rfl | exact absurd rfl (ends _ rfl).2.2.1 | exact absurd rfl (ends _ rfl).2.2.2

theorem exponent_toDigits (ends : Ends rest) (sign : Int) (value : Nat) :
    readExponent.exponent sign (Nat.toDigits 10 value ++ rest) =
      some (some (sign * value), rest) := by
  rw [readExponent.exponent, takeDigits_toDigits value fun char head => (ends char head).1]
  split
  · rename_i none
    exact absurd (congrArg Prod.fst none) Nat.toDigits_ne_nil
  · rename_i same
    obtain ⟨rfl, rfl⟩ := Prod.mk.inj same
    rw [Number.digitsValue_toDigits]

theorem readExponent_toString (ends : Ends rest) (value : Int) :
    readExponent ('e' :: ((toString value).toList ++ rest)) = some (some value, rest) := by
  rw [toList_toString]
  split
  · rename_i negative
    have read := exponent_toDigits ends (-1) value.natAbs
    have same : -1 * (value.natAbs : Int) = value := by omega
    rw [same] at read
    exact read
  · rename_i positive
    have read := exponent_toDigits ends 1 value.natAbs
    have same : 1 * (value.natAbs : Int) = value := by omega
    rw [same] at read
    obtain ⟨char, tail, digits, digit⟩ := exists_toDigits_eq value.natAbs
    rw [digits] at read ⊢
    rw [List.nil_append, List.cons_append] at *
    unfold readExponent
    split <;> simp_all

/-- What follows the digits of a number decides what the number is. -/
theorem readUnsigned_toDigits (negative : Bool) (value : Nat)
    (ends : ∀ char ∈ rest.head?, char.isDigit = false ∧ char ≠ '.') :
    readUnsigned negative (Nat.toDigits 10 value ++ rest) =
      (readExponent rest).map fun (exponent, rest) =>
        match exponent with
        | none =>
          (if negative && value = 0 then .real ⟨true, 0, 0⟩
            else .integer (if negative then -value else value), rest)
        | some exponent => (.real ⟨negative, value, exponent⟩, rest) := by
  rw [readUnsigned, takeDigits_toDigits value fun char head => (ends char head).1]
  split
  · rename_i none
    exact absurd (congrArg Prod.fst none) Nat.toDigits_ne_nil
  · rename_i zero
    have zero := congrArg Prod.fst zero
    dsimp only at zero
    cases value with
    | zero => simp at zero
    | succ value =>
      exact absurd (by rw [zero]; rfl) (Number.head?_toDigits_ne_zero value.succ_pos)
  · rename_i same
    obtain ⟨rfl, rfl⟩ := Prod.mk.inj same
    rw [readFraction_of_ends fun char head => (ends char head).2]
    simp only [Option.bind_eq_bind, Option.bind_some]
    cases readExponent rest with
    | none => rfl
    | some found =>
      obtain ⟨exponent, rest⟩ := found
      cases exponent with
      | none =>
        simp only [Number.digitsValue_toDigits, List.isEmpty_nil, Option.map_some]
        split <;> rfl
      | some exponent => simp [Number.digitsValue_toDigits]

/-- The sign of a number is read apart from its digits. -/
theorem readNumber_toDigits (negative : Bool) (value : Nat) (rest : List Char) :
    readNumber ((if negative then ['-'] else []) ++ Nat.toDigits 10 value ++ rest) =
      readUnsigned negative (Nat.toDigits 10 value ++ rest) := by
  cases negative with
  | true => rfl
  | false =>
    obtain ⟨char, tail, digits, digit⟩ := exists_toDigits_eq value
    rw [digits]
    simp only [Bool.false_eq_true, if_false, List.nil_append, List.cons_append]
    unfold readNumber
    split
    · simp_all
    · rfl

/-- A whole number is read back. -/
theorem readNumber_integer (ends : Ends rest) (value : Int) :
    readNumber ((toString value).toList ++ rest) = some (.integer value, rest) := by
  have read := readNumber_toDigits (decide (value < 0)) value.natAbs rest
  rw [readUnsigned_toDigits _ _ fun char head => ⟨(ends char head).1, (ends char head).2.1⟩,
    readExponent_of_ends ends] at read
  simp only [decide_eq_true_eq] at read
  rw [toList_toString, read]
  have value_eq : (if value < 0 then -(value.natAbs : Int) else value.natAbs) = value := by
    split <;> omega
  have nonzero : ¬ (decide (value < 0) && decide (value.natAbs = 0)) = true := by
    simp only [Bool.and_eq_true, decide_eq_true_eq]
    omega
  simp only [Option.map_some, if_neg nonzero, value_eq]

/-- A number with an exponent is read back. -/
theorem readNumber_real (ends : Ends rest) (value : Decimal) :
    readNumber (decimalText value ++ rest) = some (.real value, rest) := by
  have read := readNumber_toDigits value.negative value.digits
    ('e' :: ((toString value.exponent).toList ++ rest))
  rw [readUnsigned_toDigits _ _ (by simp), readExponent_toString ends] at read
  simpa [decimalText] using read

end Json
end AccessFeed
