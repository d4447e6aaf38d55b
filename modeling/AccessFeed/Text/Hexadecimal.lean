/-! Hexadecimal digits, as escapes inside quoted texts use them. -/
namespace AccessFeed

namespace Text

/-- The lower-case hexadecimal digit of a number below sixteen. -/
def hexDigit (value : Nat) : Char :=
  if value < 10 then Char.ofNat (48 + value) else Char.ofNat (87 + value)

/-- The value of a hexadecimal digit in either case. -/
def hexValue? (char : Char) : Option Nat :=
  if '0' ≤ char && char ≤ '9' then some (char.toNat - 48)
  else if 'a' ≤ char && char ≤ 'f' then some (char.toNat - 87)
  else if 'A' ≤ char && char ≤ 'F' then some (char.toNat - 55)
  else none

theorem hexValue?_hexDigit (value : Nat) (h : value < 16) :
    hexValue? (hexDigit value) = some value := by
  have : ∀ value : Fin 16, hexValue? (hexDigit value) = some value.val := by decide
  exact this ⟨value, h⟩

end Text

end AccessFeed
