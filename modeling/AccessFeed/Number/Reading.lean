import AccessFeed.Number.Binary64

/-! Reading numbers from text: whole numbers with a sign, and real numbers with a point or an
exponent, or by their special names. -/
namespace AccessFeed

namespace Number

/-- The number that a list of decimal digits stands for. -/
def digitsValue (digits : List Char) : Nat :=
  digits.foldl (fun value digit => value * 10 + (digit.toNat - 48)) 0

/-- Splits a text after its leading decimal digits. -/
def takeDigits (text : List Char) : List Char × List Char :=
  (text.takeWhile Char.isDigit, text.dropWhile Char.isDigit)

/-- Splits off a sign, if there is one: whether it is a minus sign, and the rest. -/
def takeSign : List Char → Bool × List Char
  | '-' :: rest => (true, rest)
  | '+' :: rest => (false, rest)
  | text => (false, text)

def signed (negative : Bool) (magnitude : Nat) : Int :=
  if negative then -magnitude else magnitude

/-- A whole number that consists of decimal digits only. -/
def readDigits? (text : List Char) : Option Nat :=
  match takeDigits text with
  | ([], _) | (_, _ :: _) => none
  | (digits, []) => some (digitsValue digits)

/-- A whole number of 64 bits with a sign, which may be written as plus. -/
def readInteger? (text : List Char) : Option Int := do
  let (negative, rest) := takeSign text
  let value := signed negative (← readDigits? rest)
  if -Int.pow 2 63 ≤ value && value < Int.pow 2 63 then some value else none

/-- A number of slots of 64 bits, which may be written with a plus sign. -/
def readSize? (text : List Char) : Option UInt64 := do
  let digits := match text with
    | '+' :: rest => rest
    | _ => text
  let value ← readDigits? digits
  if value < Nat.pow 2 64 then some value.toUInt64 else none

/-- The decimal with the given sign, digits before and after the point, and exponent. -/
def decimal (negative : Bool) (whole fraction : List Char) (exponent : Int) : Decimal :=
  ⟨negative, digitsValue (whole ++ fraction), exponent - fraction.length⟩

/-- The rest of a real number after its digits: nothing, or an exponent. -/
def readExponent? : List Char → Option Int
  | [] => some 0
  | 'e' :: rest | 'E' :: rest => do
    let (negative, rest) := takeSign rest
    return signed negative (← readDigits? rest)
  | _ => none

/-- A real number without its sign. There has to be a digit before or after the point. -/
def readMagnitude? (negative : Bool) (text : List Char) : Option Binary64 :=
  let (whole, rest) := takeDigits text
  let (fraction, rest) :=
    match rest with
    | '.' :: rest => takeDigits rest
    | _ => ([], rest)
  if whole.isEmpty && fraction.isEmpty then none
  else do
    let exponent ← readExponent? rest
    return .ofDecimal (decimal negative whole fraction exponent)

/-- A real number with a sign, or one of the special names in any case. -/
def readReal? (text : List Char) : Option Binary64 :=
  let (negative, rest) := takeSign text
  let name := String.ofList (rest.map Char.toLower)
  if name = "inf" || name = "infinity" then some (.infinite negative)
  else if name = "nan" then some .nan
  else readMagnitude? negative rest

end Number

end AccessFeed
