import AccessFeed.Number.Binary64

/-! The text of a binary number: the fewest digits that read back as the same number, and of those
the nearest. A style says which of two equally near digits are taken, and which numbers are written
with an exponent. -/
namespace AccessFeed

/-- Which of two equally near numbers is taken. -/
inductive Tie where
  | larger
  | even
  deriving DecidableEq, Inhabited

/-- How a number is written. -/
structure RealStyle where
  /-- Which of two equally near numbers of as many digits is taken. -/
  tie : Tie
  /-- The powers of ten just above a number that is written without an exponent, first and last;
  without bounds every number is. -/
  positional : Option (Int × Int)
  deriving DecidableEq, Inhabited

namespace Binary64

/-- The numbers that round to a positive significand, in quarters of its last place: the least, the
number itself and the greatest. Below a power of two the gap is half as wide. -/
def quarters (significand : Nat) (exponent : Int) : Nat × Nat × Nat :=
  let below := if significand = Nat.pow 2 52 && leastExponent < exponent then 1 else 2
  (4 * significand - below, 4 * significand, 4 * significand + 2)

/-- The power of ten just above a positive number. -/
def decimalSize (significand : Nat) (exponent : Int) : Int :=
  let whole := significand * power 2 exponent / power 2 (-exponent)
  if whole ≠ 0 then (Nat.toDigits 10 whole).length
  else
    let zeros := (List.range 330).find? fun zeros =>
      decide (power 2 (-exponent) ≤ significand * Nat.pow 10 (zeros + 1))
    (0 : Int) - zeros.getD 330

/-- The best multiple of a power of ten that rounds to a positive number, if there is one. The
ends of the interval round to it only when its significand is even. -/
def candidate? (tie : Tie) (significand : Nat) (exponent grid : Int) : Option Nat :=
  let (least, value, greatest) := quarters significand exponent
  let unit := power 10 grid * power 2 (2 - exponent)
  let scale := power 2 (exponent - 2) * power 10 (-grid)
  let inside (digits : Nat) : Bool :=
    if significand % 2 = 0 then
      least * scale ≤ digits * unit && digits * unit ≤ greatest * scale
    else least * scale < digits * unit && digits * unit < greatest * scale
  let lower := value * scale / unit
  let below := value * scale - lower * unit
  let above := (lower + 1) * unit - value * scale
  let takesLower := below < above || (below = above && tie = .even && lower % 2 = 0)
  match inside lower, inside (lower + 1) with
  | true, true => some (if takesLower then lower else lower + 1)
  | true, false => some lower
  | false, true => some (lower + 1)
  | false, false => none

/-- The fewest digits of a positive number and the power of ten that scales them. -/
def shortest (tie : Tie) (significand : Nat) (exponent : Int) : Nat × Int :=
  let size := decimalSize significand exponent
  let found := (List.range 17).findSome? fun count =>
    let grid := size - (count + 1 : Nat)
    (candidate? tie significand exponent grid).map (·, grid)
  match found with
  | some (digits, grid) => if digits % 10 = 0 then (digits / 10, grid + 1) else (digits, grid)
  | none => (0, 0)

/-- Digits scaled by a power of ten, written out with a point only where one is needed. -/
def writeOut (digits : Nat) (grid : Int) : List Char :=
  let shown := Nat.toDigits 10 digits
  if 0 ≤ grid then shown ++ List.replicate grid.toNat '0'
  else
    let places := (-grid).toNat
    let padded := List.replicate (places + 1 - shown.length) '0' ++ shown
    let whole := padded.length - places
    padded.take whole ++ '.' :: padded.drop whole

/-- Digits scaled by a power of ten, with a point in which a whole number shows one too. -/
def writePointed (digits : Nat) (grid : Int) : List Char :=
  let shown := writeOut digits grid
  if shown.contains '.' then shown else shown ++ ['.', '0']

/-- Digits scaled by a power of ten, with a point after the first if there are more, and an
exponent with its sign. -/
def writeScaled (digits : Nat) (grid : Int) : List Char :=
  let shown := Nat.toDigits 10 digits
  let power := grid + (shown.length - 1 : Nat)
  let sign := if power < 0 then '-' else '+'
  let rest := shown.drop 1
  shown.take 1 ++ (if rest.isEmpty then [] else '.' :: rest)
    ++ 'e' :: sign :: Nat.toDigits 10 power.natAbs

/-- The text of a number in a style. -/
def text (style : RealStyle) : Binary64 → String
  | .nan => "NaN"
  | .infinite negative => if negative then "-inf" else "inf"
  | .finite negative significand exponent =>
    let sign := if negative then ['-'] else []
    let shown :=
      if significand = 0 then writePointed 0 0
      else
        let (digits, grid) := shortest style.tie significand exponent
        let size := grid + (Nat.toDigits 10 digits).length
        match style.positional with
        | none => writePointed digits grid
        | some (first, last) =>
          if first ≤ size && size ≤ last then writePointed digits grid
          else writeScaled digits grid
    String.ofList (sign ++ shown)

end Binary64

end AccessFeed
