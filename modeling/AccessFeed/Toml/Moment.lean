import AccessFeed.Toml.Scalar

/-! Dates and times in TOML, in their canonical form. They are written as such, or spelled as the
text of a table that is marked by its first key. -/
namespace AccessFeed

namespace Toml

/-- A number of exactly two digits between two bounds. -/
def readPair (least greatest : Nat) : List Char → Option (Nat × List Char)
  | tens :: ones :: rest =>
    let value := Number.digitsValue [tens, ones]
    if tens.isDigit && ones.isDigit && least ≤ value && value ≤ greatest then some (value, rest)
    else none
  | _ => none

def isLeapYear (year : Nat) : Bool :=
  year % 4 = 0 && (year % 100 ≠ 0 || year % 400 = 0)

def daysOfMonth (year month : Nat) : Nat :=
  if month = 2 then if isLeapYear year then 29 else 28
  else if month = 4 || month = 6 || month = 9 || month = 11 then 30
  else 31

/-- A number with leading zeros up to a width. -/
def padded (width value : Nat) : List Char :=
  let digits := Nat.toDigits 10 value
  List.replicate (width - digits.length) '0' ++ digits

/-- A date, in the form in which it is written. -/
def readDate (text : List Char) : Option (List Char × List Char) := do
  let year := text.take 4
  if year.length = 4 && year.all Char.isDigit then
    let rest ← expect '-' (text.drop 4)
    let (month, rest) ← readPair 1 12 rest
    let rest ← expect '-' rest
    let (day, rest) ← readPair 1 (daysOfMonth (Number.digitsValue year) month) rest
    return (year ++ '-' :: padded 2 month ++ '-' :: padded 2 day, rest)
  else none

/-- The fraction of a second, of which nine digits count; trailing zeros are left out. -/
def readSecondFraction : List Char → Option (List Char × List Char)
  | '.' :: rest =>
    match Number.takeDigits rest with
    | ([], _) => none
    | (digits, rest) =>
      let kept := ((digits.take 9).reverse.dropWhile (· = '0')).reverse
      some (if kept.isEmpty then [] else '.' :: kept, rest)
  | text => some ([], text)

/-- A time of day, in its canonical form. -/
def readTime (text : List Char) : Option (List Char × List Char) := do
  let (hour, rest) ← readPair 0 23 text
  let rest ← expect ':' rest
  let (minute, rest) ← readPair 0 59 rest
  let rest ← expect ':' rest
  let (second, rest) ← readPair 0 60 rest
  let (fraction, rest) ← readSecondFraction rest
  return (padded 2 hour ++ ':' :: padded 2 minute ++ ':' :: padded 2 second ++ fraction, rest)

/-- The distance from universal time, if one is written, in its canonical form. A distance of
nothing has a plus sign. -/
def readOffset : List Char → Option (List Char × List Char)
  | 'Z' :: rest | 'z' :: rest => some (['Z'], rest)
  | '+' :: rest => distance '+' rest
  | '-' :: rest => distance '-' rest
  | text => some ([], text)
where
  distance (sign : Char) (text : List Char) : Option (List Char × List Char) := do
    let (hours, rest) ← readPair 0 23 text
    let rest ← expect ':' rest
    let (minutes, rest) ← readPair 0 59 rest
    let sign := if hours = 0 && minutes = 0 then '+' else sign
    return (sign :: padded 2 hours ++ ':' :: padded 2 minutes, rest)

/-- The time after a date, if there is one. -/
def readTimeAfterDate (text : List Char) : Option (List Char × List Char) :=
  let timed (rest : List Char) : Option (List Char × List Char) := do
    let (time, rest) ← readTime rest
    let (offset, rest) ← readOffset rest
    return ('T' :: time ++ offset, rest)
  match text with
  | 'T' :: rest | 't' :: rest => timed rest
  | ' ' :: rest =>
    match timed rest with
    | some found => some found
    | none => some ([], text)
  | _ => some ([], text)

/-- A date, a time, or both, in its canonical form. -/
def readMoment (text : List Char) : Option (Toml × List Char) :=
  let found := do
    let (date, rest) ← readDate text
    let (time, rest) ← readTimeAfterDate rest
    return (date ++ time, rest)
  (found <|> readTime text).map fun (chars, rest) => (.moment (String.ofList chars), rest)

/-- The key that marks a table as a date or time. -/
def momentKey : String := "$__toml_private_datetime"

/-- The date, the time or both that a whole text spells. -/
def spelledMoment? (text : String) : Option Toml :=
  match readMoment text.toList with
  | some (found, []) => some found
  | _ => none

/-- The value under the mark of a marked table. -/
def marked? : Entries Toml → Option Toml
  | (name, value) :: _ => if name = momentKey then some value else none
  | [] => none

mutual

/-- A value with every marked table in it replaced by the date or time that its text spells. -/
def resolve : Toml → Option Toml
  | .array items => (resolveItems items).map .array
  | .tables items => (resolveItems items).map .tables
  | .table kind entries =>
    match marked? entries with
    | some (.string text) => spelledMoment? text
    | some _ => none
    | none => (resolveEntries entries).map (.table kind)
  | value => some value

def resolveItems : List Toml → Option (List Toml)
  | [] => some []
  | item :: rest => return (← resolve item) :: (← resolveItems rest)

def resolveEntries : List (String × Toml) → Option (List (String × Toml))
  | [] => some []
  | (name, value) :: rest => return (name, ← resolve value) :: (← resolveEntries rest)

end

/-- The entries of a whole document, resolved. A document is no date or time itself. -/
def resolveDocument? (entries : Entries Toml) : Option (Entries Toml) :=
  if (marked? entries).isSome then none else resolveEntries entries

end Toml

end AccessFeed
