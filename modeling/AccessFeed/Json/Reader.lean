import AccessFeed.Json
import AccessFeed.Number.Reading
import AccessFeed.Text.Hexadecimal

/-! Reading a JSON value from text. The whole text has to be one value with blanks around it. -/
namespace AccessFeed

namespace Json

/-- The four characters that may stand between the parts of a value. -/
def isBlank (char : Char) : Bool :=
  char = ' ' || char = '\n' || char = '\r' || char = '\t'

def skipBlanks (text : List Char) : List Char := text.dropWhile isBlank

/-- The character that a backslash and a letter stand for. -/
def unescape? (char : Char) : Option Char :=
  if char = '"' then some '"'
  else if char = '\\' then some '\\'
  else if char = '/' then some '/'
  else if char = 'b' then some '\x08'
  else if char = 'f' then some '\x0c'
  else if char = 'n' then some '\n'
  else if char = 'r' then some '\r'
  else if char = 't' then some '\t'
  else none

/-- What may come next inside a quoted text. A character above the sixteen-bit range is written
as two escapes, whose first half waits in `high` while the second is read. -/
inductive Expected where
  | plain
  | escape
  | hex (remaining : Nat) (value : Nat) (high : Option Nat)
  | secondBackslash (high : Nat)
  | secondLetter (high : Nat)
  deriving DecidableEq, Inhabited

/-- What follows once all four digits of an escape are read: a finished character, or the wait
for the second half of a pair. -/
def closeEscape? (value : Nat) (high : Option Nat) : Option (Expected × List Char) :=
  match high with
  | some first =>
    if 0xdc00 ≤ value && value ≤ 0xdfff then
      some (.plain, [Char.ofNat (0x10000 + (first - 0xd800) * 0x400 + (value - 0xdc00))])
    else none
  | none =>
    if 0xd800 ≤ value && value ≤ 0xdbff then some (.secondBackslash value, [])
    else if 0xdc00 ≤ value && value ≤ 0xdfff then none
    else some (.plain, [Char.ofNat value])

/-- Reads a quoted text up to its closing quote, which is consumed. -/
def readQuoted : Expected → List Char → Option (List Char × List Char)
  | _, [] => none
  | .plain, char :: rest =>
    if char = '"' then some ([], rest)
    else if char = '\\' then readQuoted .escape rest
    else if char.toNat < 32 then none
    else (readQuoted .plain rest).map fun (text, rest) => (char :: text, rest)
  | .escape, char :: rest =>
    if char = 'u' then readQuoted (.hex 4 0 none) rest
    else match unescape? char with
      | some escaped => (readQuoted .plain rest).map fun (text, rest) => (escaped :: text, rest)
      | none => none
  | .hex remaining value high, char :: rest =>
    match Text.hexValue? char with
    | none => none
    | some digit =>
      if remaining ≤ 1 then
        match closeEscape? (value * 16 + digit) high with
        | some (next, chars) =>
          (readQuoted next rest).map fun (text, rest) => (chars ++ text, rest)
        | none => none
      else readQuoted (.hex (remaining - 1) (value * 16 + digit) high) rest
  | .secondBackslash high, char :: rest =>
    if char = '\\' then readQuoted (.secondLetter high) rest else none
  | .secondLetter high, char :: rest =>
    if char = 'u' then readQuoted (.hex 4 0 (some high)) rest else none

/-- Reads the rest of a quoted text whose opening quote is consumed. -/
def readText (text : List Char) : Option (String × List Char) :=
  (readQuoted .plain text).map fun (chars, rest) => (String.ofList chars, rest)

/-- The fraction of a number, if one is written: its digits after the point. -/
def readFraction : List Char → Option (List Char × List Char)
  | '.' :: rest =>
    match Number.takeDigits rest with
    | ([], _) => none
    | found => some found
  | text => some ([], text)

/-- The exponent of a number, if one is written. -/
def readExponent : List Char → Option (Option Int × List Char)
  | 'e' :: '-' :: rest | 'E' :: '-' :: rest => exponent (-1) rest
  | 'e' :: '+' :: rest | 'E' :: '+' :: rest => exponent 1 rest
  | 'e' :: rest | 'E' :: rest => exponent 1 rest
  | text => some (none, text)
where
  exponent (sign : Int) (text : List Char) : Option (Option Int × List Char) :=
    match Number.takeDigits text with
    | ([], _) => none
    | (digits, rest) => some (some (sign * Number.digitsValue digits), rest)

/-- Reads the digits of a number whose sign is known. No number but zero starts with a zero. -/
def readUnsigned (negative : Bool) (text : List Char) : Option (Json × List Char) :=
  match Number.takeDigits text with
  | ([], _) => none
  | ('0' :: _ :: _, _) => none
  | (whole, rest) => do
    let (fraction, rest) ← readFraction rest
    let (exponent, rest) ← readExponent rest
    let magnitude := Number.digitsValue whole
    if fraction.isEmpty && exponent.isNone then
      if negative && magnitude = 0 then some (.real ⟨true, 0, 0⟩, rest)
      else some (.integer (if negative then -magnitude else magnitude), rest)
    else some (.real ⟨negative, Number.digitsValue (whole ++ fraction),
      exponent.getD 0 - fraction.length⟩, rest)

def readNumber : List Char → Option (Json × List Char)
  | '-' :: rest => readUnsigned true rest
  | text => readUnsigned false text

mutual

/-- Reads one value after blanks. The fuel bounds the parts it may still read. -/
def readValue : Nat → List Char → Option (Json × List Char)
  | 0, _ => none
  | fuel + 1, text =>
    match skipBlanks text with
    | '"' :: rest => (readText rest).map fun (text, rest) => (.string text, rest)
    | '[' :: rest =>
      match skipBlanks rest with
      | ']' :: rest => some (.array [], rest)
      | rest => (readItems fuel rest).map fun (items, rest) => (.array items, rest)
    | '\x7b' :: rest =>
      match skipBlanks rest with
      | '\x7d' :: rest => some (.object [], rest)
      | rest => (readMembers fuel rest).map fun (members, rest) => (.object members, rest)
    | 'n' :: 'u' :: 'l' :: 'l' :: rest => some (.null, rest)
    | 't' :: 'r' :: 'u' :: 'e' :: rest => some (.bool true, rest)
    | 'f' :: 'a' :: 'l' :: 's' :: 'e' :: rest => some (.bool false, rest)
    | text => readNumber text

/-- Reads the items of an array up to its closing bracket. -/
def readItems : Nat → List Char → Option (List Json × List Char)
  | 0, _ => none
  | fuel + 1, text => do
    let (item, rest) ← readValue fuel text
    match skipBlanks rest with
    | ',' :: rest => (readItems fuel rest).map fun (items, rest) => (item :: items, rest)
    | ']' :: rest => some ([item], rest)
    | _ => none

/-- Reads the members of an object up to its closing brace. -/
def readMembers : Nat → List Char → Option (List (String × Json) × List Char)
  | 0, _ => none
  | fuel + 1, text =>
    match skipBlanks text with
    | '"' :: rest => do
      let (name, rest) ← readText rest
      match skipBlanks rest with
      | ':' :: rest =>
        let (value, rest) ← readValue fuel rest
        match skipBlanks rest with
        | ',' :: rest =>
          (readMembers fuel rest).map fun (members, rest) => ((name, value) :: members, rest)
        | '\x7d' :: rest => some ([(name, value)], rest)
        | _ => none
      | _ => none
    | _ => none

end

/-- The value that a whole text is written for. -/
def parse? (text : String) : Option Json :=
  match readValue (2 * text.length + 2) text.toList with
  | some (value, rest) => if (skipBlanks rest).isEmpty then some value else none
  | none => none

end Json

end AccessFeed
