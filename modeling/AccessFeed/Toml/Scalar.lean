import AccessFeed.Number.Reading
import AccessFeed.Text.Hexadecimal
import AccessFeed.Toml

/-! The parts of TOML text that hold no other values: keys, texts and numbers. Each reader gives
what it read and the rest of the text. -/
namespace AccessFeed

namespace Toml

def skipBlanks (text : List Char) : List Char :=
  text.dropWhile fun char => char = ' ' || char = '\t'

/-- A character that may stand in a text or a comment: a tab, or one that is no control. -/
def isPlain (char : Char) : Bool := char = '\t' || (32 ≤ char.toNat && char.toNat ≠ 127)

/-- The rest of a text after a line end, if it starts with one. -/
def lineEnd? : List Char → Option (List Char)
  | '\n' :: rest => some rest
  | '\r' :: '\n' :: rest => some rest
  | _ => none

/-- The rest of a text after a comment, if it starts with one. -/
def skipComment : List Char → List Char
  | '#' :: rest => rest.dropWhile isPlain
  | text => text

/-- The rest of a text after any number of blanks, comments and line ends. The fuel bounds the
lines. -/
def skipLines : Nat → List Char → List Char
  | 0, text => text
  | fuel + 1, text =>
    let rest := skipComment (skipBlanks text)
    match lineEnd? rest with
    | some rest => skipLines fuel rest
    | none => rest

/-- The character of an escape with the given number of hexadecimal digits. -/
def readCodePoint (count : Nat) (text : List Char) : Option (Char × List Char) := do
  let digits ← (text.take count).mapM Text.hexValue?
  let value := digits.foldl (fun value digit => value * 16 + digit) 0
  if digits.length = count && value.isValidChar then
    some (Char.ofNat value, text.drop count)
  else none

/-- The character of an escape whose backslash is read. -/
def readEscape : List Char → Option (Char × List Char)
  | 'b' :: rest => some ('\x08', rest)
  | 't' :: rest => some ('\t', rest)
  | 'n' :: rest => some ('\n', rest)
  | 'f' :: rest => some ('\x0c', rest)
  | 'r' :: rest => some ('\r', rest)
  | '"' :: rest => some ('"', rest)
  | '\\' :: rest => some ('\\', rest)
  | 'u' :: rest => readCodePoint 4 rest
  | 'U' :: rest => readCodePoint 8 rest
  | _ => none

/-- The rest of a line text in double quotes whose opening quote is read. -/
def readBasic : Nat → List Char → Option (List Char × List Char)
  | 0, _ | _, [] => none
  | fuel + 1, char :: rest =>
    if char = '"' then some ([], rest)
    else if char = '\\' then do
      let (escaped, rest) ← readEscape rest
      let (text, rest) ← readBasic fuel rest
      return (escaped :: text, rest)
    else if isPlain char then do
      let (text, rest) ← readBasic fuel rest
      return (char :: text, rest)
    else none

/-- The rest of a line text in single quotes whose opening quote is read. -/
def readLiteral : List Char → Option (List Char × List Char)
  | [] => none
  | char :: rest =>
    if char = '\'' then some ([], rest)
    else if isPlain char then do
      let (text, rest) ← readLiteral rest
      return (char :: text, rest)
    else none

/-- The rest of a text over several lines without the line end right after its opening quotes. -/
def afterOpening (text : List Char) : List Char := (lineEnd? text).getD text

/-- The quotes at the head of a text of several lines: up to two belong to it when three more close
it, and up to two stand alone. -/
def closing? (mark : Char) (text : List Char) : Option (List Char × List Char) :=
  let count := min 5 (text.takeWhile (· = mark)).length
  if 3 ≤ count then some (List.replicate (count - 3) mark, text.drop count) else none

/-- The rest of a text after a backslash that ends a line: all blanks and line ends are skipped. -/
def lineJoin? (text : List Char) : Option (List Char) :=
  (lineEnd? (skipBlanks text)).map skipEmpty
where
  skipEmpty (text : List Char) : List Char :=
    match text with
    | ' ' :: rest | '\t' :: rest | '\n' :: rest | '\r' :: '\n' :: rest => skipEmpty rest
    | _ => text

/-- The rest of a text in three double quotes whose opening quotes are read. -/
def readBasicLines : Nat → List Char → Option (List Char × List Char)
  | 0, _ | _, [] => none
  | fuel + 1, char :: rest =>
    match closing? '"' (char :: rest) with
    | some closed => some closed
    | none =>
      if char = '\\' then
        match lineJoin? rest with
        | some rest => readBasicLines fuel rest
        | none => do
          let (escaped, rest) ← readEscape rest
          let (text, rest) ← readBasicLines fuel rest
          return (escaped :: text, rest)
      else
        match lineEnd? (char :: rest) with
        | some rest => do
          let (text, rest) ← readBasicLines fuel rest
          return ('\n' :: text, rest)
        | none =>
          if isPlain char then do
            let (text, rest) ← readBasicLines fuel rest
            return (char :: text, rest)
          else none

/-- The rest of a text in three single quotes whose opening quotes are read. -/
def readLiteralLines : Nat → List Char → Option (List Char × List Char)
  | 0, _ | _, [] => none
  | fuel + 1, char :: rest =>
    match closing? '\'' (char :: rest) with
    | some closed => some closed
    | none =>
      match lineEnd? (char :: rest) with
      | some rest => do
        let (text, rest) ← readLiteralLines fuel rest
        return ('\n' :: text, rest)
      | none =>
        if isPlain char then do
          let (text, rest) ← readLiteralLines fuel rest
          return (char :: text, rest)
        else none

/-- A text in any of the four kinds of quotes. -/
def readText (text : List Char) : Option (String × List Char) :=
  let fuel := text.length
  let found :=
    match text with
    | '"' :: '"' :: '"' :: rest => readBasicLines fuel (afterOpening rest)
    | '\'' :: '\'' :: '\'' :: rest => readLiteralLines fuel (afterOpening rest)
    | '"' :: rest => readBasic fuel rest
    | '\'' :: rest => readLiteral rest
    | _ => none
  found.map fun (chars, rest) => (String.ofList chars, rest)

/-- A character of a key without quotes. -/
def isBare (char : Char) : Bool := char.isAlphanum || char = '_' || char = '-'

/-- One part of a key. -/
def readName (text : List Char) : Option (String × List Char) :=
  match text with
  | '"' :: rest =>
    (readBasic text.length rest).map fun (chars, rest) => (String.ofList chars, rest)
  | '\'' :: rest => (readLiteral rest).map fun (chars, rest) => (String.ofList chars, rest)
  | _ =>
    match text.takeWhile isBare with
    | [] => none
    | bare => some (String.ofList bare, text.dropWhile isBare)

/-- Values and keys are nested less deep than this. -/
def nestingLimit : Nat := 80

/-- The parts of a key, which dots separate, and the rest after the blanks that follow. -/
def readParts : Nat → List Char → Option (List String × List Char)
  | 0, _ => none
  | fuel + 1, text => do
    let (name, rest) ← readName (skipBlanks text)
    match skipBlanks rest with
    | '.' :: rest =>
      let (names, rest) ← readParts fuel rest
      return (name :: names, rest)
    | rest => return ([name], rest)

def readKey (text : List Char) : Option (List String × List Char) := do
  let (names, rest) ← readParts text.length text
  if names.length < nestingLimit then return (names, rest) else none

/-- Digits of a base; single underscores may stand between two of them. -/
def digitRun (isDigit : Char → Bool) : List Char → List Char × List Char
  | '_' :: char :: rest =>
    if isDigit char then
      let (digits, after) := digitRun isDigit rest
      (char :: digits, after)
    else ([], '_' :: char :: rest)
  | char :: rest =>
    if isDigit char then
      let (digits, after) := digitRun isDigit rest
      (char :: digits, after)
    else ([], char :: rest)
  | [] => ([], [])

/-- Digits of a base, of which there is at least one; the first is no underscore. -/
def readRun (isDigit : Char → Bool) : List Char → Option (List Char × List Char)
  | char :: rest =>
    if isDigit char then
      let (digits, after) := digitRun isDigit rest
      some (char :: digits, after)
    else none
  | [] => none

/-- The digits before a point; a zero stands alone. -/
def readWhole : List Char → Option (List Char × List Char)
  | '0' :: rest => some (['0'], rest)
  | text => readRun Char.isDigit text

def integer64 (value : Int) : Option Toml :=
  if -Int.pow 2 63 ≤ value && value < Int.pow 2 63 then some (.integer value) else none

/-- The digits of an integer in a base of at most sixteen. -/
def readBased (base : Nat) (text : List Char) : Option (Toml × List Char) := do
  let isDigit (char : Char) : Bool :=
    match Text.hexValue? char with
    | some digit => digit < base
    | none => false
  let (digits, rest) ← readRun isDigit text
  let value := digits.foldl (fun value digit =>
    value * base + (Text.hexValue? digit).getD 0) 0
  return (← integer64 value, rest)

/-- The digits after a point, if there is one. -/
def readFraction : List Char → Option (Option (List Char) × List Char)
  | '.' :: rest => (readRun Char.isDigit rest).map fun (digits, rest) => (some digits, rest)
  | text => some (none, text)

/-- An exponent, if there is one. -/
def readExponent : List Char → Option (Option Int × List Char)
  | 'e' :: rest | 'E' :: rest => do
    let (negative, rest) := Number.takeSign rest
    let (digits, rest) ← readRun Char.isDigit rest
    return (some (Number.signed negative (Number.digitsValue digits)), rest)
  | text => some (none, text)

/-- A real number. Only a negative one may be beyond the range. -/
def finiteOrNegative (value : Binary64) : Option Toml :=
  if value = .infinite false then none else some (.real value)

/-- A decimal number whose sign is read. -/
def readDecimal (negative : Bool) (text : List Char) : Option (Toml × List Char) := do
  let (whole, rest) ← readWhole text
  let (fraction, rest) ← readFraction rest
  let (exponent, rest) ← readExponent rest
  if fraction.isNone && exponent.isNone then
    return (← integer64 (Number.signed negative (Number.digitsValue whole)), rest)
  else
    let value := Number.decimal negative whole (fraction.getD []) (exponent.getD 0)
    return (← finiteOrNegative (.ofDecimal value), rest)

def readNumber (text : List Char) : Option (Toml × List Char) :=
  match text with
  | '0' :: 'x' :: rest => readBased 16 rest
  | '0' :: 'o' :: rest => readBased 8 rest
  | '0' :: 'b' :: rest => readBased 2 rest
  | _ =>
    let (negative, rest) := Number.takeSign text
    match rest with
    | 'i' :: 'n' :: 'f' :: rest => some (.real (.infinite negative), rest)
    | 'n' :: 'a' :: 'n' :: rest => some (.real .nan, rest)
    | rest => readDecimal negative rest

def expect (char : Char) : List Char → Option (List Char)
  | first :: rest => if first = char then some rest else none
  | [] => none

end Toml

end AccessFeed
