import AccessFeed.Toml.Moment

/-! Reading a TOML document: its values, its statements, and the tables they define. -/
namespace AccessFeed

namespace Toml

mutual

/-- Reads a value at a depth of nesting. The fuel bounds the parts that may still be read. -/
def readValue : Nat → Nat → List Char → Option (Toml × List Char)
  | 0, _, _ => none
  | fuel + 1, depth, text =>
    match text with
    | '"' :: _ | '\'' :: _ => (readText text).map fun (value, rest) => (.string value, rest)
    | '[' :: rest =>
      if nestingLimit ≤ depth + 1 then none
      else do
        let (items, rest) ← readItems fuel (depth + 1) rest
        return (.array items, rest)
    | '\x7b' :: rest =>
      if nestingLimit ≤ depth + 1 then none
      else do
        let (members, rest) ←
          match skipBlanks rest with
          | '\x7d' :: rest => some ([], rest)
          | rest => readMembers fuel (depth + 1) rest
        return (.table .inline (← assignAll .inline members []), rest)
    | 't' :: 'r' :: 'u' :: 'e' :: rest => some (.bool true, rest)
    | 'f' :: 'a' :: 'l' :: 's' :: 'e' :: rest => some (.bool false, rest)
    | _ => readMoment text <|> readNumber text

/-- Reads the items of an array up to its closing bracket. Lines may end anywhere between them, and
a comma may follow the last one. -/
def readItems : Nat → Nat → List Char → Option (List Toml × List Char)
  | 0, _, _ => none
  | fuel + 1, depth, text =>
    match skipLines text.length text with
    | ']' :: rest => some ([], rest)
    | rest => do
      let (item, rest) ← readValue fuel depth rest
      match skipLines rest.length rest with
      | ',' :: rest =>
        let (items, rest) ← readItems fuel depth rest
        return (item :: items, rest)
      | ']' :: rest => return ([item], rest)
      | _ => none

/-- Reads the members of a table in braces up to its closing brace, all on one line. -/
def readMembers : Nat → Nat → List Char → Option (List (List String × Toml) × List Char)
  | 0, _, _ => none
  | fuel + 1, depth, text => do
    let (key, rest) ← readKey text
    let rest ← expect '=' rest
    let (value, rest) ← readValue fuel depth (skipBlanks rest)
    match skipBlanks rest with
    | ',' :: rest =>
      let (members, rest) ← readMembers fuel depth rest
      return ((key, value) :: members, rest)
    | '\x7d' :: rest => return ([(key, value)], rest)
    | _ => none

end

/-- The rest of a text after the end of a statement: blanks, a comment, and the end of the line or
of the text. -/
def endStatement (text : List Char) : Option (List Char) :=
  match skipComment (skipBlanks text) with
  | [] => some []
  | rest => lineEnd? rest

/-- A statement of a document. -/
inductive Statement where
  | header (path : List String) (isItem : Bool)
  | assignment (path : List String) (value : Toml)

/-- Reads a header whose opening bracket is read. -/
def readHeader (text : List Char) : Option (Statement × List Char) :=
  match text with
  | '[' :: rest => do
    let (path, rest) ← readKey rest
    let rest ← expect ']' rest
    let rest ← expect ']' rest
    return (.header path true, rest)
  | _ => do
    let (path, rest) ← readKey text
    let rest ← expect ']' rest
    return (.header path false, rest)

def readStatement (text : List Char) : Option (Statement × List Char) :=
  match text with
  | '[' :: rest => readHeader rest
  | _ => do
    let (path, rest) ← readKey text
    let rest ← expect '=' rest
    let rest := skipBlanks rest
    let (value, rest) ← readValue (2 * rest.length + 2) 0 rest
    return (.assignment path value, rest)

/-- Reads the statements of a whole text. The fuel bounds their number. -/
def readStatements : Nat → List Char → Option (List Statement)
  | 0, _ => none
  | fuel + 1, text =>
    match skipLines text.length text with
    | [] => some []
    | text => do
      let (statement, rest) ← readStatement text
      let rest ← endStatement rest
      return statement :: (← readStatements fuel rest)

/-- Gathers statements into sections; `part` is the section that the first ones belong to. -/
def sections (part : Section) : List Statement → List Section
  | [] => [part]
  | .header path isItem :: rest => part :: sections ⟨path, isItem, []⟩ rest
  | .assignment path value :: rest =>
    sections { part with assignments := part.assignments ++ [(path, value)] } rest

/-- A text without the mark that may stand before it. -/
def withoutMark : List Char → List Char
  | '\ufeff' :: rest => rest
  | text => text

/-- The entries of the document that a text is written for. -/
def parse? (text : String) : Option (Entries Toml) := do
  let statements ← readStatements (text.length + 1) (withoutMark text.toList)
  resolveDocument? (← document (sections ⟨[], false, []⟩ statements) [])

end Toml

end AccessFeed
