import AccessFeed.Number.Reading
import AccessFeed.Settings.Tree

/-! Reading the name of a top-level setting as a path into the tree: names joined by dots, and
indices in brackets. A name that is no such path stands for itself. -/
namespace AccessFeed

namespace KeyPath

/-- A character of a plain name. -/
def isPlain (char : Char) : Bool :=
  char.isAlphanum || char = ' ' || char = '_' || char = '-'

/-- A plain name of at least one character. -/
def readName (text : List Char) : Option (String × List Char) :=
  match text.takeWhile isPlain with
  | [] => none
  | name => some (String.ofList name, text.dropWhile isPlain)

def isBlank (char : Char) : Bool := char = ' ' || char = '\t'

/-- An index with its closing bracket, whose opening bracket is read. -/
def readIndex (text : List Char) : Option (Int × List Char) :=
  let text := text.dropWhile isBlank
  let (negative, text) :=
    match text with
    | '-' :: rest => (true, rest)
    | _ => (false, text)
  match Number.takeDigits text with
  | ([], _) => none
  | (digits, rest) =>
    let index := Number.signed negative (Number.digitsValue digits)
    match rest.dropWhile isBlank with
    | ']' :: rest => if -Int.pow 2 63 ≤ index && index < Int.pow 2 63 then some (index, rest) else none
    | _ => none

/-- The steps of a path after its first name. The fuel bounds their number. -/
def readSteps : Nat → List Char → Option (List Step)
  | _, [] => some []
  | 0, _ => none
  | fuel + 1, '.' :: rest => do
    let (name, rest) ← readName rest
    return .member name :: (← readSteps fuel rest)
  | fuel + 1, '[' :: rest => do
    let (index, rest) ← readIndex rest
    return .item index :: (← readSteps fuel rest)
  | _, _ => none

/-- The path that a text is written for. -/
def parse? (text : String) : Option KeyPath := do
  let (first, rest) ← readName text.toList
  return ⟨first, ← readSteps rest.length rest⟩

def ofName (name : String) : KeyPath := (parse? name).getD ⟨name, []⟩

end KeyPath

end AccessFeed
