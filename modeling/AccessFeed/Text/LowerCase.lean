import AccessFeed.Text.CaseTable
import AccessFeed.Text.Printable

/-! Lower-casing of a whole text by the rules of the Unicode standard. One character may become
two, and a capital sigma becomes the final form at the end of a word. -/
namespace AccessFeed

namespace Text

/-- The lower-case form of one character that does not depend on its neighbours. -/
def lowerChar (char : Char) : List Char :=
  if char.toNat = 0x130 then ['i', Char.ofNat 0x307]
  else
    match lowerCaseRuns.find? fun (first, last, step, _) =>
      first ≤ char.toNat && char.toNat ≤ last && (char.toNat - first) % step = 0 with
    | some (_, _, _, offset) => [Char.ofNat (char.toNat + offset).toNat]
    | none => [char]

/-- The first character that case does not ignore is a cased one. -/
def startsCased (text : List Char) : Bool :=
  match text.dropWhile (inRanges caseIgnorableRanges) with
  | char :: _ => inRanges casedRanges char
  | [] => false

/-- The lower-case forms of the characters of a text, given the ones before it in reverse. -/
def lowerChars (before : List Char) : List Char → List Char
  | [] => []
  | char :: rest =>
    let lowered :=
      if char.toNat = 0x3a3 then
        [Char.ofNat (if startsCased before && !startsCased rest then 0x3c2 else 0x3c3)]
      else lowerChar char
    lowered ++ lowerChars (char :: before) rest

def lowerCase (text : String) : String := String.ofList (lowerChars [] text.toList)

end Text

end AccessFeed
