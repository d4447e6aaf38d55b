import AccessFeed.Json
import AccessFeed.Text.Hexadecimal

/-! The compact text of a JSON value: no blanks, members in the order they are held, and only
quotes, backslashes and control characters escaped. -/
namespace AccessFeed

namespace Json

/-- A character as it stands inside a quoted text. -/
def escape (char : Char) : List Char :=
  if char = '"' then ['\\', '"']
  else if char = '\\' then ['\\', '\\']
  else if char = '\x08' then ['\\', 'b']
  else if char = '\x0c' then ['\\', 'f']
  else if char = '\n' then ['\\', 'n']
  else if char = '\r' then ['\\', 'r']
  else if char = '\t' then ['\\', 't']
  else if char.toNat < 32 then
    ['\\', 'u', '0', '0', Text.hexDigit (char.toNat / 16), Text.hexDigit (char.toNat % 16)]
  else [char]

/-- A text between quotes. -/
def quote (text : String) : List Char :=
  '"' :: text.toList.flatMap escape ++ ['"']

/-- A decimal as its digits and the power of ten that scales them. -/
def decimalText (value : Decimal) : List Char :=
  (if value.negative then ['-'] else []) ++ (toString value.digits).toList
    ++ 'e' :: (toString value.exponent).toList

mutual

/-- The characters of a value. -/
def chars : Json → List Char
  | .null => "null".toList
  | .bool true => "true".toList
  | .bool false => "false".toList
  | .integer value => (toString value).toList
  | .real value => decimalText value
  | .string value => quote value
  | .array items => '[' :: itemChars items ++ [']']
  | .object members => '\x7b' :: memberChars members ++ ['\x7d']

/-- The characters of the items of an array, separated by commas. -/
def itemChars : List Json → List Char
  | [] => []
  | [item] => chars item
  | item :: rest => chars item ++ ',' :: itemChars rest

/-- The characters of the members of an object, separated by commas. -/
def memberChars : List (String × Json) → List Char
  | [] => []
  | [(name, value)] => quote name ++ ':' :: chars value
  | (name, value) :: rest => quote name ++ ':' :: chars value ++ ',' :: memberChars rest

end

def compact (value : Json) : String := String.ofList value.chars

end Json

end AccessFeed
