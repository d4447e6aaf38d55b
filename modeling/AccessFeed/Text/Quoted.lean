import AccessFeed.Text.Printable

/-! A text between quotes, as messages show one: quotes, backslashes and every character that
has no visible form of its own are escaped. -/
namespace AccessFeed

namespace Text

/-- A character as it stands between quotes. -/
def escapeShown (char : Char) : List Char :=
  if char = '"' then ['\\', '"']
  else if char = '\\' then ['\\', '\\']
  else if char = '\t' then ['\\', 't']
  else if char = '\n' then ['\\', 'n']
  else if char = '\r' then ['\\', 'r']
  else if char = '\x00' then ['\\', '0']
  else if isPrintable char then [char]
  else ['\\', 'u', '\x7b'] ++ Nat.toDigits 16 char.toNat ++ ['\x7d']

def quoted (text : String) : String :=
  String.ofList ('"' :: text.toList.flatMap escapeShown ++ ['"'])

end Text

end AccessFeed
