import SmartAccount.Text.Glyphless
/-!
# Text between quotes

How a message shows a text that came from outside: between double quotes, with everything that
would not show as itself written by an escape. So a line break or a mark of the text cannot be
taken for a part of the message.
-/

namespace SmartAccount.Text

/-- How one character stands in a quoted text. -/
def escape (c : Char) : List Char :=
  if c = '"' then ['\\', '"']
  else if c = '\\' then ['\\', '\\']
  else if c = '\n' then ['\\', 'n']
  else if c = '\r' then ['\\', 'r']
  else if c = '\t' then ['\\', 't']
  else if c = '\x00' then ['\\', '0']
  else if isGlyphless c then '\\' :: 'u' :: '\x7b' :: Nat.toDigits 16 c.toNat ++ ['\x7d']
  else [c]

/-- A text between double quotes. -/
def quoted (s : String) : String :=
  String.ofList ('"' :: s.toList.flatMap escape ++ ['"'])

end SmartAccount.Text
