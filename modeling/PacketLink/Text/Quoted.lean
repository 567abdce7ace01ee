import PacketLink.Text.Unprintable

/-!
# Quoted text

How messages show a piece of text that may hold anything.

* `quoted`: the text between double quotes. A double quote and a backslash get a backslash, the
  characters NUL, tab, line feed and carriage return have short escapes, and every other
  unprintable character is written as its code point in hexadecimal between braces.
-/

namespace PacketLink.Text

/-- The escape of a character by its code point. -/
def codePointEscape (c : Char) : List Char :=
  ['\\', 'u', '\x7b'] ++ Nat.toDigits 16 c.toNat ++ ['\x7d']

/-- How one character is written inside quoted text. -/
def escape (c : Char) : List Char :=
  if c = '"' then ['\\', '"']
  else if c = '\\' then ['\\', '\\']
  else if c.toNat = 0 then ['\\', '0']
  else if c = '\t' then ['\\', 't']
  else if c = '\n' then ['\\', 'n']
  else if c = '\r' then ['\\', 'r']
  else if isUnprintable c then codePointEscape c
  else [c]

/-- The text between double quotes, with everything that could mislead a reader escaped. -/
def quoted (s : String) : String :=
  String.ofList ('"' :: s.toList.flatMap escape ++ ['"'])

end PacketLink.Text
