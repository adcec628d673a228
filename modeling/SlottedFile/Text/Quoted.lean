import SlottedFile.Text.Unprintable

/-!
# Quoted text

In the written form of an error a text stands between quotation marks. A quote
or a backslash inside it gets a backslash in front, the four usual control
characters have a letter, and any other character that does not show by itself
is written by its number.
-/

namespace SlottedFile.Text.Quoted

/-- How one character stands inside quotes. -/
def encodeChar (c : Char) : List Char :=
  if c = '"' then ['\\', '"']
  else if c = '\\' then ['\\', '\\']
  else if c = '\n' then ['\\', 'n']
  else if c = '\t' then ['\\', 't']
  else if c = '\r' then ['\\', 'r']
  else if c = '\x00' then ['\\', '0']
  else if Unprintable.contains c then
    ['\\', 'u', Char.ofNat 0x7B] ++ Nat.toDigits 16 c.toNat ++ [Char.ofNat 0x7D]
  else [c]

/-- A text between quotation marks. -/
def encode (s : String) : String :=
  String.ofList ('"' :: s.toList.flatMap encodeChar ++ ['"'])

end SlottedFile.Text.Quoted
