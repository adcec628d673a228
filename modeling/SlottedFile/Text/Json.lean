/-!
# JSON over several lines

A JSON value is written as a list of lines: every element of an array and every
member of an object begins a line of its own and is indented by two blanks. An
empty array or object stays on one line.
-/

namespace SlottedFile.Text.Json

/-- A written value, line by line. -/
abbrev Written := List String

/-- An absent value. -/
def null : Written := ["null"]

/-- A number. -/
def number (n : Nat) : Written := [toString n]

/-- A truth value. -/
def bool (b : Bool) : Written := [if b then "true" else "false"]

/-- The value that is there, or else the absent one. -/
def optional {α : Type} (f : α → Written) : Option α → Written
  | some a => f a
  | none => null

/-- A control character by its number. -/
def numbered (c : Char) : List Char :=
  let digits := Nat.toDigits 16 c.toNat
  ['\\', 'u'] ++ List.replicate (4 - digits.length) '0' ++ digits

/-- How one character stands inside a text. -/
def escape (c : Char) : List Char :=
  if c = '"' then ['\\', '"']
  else if c = '\\' then ['\\', '\\']
  else if c = '\n' then ['\\', 'n']
  else if c = '\r' then ['\\', 'r']
  else if c = '\t' then ['\\', 't']
  else if c = '\x08' then ['\\', 'b']
  else if c = '\x0c' then ['\\', 'f']
  else if c.toNat < 0x20 then numbered c
  else [c]

/-- A text on one line, between quotation marks. -/
def quoted (s : String) : String := String.ofList ('"' :: s.toList.flatMap escape ++ ['"'])

/-- A text. -/
def text (s : String) : Written := [quoted s]

/-- A comma at the end of a written value. -/
def withComma : Written → Written
  | [] => []
  | [last] => [last ++ ","]
  | line :: rest => line :: withComma rest

/-- Written values one after the other, with commas between them. -/
def separated : List Written → Written
  | [] => []
  | [last] => last
  | item :: rest => withComma item ++ separated rest

/-- Written values between brackets. -/
def bracketed (opening closing : String) (items : List Written) : Written :=
  if items.isEmpty then [opening ++ closing]
  else [opening] ++ (separated items).map ("  " ++ ·) ++ [closing]

/-- An array. -/
def array (items : List Written) : Written := bracketed "[" "]" items

/-- A member of an object. -/
def member (name : String) : Written → Written
  | [] => []
  | first :: rest => (quoted name ++ ": " ++ first) :: rest

/-- An object with its members in the order given. -/
def object (members : List (String × Written)) : Written :=
  bracketed "\x7b" "\x7d" (members.map fun m => member m.1 m.2)

end SlottedFile.Text.Json
