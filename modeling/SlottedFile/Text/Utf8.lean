/-!
# Text as bytes

A text is written in one to four bytes a character. Reading always succeeds:
bytes that are no text are read as replacement characters, one for each
longest run of bytes that begins a character and is not continued as one, and
one for each byte that cannot begin a character.
-/

namespace SlottedFile.Text.Utf8

/-- The bytes of a text. -/
def encode (s : String) : List UInt8 := s.toList.flatMap String.utf8EncodeChar

/-- What stands for bytes that are no text. -/
def replacement : Char := '\ufffd'

/-- **A character that has been begun.** -/
structure Begun where
  /-- The bytes still to come, after the next one. -/
  after : Nat
  /-- The bounds of the next byte. Only the first one after the lead can be
  narrower than all continuation bytes: it rules out characters written too
  long, surrogates and what lies past the last character. -/
  low : UInt8
  high : UInt8
  /-- The value of the bytes so far. -/
  value : Nat
  deriving DecidableEq, Repr

/-- What a byte gives where a character begins: a character at once, or a
character that has been begun. -/
def lead (b : UInt8) : List Char × Option Begun :=
  if b < 0x80 then ([Char.ofNat b.toNat], none)
  else if b < 0xC2 then ([replacement], none)
  else if b < 0xE0 then ([], some ⟨0, 0x80, 0xBF, b.toNat - 0xC0⟩)
  else if b < 0xF0 then
    let low := if b = 0xE0 then 0xA0 else 0x80
    let high := if b = 0xED then 0x9F else 0xBF
    ([], some ⟨1, low, high, b.toNat - 0xE0⟩)
  else if b < 0xF5 then
    let low := if b = 0xF0 then 0x90 else 0x80
    let high := if b = 0xF4 then 0x8F else 0xBF
    ([], some ⟨2, low, high, b.toNat - 0xF0⟩)
  else ([replacement], none)

/-- What the next byte gives. A byte that does not continue the character that
has been begun gives a replacement character, and then what it gives where a
character begins. -/
def next (begun : Option Begun) (b : UInt8) : List Char × Option Begun :=
  match begun with
  | none => lead b
  | some c =>
    if c.low ≤ b ∧ b ≤ c.high then
      let value := c.value * 64 + (b.toNat - 0x80)
      match c.after with
      | 0 => ([Char.ofNat value], none)
      | after + 1 => ([], some ⟨after, 0x80, 0xBF, value⟩)
    else (replacement :: (lead b).1, (lead b).2)

/-- The characters of a byte string, from a character that has been begun on. -/
def decodeFrom : Option Begun → List UInt8 → List Char
  | none, [] => []
  | some _, [] => [replacement]
  | begun, b :: bytes => (next begun b).1 ++ decodeFrom (next begun b).2 bytes

/-- **The text of a byte string.** -/
def decode (bytes : List UInt8) : String := String.ofList (decodeFrom none bytes)

end SlottedFile.Text.Utf8
