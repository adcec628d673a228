import SlottedFile.Fault

/-!
# Occupancy bitmaps

A bitmap is a byte string read as a row of bits: bit `i` is bit `i % 8` of byte
`i / 8`, least significant first. Reading or writing a bit past the last byte
overruns; `firstBit` alone looks only at bits that exist.
-/

namespace SlottedFile

/-- A byte string read as a row of bits. -/
abbrev Bitmap := List UInt8

namespace Bitmap

/-- The byte whose only set bit is bit `i % 8`. -/
def mask (i : Nat) : UInt8 := 1 <<< UInt8.ofNat (i % 8)

/-- Whether bit `i` is set. -/
def isSet (bits : Bitmap) (i : Nat) : Except Overrun Bool :=
  match bits[i / 8]? with
  | some byte => .ok (byte &&& mask i != 0)
  | none => .error .range

/-- Set bit `i`. -/
def set (bits : Bitmap) (i : Nat) : Except Overrun Bitmap :=
  match bits[i / 8]? with
  | some byte => .ok (List.set bits (i / 8) (byte ||| mask i))
  | none => .error .range

/-- Clear bit `i`. -/
def reset (bits : Bitmap) (i : Nat) : Except Overrun Bitmap :=
  match bits[i / 8]? with
  | some byte => .ok (List.set bits (i / 8) (byte &&& ~~~ mask i))
  | none => .error .range

/-- The lowest set bit of a byte. -/
def lowestBit (byte : UInt8) : Option Nat :=
  (List.range 8).find? fun i => byte &&& mask i != 0

/-- **The first of the first `n` bits that has a given value.** A byte without
such a bit is skipped whole; the first byte that has one decides, even if the
bit it has lies past the first `n`. -/
def firstBit (value : Bool) : Bitmap → (n : Nat) → Option Nat
  | [], _ => none
  | byte :: bits, n =>
    if n = 0 then none
    else
      match lowestBit (if value then byte else ~~~ byte) with
      | some i => if i < n then some i else none
      | none => (firstBit value bits (n - 8)).map (· + 8)

/-- The first set bit among the `count` bits from bit `i` on. -/
def findSet (bits : Bitmap) : (count i : Nat) → Except Overrun (Option Nat)
  | 0, _ => .ok none
  | count + 1, i =>
    match isSet bits i with
    | .ok true => .ok (some i)
    | .ok false => findSet bits count (i + 1)
    | .error o => .error o

/-- The number of set bits among the `count` bits from bit `i` on, added to
`found`. -/
def countFrom (bits : Bitmap) : (count i found : Nat) → Except Overrun Nat
  | 0, _, found => .ok found
  | count + 1, i, found =>
    match isSet bits i with
    | .ok b => countFrom bits count (i + 1) (if b then found + 1 else found)
    | .error o => .error o

/-- The number of set bits among the first `n`. -/
def countOnes (bits : Bitmap) (n : Nat) : Except Overrun Nat := countFrom bits n 0 0

/-- How many bytes hold `n` bits. -/
def bytesFor (n : Nat) : Nat := (n + 7) / 8

end Bitmap

end SlottedFile
