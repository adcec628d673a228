import SlottedFile.Bitmap
import SlottedFile.FileHeader
import SlottedFile.Page.Header

/-!
# What lies where in a page

A page is its header, then the occupancy bitmap, then the slots one behind the
other. A layout says how long each part is; with it a buffer can be read and
edited as a page. Nothing here asks whether a slot is occupied before it reads
or writes the slot's bytes.
-/

namespace SlottedFile

/-- **Where things lie in the pages of one file.** -/
structure PageLayout where
  recordSize : Nat
  recordsPerPage : Nat
  bitmapSize : Nat
  deriving DecidableEq, Repr

/-- The layout of the pages of a file. -/
def FileHeader.layout (h : FileHeader) : PageLayout where
  recordSize := h.recordSize
  recordsPerPage := h.recordsPerPage
  bitmapSize := h.bitmapSize

namespace PageLayout

/-- Where a slot begins. -/
def slotOffset (l : PageLayout) (slot : Nat) : Nat :=
  PageHeader.size + l.bitmapSize + slot * l.recordSize

section Reading

variable {n : Nat} (l : PageLayout) (b : Buffer n)

/-- The occupancy bitmap. -/
def bitmap : Except Overrun Bitmap := b.slice PageHeader.size l.bitmapSize

/-- Whether a slot is occupied. -/
def isOccupied (slot : Nat) : Except Overrun Bool := do
  (← l.bitmap b).isSet slot

/-- The lowest free slot. -/
def firstFreeSlot : Except Overrun (Option Nat) := do
  return (← l.bitmap b).firstBit false l.recordsPerPage

/-- The first occupied slot from a slot on. The bitmap is looked at only if
there is a slot to look for. -/
def nextOccupied (slot : Nat) : Except Overrun (Option Nat) := do
  if slot < l.recordsPerPage then
    (← l.bitmap b).findSet (l.recordsPerPage - slot) slot
  else return none

/-- The number of occupied slots. -/
def occupiedCount : Except Overrun Nat := do
  (← l.bitmap b).countOnes l.recordsPerPage

/-- Whether the page counts as many records as it has slots. -/
def isFull : Except Overrun Bool := do
  return (← PageHeader.decode b).records ≥ l.recordsPerPage

/-- The bytes of a slot. -/
def slot (slot : Nat) : Except Overrun (List UInt8) := b.slice (l.slotOffset slot) l.recordSize

end Reading

section Editing

open Buffer (Edit)

variable {n : Nat} (l : PageLayout)

/-- Replace the page header. -/
def setHeader (h : PageHeader) : Edit n Unit := Edit.replace 0 PageHeader.size h.encode

/-- Change the page header. -/
def updateHeader (f : PageHeader → PageHeader) : Edit n Unit := do
  setHeader (f (← Edit.view PageHeader.decode))

/-- Count a number of records. -/
def setRecords (records : Nat) : Edit n Unit := updateHeader fun h => { h with records }

/-- Link the page to the next one on the free list. -/
def setNext (next : Option Nat) : Edit n Unit := updateHeader fun h => { h with next }

/-- Change the occupancy bitmap. -/
def updateBitmap (f : Bitmap → Except Overrun Bitmap) : Edit n Unit := do
  let bits ← Edit.view fun b => (l.bitmap b).bind f
  Edit.write PageHeader.size bits

/-- Mark a slot as occupied. -/
def setOccupied (slot : Nat) : Edit n Unit := l.updateBitmap (·.set slot)

/-- Mark a slot as free. -/
def clearOccupied (slot : Nat) : Edit n Unit := l.updateBitmap (·.reset slot)

/-- Replace the bytes of a slot. -/
def setSlot (slot : Nat) (data : List UInt8) : Edit n Unit :=
  Edit.replace (l.slotOffset slot) l.recordSize data

/-- Make the page an empty one with a link. -/
def init (next : Option Nat) : Edit n Unit := do
  setHeader { records := 0, next }
  l.updateBitmap fun bits => .ok (List.replicate bits.length 0)

end Editing

end PageLayout

end SlottedFile
