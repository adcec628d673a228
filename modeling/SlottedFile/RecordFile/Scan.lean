import SlottedFile.RecordFile.Basic

/-!
# Scanning a record file

A scan visits the occupied slots of a file in the order of their places. It
holds no pin between steps, so that a step may fail for want of a frame; the
scan can then be advanced again. Read as an iterator, a scan gives out its
current record and looks for the next one, and a failure to find that one is
given out in its turn, after which the scan is at its end.
-/

namespace SlottedFile

/-- **A scan of a record file.** -/
structure Scan where
  /-- The current record; at the end there is none. -/
  position : Option RecordId
  /-- A failure that is still to be given out. -/
  pending : Option RecordError := none
  deriving DecidableEq, Repr

namespace Scan

variable (f : RecordFile)

/-- The first record at or after a slot of a page, among `left` pages. -/
def seekFrom : (left page slot : Nat) → StoreM RecordError (Option RecordId)
  | 0, _, _ => pure none
  | left + 1, page, slot => do
    match ← f.withPage page fun pin => Store.view pin (f.layout.nextOccupied · slot) with
    | some hit => return some { page, slot := hit }
    | none => seekFrom left (page + 1) 0

/-- The first record at or after a place. -/
def seek (page slot : Nat) : StoreM RecordError (Option RecordId) :=
  seekFrom f (f.header.pages - page) page slot

/-- A scan at the first record. -/
def start : StoreM RecordError Scan := do
  return { position := ← seek f 0 0 }

/-- Whether a scan is at its end. -/
def isEnd (s : Scan) : Bool := s.position.isNone

/-- **Move to the next record.** A failure leaves the scan where it is, and the
end is never left. -/
def advance (s : Scan) : StoreM RecordError Scan := do
  match s.position with
  | some id => return { s with position := ← seek f id.page (id.slot + 1) }
  | none => return s

/-- What a scan gives out. -/
abbrev Item := Except RecordError RecordId

/-- **Give out the next item**, if there is one. -/
def next (s : Scan) : StoreM RecordError (Option Item × Scan) := do
  match s.pending with
  | some e => return (some (.error e), { s with pending := none })
  | none =>
    match s.position with
    | none => return (none, s)
    | some id =>
      match ← attempt (s.advance f) with
      | .ok s' => return (some (.ok id), s')
      | .error e => return (some (.ok id), { position := none, pending := some e })

/-- The items of a scan, at most `bound` of them. -/
def itemsFrom : (bound : Nat) → Scan → StoreM RecordError (List Item)
  | 0, _ => pure []
  | bound + 1, s => do
    match ← s.next f with
    | (none, _) => return []
    | (some item, s') => return item :: (← itemsFrom bound s')

/-- A scan has no more items than the file has slots, and one failure. -/
def bound : Nat := f.header.pages * f.header.recordsPerPage + 1

/-- **All items of a scan.** -/
def items : StoreM RecordError (List Item) := do
  itemsFrom f (bound f) (← start f)

end Scan

end SlottedFile
