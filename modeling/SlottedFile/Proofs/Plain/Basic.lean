import Mathlib.Logic.Function.Basic
import SlottedFile.RecordFile.Records
import SlottedFile.RecordFile.Report
import SlottedFile.RecordFile.Scan

/-!
# A record file without a pool

`PlainFile` is a record file as its users think of it: the header, the header
block, and a page for every number. Its operations are those of the record file
with everything left out that has to do with the pool – no page is pinned, and
none can fail to be.

The operations of the record file do what these do, or fail for want of a page
and change nothing. What is true of them can therefore be proved here, where
there is no store to look at.
-/

namespace SlottedFile

/-- **A record file without a pool.** -/
structure PlainFile where
  header : FileHeader
  /-- The header block. -/
  stored : Block
  /-- The number of data pages that the file holds. -/
  count : Nat
  page : Nat → Block

/-- An operation on a plain file. -/
abbrev PlainM := EStateM (Fault RecordError) PlainFile

namespace PlainFile

/-- The layout of the pages. -/
def layout (p : PlainFile) : PageLayout := p.header.layout

/-- Refuse a page that the header does not count. -/
def checkPage (page : Nat) : PlainM Unit := do
  if page ≥ (← get).header.pages then fail (.pageNotExist page)

/-- Refuse a record of the wrong length. -/
def checkSize (data : List UInt8) : PlainM Unit := do
  let size := (← get).header.recordSize
  if data.length ≠ size then fail (.invalidRecordSize size data.length)

/-- Whether a page has a slot with a number. -/
def hasSlot (p : PlainFile) (slot : Nat) : Bool := slot < p.header.recordsPerPage

/-- Look at the bytes of a page. -/
def look {α : Type} (page : Nat) (f : PageLayout → Block → Except Overrun α) : PlainM α := do
  let p ← get
  liftOverrun (f p.layout (p.page page))

/-- The file with other bytes in a page. -/
def withPage (p : PlainFile) (page : Nat) (b : Block) : PlainFile :=
  { p with page := Function.update p.page page b }

/-- Edit the bytes of a page. -/
def edit {α : Type} (page : Nat) (e : PageLayout → Buffer.Edit blockSize α) : PlainM α := fun p =>
  match e p.layout (p.page page) with
  | .ok a b => .ok a (p.withPage page b)
  | .error o b => .error (.overrun o) (p.withPage page b)

/-- The file with another header, which is written down. -/
def withHeader (p : PlainFile) (h : FileHeader) : PlainFile :=
  { p with header := h, stored := Buffer.ofList blockSize h.encode }

/-- Change the header, and write it down. -/
def putHeader (f : FileHeader → FileHeader) : PlainM Unit :=
  modify fun p => p.withHeader (f p.header)

/-- Write the header and every page to the file, where they are. -/
def flush : PlainM Unit := putHeader id

/-- Whether there is a record at a place. -/
def isLive (id : RecordId) : PlainM Bool := do
  if (← EStateM.get).hasSlot id.slot then look id.page (·.isOccupied · id.slot) else return false

/-- The record at a place. -/
def get (id : RecordId) : PlainM (List UInt8) := do
  checkPage id.page
  unless ← isLive id do fail (.recordNotFound id)
  look id.page (·.slot · id.slot)

/-! ## The free list -/

/-- The link of a page. -/
def nextFree (page : Nat) : PlainM (Option Nat) := do
  checkPage page
  return (← look page fun _ => PageHeader.decode).next

/-- Look for a page from a point of the free list on, following at most `left`
links. -/
def locateFrom (page : Nat) : (left : Nat) → (prev current : Option Nat) → PlainM FreePosition
  | _, _, none => pure .absent
  | left, prev, some listed =>
    if listed = page then
      pure (match prev with | none => .head | some p => .after p)
    else
      match left with
      | 0 => do fail (.internal (.endlessFreeList (← EStateM.get).header.pages))
      | left + 1 => do
        let next ← nextFree listed
        locateFrom page left (some listed) next

/-- Where a page stands in the free list. -/
def locate (page : Nat) : PlainM FreePosition := do
  let h := (← EStateM.get).header
  locateFrom page h.pages none h.freeHead

/-- Whether a page may be put on the free list. -/
def canLink (page : Nat) : PlainM Bool := do
  return (← locate page) = .absent

/-- Give the free list another head. -/
def setFreeHead (head : Option Nat) : PlainM Unit := putHeader fun h => { h with freeHead := head }

/-- Put a page at the front of the free list. -/
def link (page : Nat) : PlainM Unit := do
  let head := (← EStateM.get).header.freeHead
  edit page fun _ => PageLayout.setNext head
  setFreeHead (some page)

/-- Extend the file by a page. -/
def grow : PlainM Nat := modifyGet fun p => (p.count, { p with count := p.count + 1 })

/-- Make the page behind the last one that the header counts an empty one, at the
front of the free list. -/
def addPage (page : Nat) : PlainM Unit := do
  let h := (← EStateM.get).header
  if page ≠ h.pages then fail (.internal (.unexpectedPage page h.pages))
  edit page (·.init h.freeHead)
  putHeader fun h => { h with pages := h.pages + 1, freeHead := some page }

/-- Extend the file by an empty page at the front of the free list. -/
def newPage : PlainM Nat := do
  let page ← grow
  addPage page
  return page

/-- A page with a free slot: the head of the free list, or else a new page. -/
def freePage : PlainM Nat := do
  match (← EStateM.get).header.freeHead with
  | none => newPage
  | some page => do
    checkPage page
    return page

/-- Put a page on the free list, unless it is listed already. -/
def releasePage (page : Nat) : PlainM Unit := do
  if ← canLink page then link page

/-! ## Records -/

/-- Fill a slot of a page, and unlink the page if that makes it full. -/
def fillAndUnlink (id : RecordId) (data : List UInt8) (position : FreePosition) : PlainM Unit := do
  let (full, next) ← edit id.page (·.fillSlot id.slot data)
  if full then
    match position with
    | .head => setFreeHead next
    | .after prev => edit prev fun _ => PageLayout.setNext next
    | .absent => pure ()

/-- Insert a record into the lowest free slot of the head of the free list. -/
def insert (data : List UInt8) : PlainM RecordId := do
  checkSize data
  let page ← freePage
  match ← look page (·.firstFreeSlot) with
  | none => fail (.internal (.noFreeSlot page))
  | some slot =>
    fillAndUnlink { page, slot } data .head
    return { page, slot }

/-- Insert a record at a given place, which has to be free. -/
def insertAt (id : RecordId) (data : List UInt8) : PlainM Unit := do
  checkSize data
  checkPage id.page
  unless (← EStateM.get).hasSlot id.slot do fail (.internal (.slotOutOfRange id))
  if ← look id.page (·.isOccupied · id.slot) then fail (.internal (.slotOccupied id))
  let header ← look id.page fun _ => PageHeader.decode
  if header.records + 1 ≥ (← EStateM.get).header.recordsPerPage then
    match ← locate id.page with
    | .after prev => do
      checkPage prev
      fillAndUnlink id data (.after prev)
    | position => fillAndUnlink id data position
  else fillAndUnlink id data .absent

/-- Delete a record. A page that was full rejoins the free list. -/
def delete (id : RecordId) : PlainM Unit := do
  checkPage id.page
  unless ← isLive id do fail (.recordNotFound id)
  let wasFull ← look id.page (·.isFull)
  let relink ← if wasFull then canLink id.page else pure false
  edit id.page (·.vacateSlot id.slot)
  if relink then link id.page

/-- Replace a record. -/
def update (id : RecordId) (data : List UInt8) : PlainM Unit := do
  checkSize data
  checkPage id.page
  unless ← isLive id do fail (.recordNotFound id)
  edit id.page (·.setSlot id.slot data)

/-! ## Scanning -/

/-- The first record at or after a slot of a page, among `left` pages. -/
def seekFrom : (left page slot : Nat) → PlainM (Option RecordId)
  | 0, _, _ => pure none
  | left + 1, page, slot => do
    checkPage page
    match ← look page (·.nextOccupied · slot) with
    | some hit => return some { page, slot := hit }
    | none => seekFrom left (page + 1) 0

/-- The first record at or after a place. -/
def seek (page slot : Nat) : PlainM (Option RecordId) := do
  seekFrom ((← EStateM.get).header.pages - page) page slot

/-! ## Inspection -/

/-- What a page looks like, the free list apart. -/
def inspectPage (page : Nat) : PlainM PageReport := do
  checkPage page
  let header ← look page fun _ => PageHeader.decode
  let occupied ← look page (·.occupiedCount)
  return {
    page
    records := header.records
    occupied
    next := header.next
    listed := false
    full := header.records ≥ (← EStateM.get).header.recordsPerPage }

/-- Visit every page, then follow the free list. -/
def inspect : PlainM FileReport := do
  let header := (← EStateM.get).header
  return .ofPages header (← (List.range header.pages).mapM inspectPage)

/-- Fail if anything is wrong with the file. -/
def check : PlainM Unit := do
  let violations := (← inspect).violations
  unless violations.isEmpty do fail (.internal (.violations violations))

end PlainFile

end SlottedFile
