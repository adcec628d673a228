import SlottedFile.Page.Layout
import SlottedFile.Store.Pin

/-!
# Record files

A record file keeps records of one length in the slots of its pages. Whoever has
it open holds a copy of its header, which is written to the header block
whenever the page count or the head of the free list changes.

Operations that only read take the open file as an argument and leave it alone.
Operations that may change the header run on a session, which is a store
together with the open file.
-/

namespace SlottedFile

/-- **An open record file.** -/
structure RecordFile where
  /-- The handle of the paged file. -/
  handle : Nat
  header : FileHeader
  deriving DecidableEq, Repr

/-- **A store and a record file that is open in it.** -/
structure Session where
  store : Store
  file : RecordFile

/-- An operation that may change the header of a record file. -/
abbrev RecordM := EStateM (Fault RecordError) Session

namespace RecordFile

variable (f : RecordFile)

/-- The layout of the pages. -/
def layout : PageLayout := f.header.layout

/-- Whether a page has a slot with a number. -/
def hasSlot (slot : Nat) : Bool := slot < f.header.recordsPerPage

/-- An operation of the store whose errors are passed on. -/
def passing {α : Type} (x : StoreM FileError α) : StoreM RecordError α := widenError .file x

/-- Pin a page of the file. -/
def pinPage (page : Nat) : StoreM RecordError Pin := do
  if page ≥ f.header.pages then fail (.pageNotExist page)
  widenError (fun e => .internal (.fetch page e)) (Store.pinPage f.handle page)

/-- Hold a page of the file while something is done. -/
def withPage {α : Type} (page : Nat) (body : Pin → StoreM RecordError α) : StoreM RecordError α :=
  Store.withPin (f.pinPage page) body

/-- Write the header to the header block. -/
def persistHeader : StoreM RecordError Unit :=
  passing (Store.onFiles (Files.writeHeader f.handle f.header.encode))

/-- Write the header and every dirty page to the file. -/
def flush : StoreM RecordError Unit := do
  f.persistHeader
  passing (Store.flushFile f.handle)

/-- Refuse a record of the wrong length. -/
def checkSize (data : List UInt8) : StoreM RecordError Unit := do
  if data.length ≠ f.header.recordSize then
    fail (.invalidRecordSize f.header.recordSize data.length)

/-- **The record at a place.** -/
def get (id : RecordId) : StoreM RecordError (List UInt8) :=
  f.withPage id.page fun pin => do
    unless f.hasSlot id.slot do fail (.recordNotFound id)
    unless ← Store.view pin (f.layout.isOccupied · id.slot) do fail (.recordNotFound id)
    Store.view pin (f.layout.slot · id.slot)

end RecordFile

namespace Session

/-- An operation of the store that is given the open file. -/
def onStore {α : Type} (x : RecordFile → StoreM RecordError α) : RecordM α := fun s =>
  match x s.file s.store with
  | .ok a store => .ok a { s with store }
  | .error e store => .error e { s with store }

/-- Change the header that the session holds. -/
def modifyHeader (f : FileHeader → FileHeader) : RecordM Unit :=
  modify fun s => { s with file := { s.file with header := f s.file.header } }

/-- Write the header to the header block. -/
def persistHeader : RecordM Unit := onStore (·.persistHeader)

/-- Report an event. -/
def report (e : Event) : RecordM Unit := onStore fun _ => Store.report e

/-- Give a pin back. -/
def release (pin : Pin) : RecordM Unit := onStore fun _ => Store.release pin

/-- Edit a pinned page, given the layout of the pages. -/
def edit {α : Type} (pin : Pin) (e : PageLayout → Buffer.Edit blockSize α) : RecordM α :=
  onStore fun f => Store.edit pin (e f.layout)

/-- Pin a page of the file. -/
def pinPage (page : Nat) : RecordM Pin := onStore (·.pinPage page)

/-- Hold a pin while something is done. -/
def withPin {α : Type} (take : RecordM Pin) (body : Pin → RecordM α) : RecordM α := do
  let pin ← take
  try body pin finally release pin

end Session

/-- **Change a record file in a store**, and give it back with the header that
the change left it with. -/
def RecordFile.change {α : Type} (file : RecordFile) (x : RecordM α) :
    StoreM RecordError (α × RecordFile) := fun store =>
  match x { store, file } with
  | .ok a s => .ok (a, s.file) s.store
  | .error e s => .error e s.store

end SlottedFile
