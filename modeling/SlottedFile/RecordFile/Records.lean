import SlottedFile.RecordFile.FreeList

/-!
# Inserting, deleting and updating records

Every page that an operation touches is pinned while it is touched, and every
page that a change of the free list needs is found and pinned before the first
byte is written.
-/

namespace SlottedFile

/-- **Put a record into a free slot and count it.** Says whether the page is full
now, and the link that it had; a full page has no link. -/
def PageLayout.fillSlot (l : PageLayout) (slot : Nat) (data : List UInt8) :
    Buffer.Edit blockSize (Bool × Option Nat) := do
  l.setSlot slot data
  l.setOccupied slot
  let records := (← Buffer.Edit.view PageHeader.decode).records + 1
  PageLayout.setRecords records
  let next := (← Buffer.Edit.view PageHeader.decode).next
  let full := records ≥ l.recordsPerPage
  if full then PageLayout.setNext none
  return (full, next)

/-- **Take a record out of its slot and count it no more.** -/
def PageLayout.vacateSlot (l : PageLayout) (slot : Nat) : Buffer.Edit blockSize Unit := do
  l.clearOccupied slot
  let records := (← Buffer.Edit.view PageHeader.decode).records
  PageLayout.setRecords (records - 1)

namespace Session

/-- Whether there is a record at a place of a pinned page. -/
def isLive (pin : Pin) (id : RecordId) : RecordM Bool :=
  onStore fun f => do
    if f.hasSlot id.slot then Store.view pin (f.layout.isOccupied · id.slot) else return false

/-- **Insert a record** into the lowest free slot of the head of the free
list. -/
def insert (data : List UInt8) : RecordM RecordId := do
  onStore (·.checkSize data)
  withPin freePage fun pin => do
    let page := pin.key.page
    match ← onStore fun f => Store.view pin f.layout.firstFreeSlot with
    | none => fail (.internal (.noFreeSlot page))
    | some slot =>
      let (full, next) ← edit pin (·.fillSlot slot data)
      if full then
        setFreeHead next
        report (.headFilled page next)
      return { page, slot }

/-- Fill a slot of a pinned page, and unlink the page if that makes it full. The
page before it on the free list, if there is one, is pinned. -/
def fillAndUnlink (pin : Pin) (id : RecordId) (data : List UInt8) (position : FreePosition)
    (before : Option Pin) : RecordM Unit := do
  let (full, next) ← edit pin (·.fillSlot id.slot data)
  if full then
    match position, before with
    | .head, _ => setFreeHead next
    | .after _, some prev => edit prev fun _ => PageLayout.setNext next
    | _, _ => report (.fullPageUnlisted id.page)
    report (.pageUnlisted id.page)

/-- **Insert a record at a given place**, which has to be free. -/
def insertAt (id : RecordId) (data : List UInt8) : RecordM Unit := do
  onStore (·.checkSize data)
  withPin (pinPage id.page) fun pin => do
    let f := (← get).file
    unless f.hasSlot id.slot do fail (.internal (.slotOutOfRange id))
    if ← onStore fun f => Store.view pin (f.layout.isOccupied · id.slot) then
      fail (.internal (.slotOccupied id))
    let header ← onStore fun _ => Store.view pin PageHeader.decode
    if header.records + 1 ≥ f.header.recordsPerPage then
      match ← onStore (·.locate id.page) with
      | .after prev =>
        withPin (pinPage prev) fun before => fillAndUnlink pin id data (.after prev) (some before)
      | position => fillAndUnlink pin id data position none
    else fillAndUnlink pin id data .absent none

/-- **Delete a record.** A page that was full rejoins the free list. -/
def delete (id : RecordId) : RecordM Unit :=
  withPin (pinPage id.page) fun pin => do
    unless ← isLive pin id do fail (.recordNotFound id)
    let wasFull ← onStore fun f => Store.view pin f.layout.isFull
    let relink ← if wasFull then onStore (·.canLink id.page) else pure false
    edit pin (·.vacateSlot id.slot)
    if relink then link pin

/-- **Replace a record.** -/
def update (id : RecordId) (data : List UInt8) : RecordM Unit := do
  onStore (·.checkSize data)
  withPin (pinPage id.page) fun pin => do
    unless ← isLive pin id do fail (.recordNotFound id)
    edit pin (·.setSlot id.slot data)

end Session

end SlottedFile
