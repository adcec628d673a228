import SlottedFile.Store.Basic

/-!
# Fetching, releasing and writing back pages

A page that is not buffered is read into a new frame, for which the least
recently used page without a pin makes room; a dirty page is written back
before it goes. Only a fetch and a new page count as a use. A page that cannot
be written back stays where it is, and the operation that needed its frame
fails.
-/

namespace SlottedFile.Store

/-- Write a page back if it is buffered and dirty. -/
def flushPage (key : PageKey) : StoreM FileError Unit := do
  match (← get).pool.find? key with
  | some e =>
    if e.dirty then
      onFiles (Files.writePage key.file key.page ((← get).frame e.frame))
      modifyPool (·.update key fun e => { e with dirty := false })
  | none => pure ()

/-- Evict the least recently used page that has no pin. -/
def evictOldest : StoreM FileError Unit := do
  match (← get).pool.victim? with
  | some key =>
    flushPage key
    modifyPool (·.erase key)
  | none => fail (.bufferPoolFull (← get).pool.capacity)

/-- **Make sure that a frame is free.** There are never more pages buffered than frames, so
that to evict one page is to evict until a frame is free (`makeRoomWithin_eq`). -/
def makeRoom : StoreM FileError Unit := do
  let pool := (← get).pool
  if pool.size ≥ pool.capacity then evictOldest

/-- Read a page into a new frame, without a pin. -/
def load (key : PageKey) : StoreM FileError Unit := do
  makeRoom
  let b ← onFiles (Files.readPage key.file key.page blockSize)
  let frame ← newFrame b
  modifyPool (·.use { key, frame, dirty := false, pins := 0 })

/-- **Pin a page**, reading it if it is not buffered. -/
def fetch (key : PageKey) : StoreM FileError FrameId := do
  unless (← get).pool.contains key do load key
  match (← get).pool.find? key with
  | some e =>
    modifyPool (·.use { e with pins := e.pins + 1 })
    return e.frame
  | none => fail (.pageNotFound key.page)

/-- **Extend a file by a page of zeros and pin it.** It is dirty from the start.
Room is made before the file grows, so that a pool without room adds no page. -/
def newPage (file : Nat) : StoreM FileError (PageKey × FrameId) := do
  makeRoom
  let page ← onFiles (Files.allocatePage file)
  let key : PageKey := { file, page }
  let frame ← newFrame (Buffer.zero blockSize)
  modifyPool (·.use { key, frame, dirty := true, pins := 1 })
  report (.pageAllocated page file)
  return (key, frame)

/-- **Give back one pin of a page.** A page once reported dirty stays so until
it is written back. -/
def unpin (key : PageKey) (dirty : Bool) : StoreM FileError Unit := do
  match (← get).pool.find? key with
  | none => fail (.pageNotFound key.page)
  | some e =>
    if e.pins = 0 then fail (.pageNotPinned key.page)
    modifyPool (·.update key fun e => { e with pins := e.pins - 1, dirty := e.dirty || dirty })

/-- Report a buffered page as dirty. -/
def markDirty (key : PageKey) : StoreM FileError Unit := do
  match (← get).pool.find? key with
  | none => fail (.pageNotFound key.page)
  | some _ => modifyPool (·.update key fun e => { e with dirty := true })

/-- Write back the pages with some keys, up to the first that fails. -/
def flushPages (keys : List PageKey) : StoreM FileError Unit := keys.forM flushPage

/-- Write back every dirty page of a file. -/
def flushFile (file : Nat) : StoreM FileError Unit := do
  flushPages ((← get).pool.keysWhere fun e => e.key.file == file && e.dirty)
  onFiles (Files.syncFile file)

/-- Write back every dirty page. -/
def flushAll : StoreM FileError Unit := do
  flushPages ((← get).pool.keysWhere (·.dirty))
  onFiles Files.syncAll

/-- Take a page out of the pool, pins or no pins. -/
def drop {ε : Type} (key : PageKey) : StoreM ε Unit := do
  match (← get).pool.find? key with
  | some e =>
    modifyPool (·.erase key)
    if e.pins > 0 then report (.pageDiscarded key.page key.file e.pins)
  | none => pure ()

/-- **Write back the pages of a file and take them out of the pool.** If one
cannot be written back, all stay buffered. -/
def discardFile (file : Nat) : StoreM FileError Unit := do
  let keys := (← get).pool.keysWhere (·.key.file == file)
  flushPages keys
  keys.forM drop
  onFiles (Files.syncFile file)

/-- **Take a page out of the pool** unless it has a pin; says whether the page
is out. -/
def evict (key : PageKey) : StoreM FileError Bool := do
  match (← get).pool.find? key with
  | none => return true
  | some e =>
    if e.pins > 0 then return false
    flushPage key
    modifyPool (·.erase key)
    return true

/-- **End of a store**: what can be written back up to the first failure is
written back. What is left is the disk. -/
def shutdown (s : Store) : Disk :=
  match flushAll s with
  | .ok _ s' => s'.files.disk
  | .error _ s' => s'.files.disk

end SlottedFile.Store
