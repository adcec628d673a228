import SlottedFile.RecordFile.Basic

/-!
# The life of a record file

A record file is created empty, opened any number of times, closed, and at last
destroyed. Pages behind the last one that the header counts were never part of
the file, and are cut off when it is opened.
-/

namespace SlottedFile.RecordFile

/-- **Create an empty record file.** -/
def create (path : Path) (options : FileOptions) : StoreM RecordError Unit := do
  match FileHeader.create options with
  | .error e => fail e
  | .ok header =>
    passing do
      Store.onFiles (Files.createFile path)
      let handle ← Store.onFiles (Files.openFile path)
      let written ← attempt (Store.onFiles (Files.writeHeader handle header.encode))
      Store.onFiles (Files.closeFile handle)
      match written with
      | .ok _ => pure ()
      | .error e => fail e
    Store.report (.fileCreated path header.recordSize header.recordsPerPage)

/-- Read the header of a file, and cut off the pages that it does not count. -/
def loadHeader (handle : Nat) : StoreM RecordError FileHeader := do
  let block ← passing (Store.onFiles (Files.readHeader handle))
  match FileHeader.decode block.toList with
  | .error e => fail e
  | .ok header =>
    let held ← passing (Store.onFiles (Files.pageCount handle))
    if held < header.pages then fail (.invalidHeader (.missingPages header.pages held))
    if held > header.pages then
      Store.report (.pagesDropped (held - header.pages) header.pages)
      passing (Store.onFiles (Files.truncatePages handle header.pages))
    return header

/-- **Open a record file.** If its header cannot be loaded, its handle is
closed. -/
def openFile (path : Path) : StoreM RecordError RecordFile := do
  let handle ← passing (Store.onFiles (Files.openFile path))
  match ← attempt (loadHeader handle) with
  | .ok header =>
    Store.report (.fileOpened path header.pages)
    return { handle, header }
  | .error e =>
    passing (Store.onFiles (Files.closeFile handle))
    fail e

/-- **Close a record file**: its header and its pages are written back and its
handle is closed. The pages and the handle are let go even if the header cannot
be written. -/
def close (f : RecordFile) : StoreM RecordError Unit := do
  let persisted ← attempt f.persistHeader
  passing (Store.discardFile f.handle)
  passing (Store.onFiles (Files.closeFile f.handle))
  match persisted with
  | .ok _ => Store.report (.fileClosed f.handle)
  | .error e => fail e

/-- **Remove a record file from the disk.** -/
def destroy (path : Path) : StoreM RecordError Unit := do
  passing (Store.onFiles (Files.removeFile path))
  Store.report (.fileDestroyed path)

end SlottedFile.RecordFile
