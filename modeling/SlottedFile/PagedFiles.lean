import SlottedFile.Disk.Basic
import SlottedFile.Error.File
import SlottedFile.Fault

/-!
# Paged files

A paged file is a file of the disk seen as a row of pages behind one block that
is kept for a header: data page `p` is block `p + 1`. Files are opened by path
and then named by a handle. A file is open at most once, whatever path it is
asked for by, and a handle is never given out twice.

The disk does not fail. A file that is open can be read, written, given any
length up to `maxOffset` and waited for; calls on it are refused only for a
handle that is not open, a buffer that is no page, or a place that is out of
range. A real device may also fail a call for reasons of its own, and nothing is
said here of what follows then.
-/

namespace SlottedFile

/-- **A file that is open.** -/
structure OpenFile where
  handle : Nat
  /-- The place it was opened at. -/
  place : Place
  image : ImageId
  deriving DecidableEq, Repr

/-- How many files may be open at a time if nothing else is asked for. -/
def FileTable.defaultLimit : Nat := 128

/-- **The files that are open**, in two maps that are kept one beside the other. -/
structure FileTable where
  /-- The open files by their handles. The latest comes first. -/
  opened : List OpenFile := []
  /-- The handles of the open files by the places they were opened at. The
  latest comes first. -/
  places : List (Place × Nat) := []
  /-- The handle that the next file gets. -/
  next : Nat := 0
  /-- How many files may be open at a time. -/
  limit : Nat := FileTable.defaultLimit
  deriving DecidableEq, Repr

namespace FileTable

/-- The open file with a handle. -/
def byHandle? (t : FileTable) (handle : Nat) : Option OpenFile :=
  t.opened.find? (·.handle == handle)

/-- The handle of the file that was opened at a place. -/
def handleAt? (t : FileTable) (place : Place) : Option Nat := t.places.lookup place

end FileTable

/-- **A disk with a table of the files that are open on it.** -/
structure Files where
  disk : Disk
  table : FileTable

/-- An operation on paged files. -/
abbrev FilesM := EStateM (Fault FileError) Files

namespace Files

/-- An operation of the disk. -/
def onDisk {α : Type} (x : DiskM α) : FilesM α := fun s =>
  match x s.disk with
  | .ok a disk => .ok a { s with disk }
  | .error e disk => .error (.error (.io e)) { s with disk }

/-- The open file with a handle. -/
def opened (handle : Nat) : FilesM OpenFile := do
  match (← get).table.byHandle? handle with
  | some file => return file
  | none => fail (.invalidHandle handle)

/-- The contents of an open file. -/
def image (file : OpenFile) : FilesM Image := return (← get).disk.image file.image

/-- Replace the contents of an open file. -/
def setImage (file : OpenFile) (img : Image) : FilesM Unit :=
  modify fun s => { s with disk := s.disk.setImage file.image img }

/-- A file can be neither longer than this nor read from behind it. -/
def maxOffset : Nat := 0x7FFFFFFFFFFFFFFF

/-- Give an open file a length. -/
def setSize (file : OpenFile) (size : Nat) : FilesM Unit := do
  if size > maxOffset then fail (.io .lengthTooLarge)
  setImage file ((← image file).setSize size)

/-! ## Opening and closing -/

/-- Create an empty file, and the directories above it that are missing. -/
def createFile (path : Path) : FilesM Unit := do
  if (← get).disk.exists? path then fail (.fileAlreadyExists path)
  match path.parent with
  | some up => onDisk (Disk.makeDirectories (path.segments.length + 1) up)
  | none => pure ()
  onDisk (Disk.createFile path)

/-- Open a file. If it is open already, its handle is returned. -/
def openFile (path : Path) : FilesM Nat := do
  match (← get).disk.canonical path with
  | .error _ => fail (.fileNotFound path)
  | .ok place =>
    let table := (← get).table
    match table.handleAt? place with
    | some handle => return handle
    | none =>
      if table.opened.length ≥ table.limit then fail .tooManyOpenFiles
      match (← get).disk.node? place with
      | some (.file image) =>
        let file : OpenFile := { handle := table.next, place, image }
        modify fun s => { s with table.next := s.table.next + 1 }
        modify fun s => { s with table.opened := file :: s.table.opened }
        modify fun s => { s with table.places := (place, file.handle) :: s.table.places }
        return file.handle
      | some .directory => fail (.io .isADirectory)
      | none => fail (.io .notFound)

/-- Close a file. Its handle is forgotten, and then the place it was opened
at. -/
def closeFile (handle : Nat) : FilesM Unit := do
  let file ← opened handle
  modify fun s => { s with table.opened := s.table.opened.filter (·.handle != handle) }
  modify fun s => { s with table.places := s.table.places.filter (·.1 ≠ file.place) }

/-- Remove a file, which is closed first if it is open. -/
def removeFile (path : Path) : FilesM Unit := do
  match (← get).disk.canonical path with
  | .ok place =>
    match (← get).table.handleAt? place with
    | some handle => closeFile handle
    | none => pure ()
  | .error _ => pure ()
  onDisk (Disk.removeFile path)

/-! ## Blocks -/

/-- Where a block begins. -/
def blockOffset (block : Nat) : FilesM Nat := liftOverrun (checkWord (block * blockSize))

/-- Read a block into a buffer, which has to be a block long. Past the end of
the file there are zeros. -/
def readBlock (handle block n : Nat) : FilesM (Buffer n) := do
  if h : blockSize = n then
    let file ← opened handle
    let off ← blockOffset block
    if off > maxOffset then fail (.io .invalidArgument)
    return ((← image file).block block).cast h
  else fail (.invalidPageSize blockSize n)

/-- Write a block from a buffer, which has to be a block long. A file that ends
before the block is extended first. -/
def writeBlock {n : Nat} (handle block : Nat) (data : Buffer n) : FilesM Unit := do
  if h : n = blockSize then
    let file ← opened handle
    let off ← blockOffset block
    let required ← liftOverrun (checkWord (off + blockSize))
    if (← image file).size < required then setSize file required
    if off > maxOffset then fail (.io .invalidArgument)
    setImage file ((← image file).setBlock block (data.cast h))
  else fail (.invalidPageSize blockSize n)

/-- The block that holds a data page. -/
def pageBlock (page : Nat) : FilesM Nat := liftOverrun (checkWord (page + 1))

/-- Read a data page into a buffer of `n` bytes. -/
def readPage (handle page n : Nat) : FilesM (Buffer n) := do
  readBlock handle (← pageBlock page) n

/-- Write a data page. -/
def writePage {n : Nat} (handle page : Nat) (data : Buffer n) : FilesM Unit := do
  writeBlock handle (← pageBlock page) data

/-- Wait until the contents of a file are on disk, where they are already. -/
def syncFile (handle : Nat) : FilesM Unit := do
  let _ ← opened handle

/-- Wait until the contents of all open files are on disk. -/
def syncAll : FilesM Unit := pure ()

/-- Read the header block. -/
def readHeader (handle : Nat) : FilesM Block := readBlock handle 0 blockSize

/-- Write the header block, filled up with zeros. -/
def writeHeader (handle : Nat) (bytes : List UInt8) : FilesM Unit := do
  if bytes.length > blockSize then fail (.headerTooLarge blockSize bytes.length)
  writeBlock handle 0 (Buffer.ofList blockSize bytes)
  syncFile handle

/-! ## Counting pages -/

/-- The number of data pages of a file. A block that is only begun counts. -/
def pageCount (handle : Nat) : FilesM Nat := do
  let file ← opened handle
  return (← image file).blockCount - 1

/-- Extend a file by a page of zeros. -/
def allocatePage (handle : Nat) : FilesM Nat := do
  let page ← pageCount handle
  let file ← opened handle
  setSize file (← liftOverrun (checkWord ((page + 2) * blockSize)))
  return page

/-- Cut a file, or extend it, to a number of data pages. -/
def truncatePages (handle pages : Nat) : FilesM Unit := do
  let file ← opened handle
  let blocks ← liftOverrun (checkWord (pages + 1))
  setSize file (← liftOverrun (checkWord (blocks * blockSize)))

/-- Whether a handle is open. -/
def isOpen (s : Files) (handle : Nat) : Bool := (s.table.byHandle? handle).isSome

/-- How many files are open. -/
def openCount (s : Files) : Nat := s.table.opened.length

end Files

end SlottedFile
