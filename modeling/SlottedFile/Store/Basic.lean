import SlottedFile.Event
import SlottedFile.PagedFiles

/-!
# The store

A store is a set of open files with a pool of buffered pages in front of them.
A page that is buffered lives in a frame. The pool says which pages are
buffered, in which frames, how many pins keep each from being evicted, and
whether the frame holds anything that the file does not.

Frames are numbered once and for all. A frame whose page has left the pool can
still be read and written by whoever kept its number, but is no longer a copy
of anything.

Beside the pins that the pool counts, the store keeps the list of the pins that
are held as values (`Pin`), each with the note whether its holder wrote to the
page. Several stores can work on one disk by turns; each has open files and a
pool of its own (`Store.after`).
-/

namespace SlottedFile

/-- A page of an open file. -/
structure PageKey where
  file : Nat
  page : Nat
  deriving DecidableEq, Repr

/-- The number of a frame. -/
abbrev FrameId := Nat

/-- **A buffered page.** -/
structure PoolEntry where
  key : PageKey
  frame : FrameId
  /-- Whether the frame may differ from the file. -/
  dirty : Bool
  /-- A page with a pin is never evicted. -/
  pins : Nat
  deriving DecidableEq, Repr

/-- **The buffered pages**, the most recently used one first. -/
structure Pool where
  capacity : Nat
  entries : List PoolEntry := []
  deriving DecidableEq, Repr

/-- **A pin that is held as a value.** -/
structure Pin where
  /-- No two pins have the same number. -/
  id : Nat
  key : PageKey
  frame : FrameId
  deriving DecidableEq, Repr

/-- **A pin that has not been released**, and whether its holder wrote to the
page. -/
structure HeldPin where
  pin : Pin
  dirty : Bool
  deriving DecidableEq, Repr

/-- **Open files, buffered pages and held pins.** -/
structure Store where
  files : Files
  pool : Pool
  frames : Array Block := #[]
  /-- The pins that are held, the latest first. -/
  held : List HeldPin := []
  /-- The number of the next pin. -/
  nextPin : Nat := 0
  /-- What has been reported, the latest first. -/
  events : List Event := []

/-- An operation on the store. -/
abbrev StoreM (ε : Type) := EStateM (Fault ε) Store

namespace Pool

/-- The number of frames if none is asked for. -/
def defaultCapacity : Nat := 1024

/-- An empty pool. It has one frame at least. -/
def ofCapacity (capacity : Nat) : Pool := { capacity := max capacity 1 }

/-- The buffered page with a key. -/
def find? (p : Pool) (key : PageKey) : Option PoolEntry := p.entries.find? (·.key == key)

/-- The pool without a page. -/
def erase (p : Pool) (key : PageKey) : Pool :=
  { p with entries := p.entries.filter (·.key != key) }

/-- The pool with a page as its most recently used one. -/
def use (p : Pool) (e : PoolEntry) : Pool :=
  { p with entries := e :: (p.erase e.key).entries }

/-- Change the entry of a page, where it is. -/
def update (p : Pool) (key : PageKey) (f : PoolEntry → PoolEntry) : Pool :=
  { p with entries := p.entries.map fun e => if e.key = key then f e else e }

/-- The pages that satisfy a condition, the most recently used one first. -/
def keysWhere (p : Pool) (cond : PoolEntry → Bool) : List PageKey :=
  (p.entries.filter cond).map (·.key)

/-- The page to evict: of those without a pin, the one used least recently. -/
def victim? (p : Pool) : Option PageKey :=
  (p.entries.reverse.find? (·.pins == 0)).map (·.key)

/-- The number of buffered pages. -/
def size (p : Pool) : Nat := p.entries.length

/-- The number of dirty pages. -/
def dirtyCount (p : Pool) : Nat := p.entries.countP (·.dirty)

/-- The number of pages with a pin. -/
def pinnedCount (p : Pool) : Nat := p.entries.countP (·.pins > 0)

/-- Whether a page is buffered. -/
def contains (p : Pool) (key : PageKey) : Bool := (p.find? key).isSome

/-- The number of pins of a page; a page that is not buffered has none. -/
def pinCount (p : Pool) (key : PageKey) : Nat :=
  match p.find? key with
  | some e => e.pins
  | none => 0

end Pool

namespace Store

/-- A store on a disk, with nothing open. -/
def ofDisk (disk : Disk) (capacity maxFiles : Nat) : Store where
  files := { disk, table := { limit := maxFiles } }
  pool := .ofCapacity capacity

/-- **A store that goes on after another one was at work.** Stores on one disk
share it, and they share the frames and the held pins, so that a page which one
has pinned can be edited through another. -/
def after (s last : Store) : Store :=
  { s with
    files := { s.files with disk := last.files.disk }
    frames := last.frames
    held := last.held
    nextPin := last.nextPin }

/-- An operation on the open files. -/
def onFiles {α : Type} (x : FilesM α) : StoreM FileError α :=
  onPart Store.files (fun files s => { s with files }) id x

/-- Report an event. -/
def report {ε : Type} (e : Event) : StoreM ε Unit :=
  modify fun s => { s with events := e :: s.events }

/-- Change the pool. -/
def modifyPool {ε : Type} (f : Pool → Pool) : StoreM ε Unit :=
  modify fun s => { s with pool := f s.pool }

/-- The bytes of a frame. -/
def frame (s : Store) (f : FrameId) : Block := s.frames.getD f (Buffer.zero blockSize)

/-- A new frame with some bytes. -/
def newFrame {ε : Type} (b : Block) : StoreM ε FrameId := do
  let f := (← get).frames.size
  modify fun s => { s with frames := s.frames.push b }
  return f

/-- Look at the bytes of a frame. -/
def viewFrame {ε α : Type} (f : FrameId) (g : Block → Except Overrun α) : StoreM ε α := do
  liftOverrun (g ((← get).frame f))

/-- Edit the bytes of a frame. What was written before an overrun stays
written. -/
def editFrame {ε α : Type} (f : FrameId) (e : Buffer.Edit blockSize α) : StoreM ε α := fun s =>
  match e (s.frame f) with
  | .ok a b => .ok a { s with frames := s.frames.setIfInBounds f b }
  | .error o b => .error (.overrun o) { s with frames := s.frames.setIfInBounds f b }

end Store

end SlottedFile
