import SlottedFile.Store.Pool

/-!
# Pins held as values

A `Pin` stands for one pin of a page. It is taken by `pinPage` or `pinNewPage`,
gives access to the bytes of the page's frame, and is given back by `release`,
which reports the page dirty if its holder wrote to it. `withPin` gives a pin
back whatever happens while it is held.
-/

namespace SlottedFile.Store

/-- Hold a pin that the pool has counted already. -/
def hold {ε : Type} (key : PageKey) (frame : FrameId) (dirty : Bool) : StoreM ε Pin := do
  let pin : Pin := { id := (← get).nextPin, key, frame }
  modify fun s => { s with held := ⟨pin, dirty⟩ :: s.held, nextPin := s.nextPin + 1 }
  return pin

/-- Pin a page of a file. -/
def pinPage (file page : Nat) : StoreM FileError Pin := do
  let frame ← fetch { file, page }
  hold { file, page } frame false

/-- Extend a file by a page of zeros and pin it. -/
def pinNewPage (file : Nat) : StoreM FileError Pin := do
  let (key, frame) ← newPage file
  hold key frame true

/-- Whether the holder of a pin wrote to the page. -/
def wrote (s : Store) (pin : Pin) : Bool :=
  s.held.any fun h => h.pin.id == pin.id && h.dirty

/-- Note that the holder of a pin wrote to the page. -/
def noteWrite {ε : Type} (pin : Pin) : StoreM ε Unit :=
  modify fun s =>
    { s with held := s.held.map fun h => if h.pin.id = pin.id then { h with dirty := true } else h }

/-- Look at the bytes of a pinned page. -/
def view {ε α : Type} (pin : Pin) (f : Block → Except Overrun α) : StoreM ε α :=
  viewFrame pin.frame f

/-- Edit the bytes of a pinned page. -/
def edit {ε α : Type} (pin : Pin) (e : Buffer.Edit blockSize α) : StoreM ε α := do
  noteWrite pin
  editFrame pin.frame e

/-- **Give a pin back.** That the pool refuses it is reported and otherwise
ignored. -/
def release {ε : Type} (pin : Pin) : StoreM ε Unit := do
  let dirty := (← get).wrote pin
  modify fun s => { s with held := s.held.filter (·.pin.id != pin.id) }
  fun s =>
    match unpin pin.key dirty s with
    | .ok _ s' => .ok () s'
    | .error (.error e) s' => report (.unpinFailed pin.key.page e) s'
    | .error (.overrun o) s' => .error (.overrun o) s'

/-- Hold a pin while something is done. -/
def withPin {ε α : Type} (take : StoreM ε Pin) (body : Pin → StoreM ε α) : StoreM ε α := do
  let pin ← take
  try body pin finally release pin

end SlottedFile.Store
