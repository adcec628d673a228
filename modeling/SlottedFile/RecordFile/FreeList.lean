import SlottedFile.RecordFile.Basic

/-!
# The free list of a record file

The pages that still have a free slot are linked through their headers into a
list that starts in the file header. A page enters the list at its front – when
it is new, or when it stops being full – and leaves it, from wherever it stands,
when it becomes full.
-/

namespace SlottedFile

/-- **Where a page stands in the free list.** -/
inductive FreePosition where
  | head
  /-- Linked from another page. -/
  | after (page : Nat)
  | absent
  deriving DecidableEq, Repr

namespace RecordFile

variable (f : RecordFile)

/-- The link of a page. -/
def nextFree (page : Nat) : StoreM RecordError (Option Nat) :=
  f.withPage page fun pin => do
    return (← Store.view pin PageHeader.decode).next

/-- Look for a page from a point of the free list on, following at most `left`
links. -/
def locateFrom (page : Nat) : (left : Nat) → (prev current : Option Nat) →
    StoreM RecordError FreePosition
  | _, _, none => pure .absent
  | left, prev, some listed =>
    if listed = page then
      pure (match prev with | none => .head | some p => .after p)
    else
      match left with
      | 0 => fail (.internal (.endlessFreeList f.header.pages))
      | left + 1 => do
        let next ← f.nextFree listed
        locateFrom page left (some listed) next

/-- **Induction along the walk**, on the links that may still be followed: what
holds of every outcome, and is kept by following a link first, holds of the
walk. -/
theorem locateFrom_induction {motive : (RecordFile → StoreM RecordError FreePosition) → Prop}
    {page : Nat} (found : ∀ position, motive fun _ => pure position)
    (endless : motive fun f => fail (.internal (.endlessFreeList f.header.pages)))
    (follow : ∀ {rest : Option Nat → RecordFile → StoreM RecordError FreePosition} (listed : Nat),
      (∀ next, motive (rest next)) → motive fun f => f.nextFree listed >>= fun next => rest next f)
    (left : Nat) (prev current : Option Nat) :
    motive fun f => f.locateFrom page left prev current := by
  induction left generalizing prev current with
  | zero =>
    cases current with
    | none => exact found _
    | some listed =>
      unfold locateFrom
      by_cases hlisted : listed = page
      · simp only [if_pos hlisted]
        exact found _
      · simp only [if_neg hlisted]
        exact endless
  | succ left ih =>
    cases current with
    | none => exact found _
    | some listed =>
      unfold locateFrom
      by_cases hlisted : listed = page
      · simp only [if_pos hlisted]
        exact found _
      · simp only [if_neg hlisted]
        exact follow listed fun next => ih (some listed) next

/-- **Where a page stands in the free list.** At most one page is pinned at a
time, and no more links are followed than the file has pages. -/
def locate (page : Nat) : StoreM RecordError FreePosition :=
  f.locateFrom page f.header.pages none f.header.freeHead

/-- Whether a page may be put on the free list. One that is listed already is
reported and stays where it is. -/
def canLink (page : Nat) : StoreM RecordError Bool := do
  if (← f.locate page) = .absent then return true
  Store.report (.alreadyListed page)
  return false

end RecordFile

namespace Session

/-- Give the free list another head, and write that down. -/
def setFreeHead (head : Option Nat) : RecordM Unit := do
  modifyHeader fun h => { h with freeHead := head }
  persistHeader

/-- Put a page at the front of the free list. -/
def link (pin : Pin) : RecordM Unit := do
  let head := (← get).file.header.freeHead
  edit pin fun _ => PageLayout.setNext head
  setFreeHead (some pin.key.page)
  report (.pageRelisted pin.key.page)

/-- **Extend the file by an empty page** at the front of the free list, and pin
it. -/
def newPage : RecordM Pin := do
  let pin ← onStore fun f =>
    widenError (fun e => .internal (.allocate e)) (Store.pinNewPage f.handle)
  onFailure (release pin) do
    let header := (← get).file.header
    let page := pin.key.page
    if page ≠ header.pages then fail (.internal (.unexpectedPage page header.pages))
    edit pin (·.init header.freeHead)
    modifyHeader fun h => { h with pages := h.pages + 1, freeHead := some page }
    persistHeader
    onStore fun _ => Store.noteWrite pin
    report (.pageCreated page pin.key.file)
    return pin

/-- **Pin a page with a free slot**: the head of the free list, or else a new
page. -/
def freePage : RecordM Pin := do
  match (← get).file.header.freeHead with
  | none => newPage
  | some page => pinPage page

/-- **Put a pinned page on the free list**, unless it is listed already. -/
def releasePage (pin : Pin) : RecordM Unit := do
  if ← onStore (·.canLink pin.key.page) then link pin

end Session

end SlottedFile
