import SlottedFile.RecordFile.Basic

/-!
# Inspecting a record file

A report is a snapshot of a file: what every page says of itself, how many of
its slots are occupied, and where the free list leads. What is wrong with the
file is read off the report alone.
-/

namespace SlottedFile

/-- **What a page looks like.** -/
structure PageReport where
  page : Nat
  /-- The number of records that the page counts. -/
  records : Nat
  /-- The number of its occupied slots. -/
  occupied : Nat
  next : Option Nat
  /-- Whether the free list leads to the page. -/
  listed : Bool
  /-- Whether the page counts as many records as it has slots. -/
  full : Bool
  deriving DecidableEq, Repr

/-- **What a record file looks like.** -/
structure FileReport where
  header : FileHeader
  pages : List PageReport
  /-- The pages the free list leads to, up to its first broken link. -/
  freeList : List Nat
  /-- Why the free list breaks off, if it does. -/
  freeListFlaw : Option FreeListFlaw
  deriving DecidableEq, Repr

namespace PageReport

/-- What is wrong with a page. -/
def violations (p : PageReport) : List Violation :=
  (if p.records ≠ p.occupied then [.count p.page p.records p.occupied] else [])
    ++ (if p.full && p.listed then [.fullButListed p.page] else [])
    ++ (if !p.full && !p.listed then [.freeButUnlisted p.page] else [])

end PageReport

namespace FileReport

/-- **What is wrong with a file**, page by page and then of its free list. -/
def violations (r : FileReport) : List Violation :=
  r.pages.flatMap PageReport.violations ++ (r.freeListFlaw.map Violation.freeList).toList

/-- The number of records in the file. -/
def recordCount (r : FileReport) : Except Overrun Nat :=
  checkWord ((r.pages.map (·.occupied)).foldl (· + ·) 0)

/-- **Follow the free list**, given the links of the pages. It ends where a link
leads out of the file or to a page seen before. -/
def followFree (links : List (Option Nat)) : (left : Nat) → (seen : List Nat) → Option Nat →
    List Nat × Option FreeListFlaw
  | _, seen, none => (seen.reverse, none)
  | left, seen, some page =>
    if page ≥ links.length then (seen.reverse, some (.beyond page links.length))
    else if page ∈ seen then (seen.reverse, some (.twice page))
    else
      match left with
      | 0 => (seen.reverse, none)
      | left + 1 => followFree links left (page :: seen) (links[page]?.join)

/-- The report on a file from what its pages say of themselves. No list without
repetitions is longer than the file has pages. -/
def ofPages (header : FileHeader) (pages : List PageReport) : FileReport :=
  let (freeList, freeListFlaw) :=
    followFree (pages.map (·.next)) (pages.length + 1) [] header.freeHead
  { header
    pages := pages.map fun p => { p with listed := freeList.contains p.page }
    freeList
    freeListFlaw }

end FileReport

namespace RecordFile

variable (f : RecordFile)

/-- What a page looks like, the free list apart. -/
def inspectPage (page : Nat) : StoreM RecordError PageReport :=
  f.withPage page fun pin => do
    let header ← Store.view pin PageHeader.decode
    let occupied ← Store.view pin f.layout.occupiedCount
    return {
      page
      records := header.records
      occupied
      next := header.next
      listed := false
      full := header.records ≥ f.header.recordsPerPage }

/-- **Inspect a file**: visit every page once, then follow the free list. -/
def inspect : StoreM RecordError FileReport := do
  return .ofPages f.header (← (List.range f.header.pages).mapM f.inspectPage)

/-- **Fail if anything is wrong with the file.** -/
def check : StoreM RecordError Unit := do
  let violations := (← f.inspect).violations
  unless violations.isEmpty do fail (.internal (.violations violations))

end RecordFile

end SlottedFile
