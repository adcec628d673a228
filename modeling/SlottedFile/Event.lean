import SlottedFile.Error.File

/-!
# What the library reports as it works

Some steps are reported beside their answer: routine ones for someone who
follows the work closely, milestones of a file's life, and warnings about what
went wrong without failing an operation.
-/

namespace SlottedFile

/-- **Something worth reporting.** -/
inductive Event where
  | pageAllocated (page file : Nat)
  | pageCreated (page file : Nat)
  /-- An insertion filled the head of the free list, which has a new head now. -/
  | headFilled (page : Nat) (head : Option Nat)
  | pageUnlisted (page : Nat)
  | pageRelisted (page : Nat)
  | pageDiscarded (page file pins : Nat)
  | unpinFailed (page : Nat) (e : FileError)
  | fullPageUnlisted (page : Nat)
  | alreadyListed (page : Nat)
  | pagesDropped (count pages : Nat)
  | fileCreated (path : Path) (recordSize recordsPerPage : Nat)
  | fileOpened (path : Path) (pages : Nat)
  | fileClosed (file : Nat)
  | fileDestroyed (path : Path)
  deriving DecidableEq, Repr

namespace Event

/-- How much an event matters. -/
inductive Level where
  | debug
  | info
  | warn
  deriving DecidableEq, Repr

/-- The name of a level. -/
def Level.text : Level → String
  | debug => "DEBUG"
  | info => "INFO"
  | warn => "WARN"

/-- How much an event matters. -/
def level : Event → Level
  | pageAllocated .. | pageCreated .. | headFilled .. | pageUnlisted .. | pageRelisted .. => .debug
  | pageDiscarded .. | unpinFailed .. | fullPageUnlisted .. | alreadyListed ..
  | pagesDropped .. => .warn
  | fileCreated .. | fileOpened .. | fileClosed .. | fileDestroyed .. => .info

/-- An optional number written as a term. -/
def optionTerm : Option Nat → String
  | none => "None"
  | some n => s!"Some({n})"

/-- The text of an event. -/
def message : Event → String
  | pageAllocated page file => s!"allocated page {page} in file {file}"
  | pageCreated page file => s!"created page {page} in file {file}"
  | headFilled page head => s!"page {page} is full, free list head now {optionTerm head}"
  | pageUnlisted page => s!"page {page} left the free list"
  | pageRelisted page => s!"page {page} rejoined the free list"
  | pageDiscarded page file pins =>
    s!"discarding page {page} of file {file} with {pins} outstanding pins"
  | unpinFailed page e => s!"failed to unpin page {page}: {e.message}"
  | fullPageUnlisted page => s!"full page {page} was not on the free list"
  | alreadyListed page => s!"page {page} is already on the free list"
  | pagesDropped count pages => s!"dropping {count} uncommitted pages past page {pages}"
  | fileCreated path size perPage =>
    s!"created record file {path.text} ({size} byte records, {perPage} per page)"
  | fileOpened path pages => s!"opened record file {path.text} ({pages} pages)"
  | fileClosed file => s!"closed record file {file}"
  | fileDestroyed path => s!"destroyed record file {path.text}"

/-- An event as a line of a log. -/
def line (e : Event) : String := s!"{e.level.text} {e.message}"

end Event

end SlottedFile
