import SlottedFile.Disk.Path
import SlottedFile.Error.Io
import SlottedFile.Text.Quoted

/-!
# Errors of paged files and of the buffer pool
-/

namespace SlottedFile

/-- **An error of a paged file or of the buffer pool.** -/
inductive FileError where
  | io (e : IoError)
  | fileNotFound (path : Path)
  | fileAlreadyExists (path : Path)
  /-- The handle is not open. -/
  | invalidHandle (handle : Nat)
  /-- The page is not in the pool. -/
  | pageNotFound (page : Nat)
  /-- Every frame of the pool is pinned. -/
  | bufferPoolFull (frames : Nat)
  | pageNotPinned (page : Nat)
  | invalidPageSize (expected actual : Nat)
  | headerTooLarge (max actual : Nat)
  | tooManyOpenFiles
  deriving DecidableEq, Repr

namespace FileError

/-- The text of the error. -/
def message : FileError → String
  | io e => s!"IO error: {e.message}"
  | fileNotFound path => s!"File not found: {path.text}"
  | fileAlreadyExists path => s!"File already exists: {path.text}"
  | invalidHandle handle => s!"Invalid file handle: {handle}"
  | pageNotFound page => s!"Page not buffered: page_id={page}"
  | bufferPoolFull frames => s!"Buffer pool is full: all {frames} frames are pinned"
  | pageNotPinned page => s!"Page is not pinned: page_id={page}"
  | invalidPageSize expected actual =>
    s!"Invalid page buffer: expected {expected} bytes, got {actual}"
  | headerTooLarge max actual =>
    s!"Header of {actual} bytes does not fit in a {max} byte block"
  | tooManyOpenFiles => "File handle limit reached"

/-- The error written as a term. -/
def term : FileError → String
  | io e => s!"Io({e.term})"
  | fileNotFound path => s!"FileNotFound({Text.Quoted.encode path.text})"
  | fileAlreadyExists path => s!"FileAlreadyExists({Text.Quoted.encode path.text})"
  | invalidHandle handle => s!"InvalidHandle({handle})"
  | pageNotFound page => s!"PageNotFound({page})"
  | bufferPoolFull frames => s!"BufferPoolFull({frames})"
  | pageNotPinned page => s!"PageNotPinned({page})"
  | invalidPageSize expected actual =>
    s!"InvalidPageSize \x7b expected: {expected}, actual: {actual} \x7d"
  | headerTooLarge max actual => s!"HeaderTooLarge \x7b max: {max}, actual: {actual} \x7d"
  | tooManyOpenFiles => "TooManyOpenFiles"

end FileError

end SlottedFile
