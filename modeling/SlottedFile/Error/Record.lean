import SlottedFile.Error.File
import SlottedFile.RecordId

/-!
# Errors of record files

Each error names its cause as data; `message` gives the text a user reads and
`term` the error written as a term.
-/

namespace SlottedFile

/-- The number written with eight hexadecimal digits at least. -/
def hexWord (n : Nat) : String :=
  let digits := Nat.toDigits 16 n
  "0x" ++ String.ofList (List.replicate (8 - digits.length) '0' ++ digits)

/-- **Why a record file cannot be created with some options.** -/
inductive OptionsFlaw where
  | recordSize (size : Nat)
  | noRecords
  | tooManyRecords (records size max : Nat)
  | other (text : String)
  deriving DecidableEq, Repr

/-- The text of a flaw in the options. -/
def OptionsFlaw.message : OptionsFlaw → String
  | recordSize size => s!"record size {size} does not fit in a page"
  | noRecords => "records per page must be positive"
  | tooManyRecords records size max =>
    s!"{records} records of {size} bytes do not fit in a page (max {max})"
  | other text => text

/-- **Why a file is not accepted as a record file.** -/
inductive HeaderFlaw where
  | tooShort (expected actual : Nat)
  | badMagic (word : Nat)
  | recordsPerPage (records size : Nat)
  | bitmapSize (size records : Nat)
  | freeHead (page pages : Nat)
  | missingPages (counted held : Nat)
  | other (text : String)
  deriving DecidableEq, Repr

/-- The text of a flaw in the header. -/
def HeaderFlaw.message : HeaderFlaw → String
  | tooShort expected actual => s!"expected {expected} bytes, got {actual}"
  | badMagic word => s!"bad magic {hexWord word}"
  | recordsPerPage records size => s!"{records} records per page of {size} bytes"
  | bitmapSize size records => s!"bitmap size {size} for {records} records per page"
  | freeHead page pages => s!"free list head {page} beyond {pages} pages"
  | missingPages counted held => s!"header counts {counted} pages but the file holds {held}"
  | other text => text

/-- **Where the free list breaks off.** -/
inductive FreeListFlaw where
  | beyond (page pages : Nat)
  | twice (page : Nat)
  | other (text : String)
  deriving DecidableEq, Repr

/-- The text of a flaw of the free list. -/
def FreeListFlaw.message : FreeListFlaw → String
  | beyond page pages => s!"free list links to page {page} beyond {pages} pages"
  | twice page => s!"free list visits page {page} twice"
  | other text => text

/-- **A broken invariant of a record file.** -/
inductive Violation where
  /-- The page's own count differs from its occupied slots. -/
  | count (page counted occupied : Nat)
  | fullButListed (page : Nat)
  | freeButUnlisted (page : Nat)
  | freeList (flaw : FreeListFlaw)
  deriving DecidableEq, Repr

/-- The text of a violation. -/
def Violation.message : Violation → String
  | count page counted occupied =>
    s!"page {page} counts {counted} records but {occupied} slots are occupied"
  | fullButListed page => s!"page {page} is full but on the free list"
  | freeButUnlisted page => s!"page {page} has free slots but is not on the free list"
  | freeList flaw => flaw.message

/-- **Why an operation could not be carried out on a well-formed request.** -/
inductive InternalCause where
  | fetch (page : Nat) (e : FileError)
  | allocate (e : FileError)
  | noFreeSlot (page : Nat)
  | slotOutOfRange (id : RecordId)
  | slotOccupied (id : RecordId)
  | unexpectedPage (allocated pages : Nat)
  | endlessFreeList (pages : Nat)
  | violations (all : List Violation)
  | other (text : String)
  deriving DecidableEq, Repr

/-- The text of an internal cause. -/
def InternalCause.message : InternalCause → String
  | fetch page e => s!"failed to fetch page {page}: {e.message}"
  | allocate e => s!"failed to allocate page: {e.message}"
  | noFreeSlot page => s!"no free slot on page {page} taken from the free list"
  | slotOutOfRange id => s!"slot {id.text} is out of range"
  | slotOccupied id => s!"slot already occupied: {id.text}"
  | unexpectedPage allocated pages =>
    s!"buffer pool allocated page {allocated} but the file has {pages} pages"
  | endlessFreeList pages => s!"free list does not terminate after {pages} pages"
  | violations all => "; ".intercalate (all.map Violation.message)
  | other text => text

/-- **An error of a record file.** -/
inductive RecordError where
  | recordNotFound (id : RecordId)
  | pageNotExist (page : Nat)
  | internal (cause : InternalCause)
  | invalidRecordSize (expected actual : Nat)
  | invalidOptions (flaw : OptionsFlaw)
  | invalidHeader (flaw : HeaderFlaw)
  | file (e : FileError)
  deriving DecidableEq, Repr

namespace RecordError

/-- Whether the error describes a bad request rather than a broken file. -/
def isRecoverable : RecordError → Bool
  | recordNotFound _ => true
  | pageNotExist _ => true
  | _ => false

/-- The text of the error. -/
def message : RecordError → String
  | recordNotFound id => s!"Record not found: page_no={id.page}, slot_no={id.slot}"
  | pageNotExist page => s!"Page does not exist: page_no={page}"
  | internal cause => s!"Internal error: {cause.message}"
  | invalidRecordSize expected actual =>
    s!"Invalid record size: expected {expected}, got {actual}"
  | invalidOptions flaw => s!"Invalid file options: {flaw.message}"
  | invalidHeader flaw => s!"Invalid file header: {flaw.message}"
  | file e => s!"File error: {e.message}"

/-- The error written as a term. -/
def term : RecordError → String
  | recordNotFound id => s!"RecordNotFound \x7b page_no: {id.page}, slot_no: {id.slot} \x7d"
  | pageNotExist page => s!"PageNotExist({page})"
  | internal cause => s!"Internal({Text.Quoted.encode cause.message})"
  | invalidRecordSize expected actual =>
    s!"InvalidRecordSize \x7b expected: {expected}, actual: {actual} \x7d"
  | invalidOptions flaw => s!"InvalidOptions({Text.Quoted.encode flaw.message})"
  | invalidHeader flaw => s!"InvalidHeader({Text.Quoted.encode flaw.message})"
  | file e => s!"File({e.term})"

end RecordError

end SlottedFile
