import SlottedFile.Bitmap
import SlottedFile.Buffer
import SlottedFile.Bytes
import SlottedFile.Error.Record
import SlottedFile.Page.Header

/-!
# The header of a record file

The first block of a record file holds, in six words, what never changes – the
size of a record and the slots of a page – and what the free list and the page
count are now. `create` makes the header of an empty file from options, `encode`
and `decode` are its written form and back; `decode` refuses what no sequence of
operations could have written.
-/

namespace SlottedFile

/-- **What is chosen when a record file is created.** -/
structure FileOptions where
  recordSize : Nat
  /-- The slots of a page; if absent, as many as fit. -/
  recordsPerPage : Option Nat := none
  deriving DecidableEq, Repr

/-- **The header of a record file.** -/
structure FileHeader where
  recordSize : Nat
  recordsPerPage : Nat
  /-- The number of data pages. -/
  pages : Nat
  /-- The bytes a page spends on its occupancy bitmap. -/
  bitmapSize : Nat
  /-- The first page of the free list. -/
  freeHead : Option Nat
  deriving DecidableEq, Repr

namespace FileHeader

/-- The number of bytes a file header takes. -/
def size : Nat := 24

/-- The word every record file begins with. -/
def magic : Nat := 0x524D4631

/-- **How many records fit in a page.** A slot costs its bytes and one bit of
the bitmap. -/
def maxRecordsPerPage (recordSize : Nat) : Nat :=
  if recordSize = 0 ∨ recordSize > blockSize then 0
  else (blockSize - PageHeader.size) * 8 / (1 + recordSize * 8)

/-- **The header of an empty file.** -/
def create (options : FileOptions) : Except RecordError FileHeader :=
  let max := maxRecordsPerPage options.recordSize
  if max = 0 then .error (.invalidOptions (.recordSize options.recordSize))
  else
    let empty (records : Nat) : FileHeader :=
      { recordSize := options.recordSize, recordsPerPage := records, pages := 0,
        bitmapSize := Bitmap.bytesFor records, freeHead := none }
    match options.recordsPerPage with
    | none => .ok (empty max)
    | some 0 => .error (.invalidOptions .noRecords)
    | some (n + 1) =>
      if n + 1 > max then
        .error (.invalidOptions (.tooManyRecords (n + 1) options.recordSize max))
      else .ok (empty (n + 1))

/-- The bytes of a file header. -/
def encode (h : FileHeader) : List UInt8 :=
  toLE 4 magic ++ toLE 4 h.recordSize ++ toLE 4 h.recordsPerPage ++ toLE 4 h.pages
    ++ toLE 4 h.bitmapSize ++ linkBytes h.freeHead

/-- The word at an offset of a byte string. -/
def word (data : List UInt8) (off : Nat) : Nat := ofLE ((data.drop off).take 4)

/-- What the six words of a file header say. -/
def ofWords (data : List UInt8) : FileHeader where
  recordSize := word data 4
  recordsPerPage := word data 8
  pages := word data 12
  bitmapSize := word data 16
  freeHead := linkOfWord (word data 20)

/-- **What is wrong with a header**, if anything is: the slots have to fit in a
page, the bitmap has to be the one they need, and the free list has to start
inside the file. -/
def flaw (h : FileHeader) : Option HeaderFlaw :=
  if h.recordsPerPage = 0 ∨ h.recordsPerPage > maxRecordsPerPage h.recordSize then
    some (.recordsPerPage h.recordsPerPage h.recordSize)
  else if h.bitmapSize ≠ Bitmap.bytesFor h.recordsPerPage then
    some (.bitmapSize h.bitmapSize h.recordsPerPage)
  else
    match h.freeHead with
    | some page => if page ≥ h.pages then some (.freeHead page h.pages) else none
    | none => none

/-- **The header that a byte string begins with.** -/
def decode (data : List UInt8) : Except RecordError FileHeader :=
  if data.length < size then .error (.invalidHeader (.tooShort size data.length))
  else if word data 0 ≠ magic then .error (.invalidHeader (.badMagic (word data 0)))
  else
    match (ofWords data).flaw with
    | some flaw => .error (.invalidHeader flaw)
    | none => .ok (ofWords data)

@[simp] theorem length_encode (h : FileHeader) : h.encode.length = size := by
  simp [encode, size]

/-- A header has room in its block. -/
theorem length_encode_le (h : FileHeader) : h.encode.length ≤ blockSize := by
  rw [length_encode]
  decide

end FileHeader

end SlottedFile
