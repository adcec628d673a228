import SlottedFile.RecordFile.Report
import SlottedFile.Text.Json
import SlottedFile.Text.Table
import SlottedFile.Text.Utf8

/-!
# How records and reports are shown

On the command line a record is a text, filled up with zeros to the length of a
record, and a report is a table of the pages with a line under it, or JSON.
-/

namespace SlottedFile

/-! ## Records as text -/

namespace RecordText

/-- The record of a given length that holds a text, if the text fits. -/
def toRecord? (text : String) (recordSize : Nat) : Option (List UInt8) :=
  let bytes := Text.Utf8.encode text
  if bytes.length > recordSize then none
  else some (bytes ++ List.replicate (recordSize - bytes.length) 0)

/-- The text that a record holds, without the zeros at its end. -/
def ofRecord (record : List UInt8) : String :=
  Text.Utf8.decode (record.reverse.dropWhile (· == 0)).reverse

end RecordText

/-! ## Reports as text -/

namespace FileReport

/-- The row of the table that is about a page. -/
def pageRow (p : PageReport) : Except Overrun Text.Row :=
  Text.Row.ofStrings
    [toString p.page, toString p.records, toString p.occupied,
      match p.next with | some next => toString next | none => "-",
      if p.listed then "yes" else "no"]

/-- The pages of a report, as a table. -/
def table (r : FileReport) : Except Overrun Text.Table :=
  return {
    titles := ← Text.Row.ofStrings ["page", "records", "occupied", "next free", "free list"]
    rows := ← r.pages.mapM pageRow }

/-- The line under the table, given the number of records in the file. -/
def summary (r : FileReport) (records : Nat) : String :=
  let freeList := ", ".intercalate (r.freeList.map toString)
  s!"{records} records in {r.header.pages} pages, free list [{freeList}]"

open Text (Json.object Json.array Json.number Json.bool Json.text Json.optional)

/-- The header of a report, as JSON. -/
def headerJson (h : FileHeader) : Text.Json.Written :=
  Json.object [("record_size", Json.number h.recordSize),
    ("num_records_per_page", Json.number h.recordsPerPage), ("num_pages", Json.number h.pages),
    ("bitmap_size", Json.number h.bitmapSize),
    ("first_free_page_no", Json.optional Json.number h.freeHead)]

/-- A page of a report, as JSON. -/
def pageJson (p : PageReport) : Text.Json.Written :=
  Json.object [("page_no", Json.number p.page), ("num_records", Json.number p.records),
    ("occupied", Json.number p.occupied), ("next_free_page_no", Json.optional Json.number p.next),
    ("in_free_list", Json.bool p.listed), ("full", Json.bool p.full)]

/-- A report, as JSON. -/
def json (r : FileReport) : Text.Json.Written :=
  Json.object [("header", headerJson r.header), ("pages", Json.array (r.pages.map pageJson)),
    ("free_list", Json.array (r.freeList.map Json.number)),
    ("free_list_error", Json.optional (fun e => Json.text e.message) r.freeListFlaw)]

end FileReport

end SlottedFile
