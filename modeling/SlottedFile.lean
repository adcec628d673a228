import SlottedFile.Bitmap
import SlottedFile.Buffer
import SlottedFile.Bytes
import SlottedFile.Command.Arguments
import SlottedFile.Command.Display
import SlottedFile.Command.Run
import SlottedFile.Disk.Basic
import SlottedFile.Disk.Image
import SlottedFile.Disk.Path
import SlottedFile.Error.File
import SlottedFile.Error.Io
import SlottedFile.Error.Record
import SlottedFile.Event
import SlottedFile.Fault
import SlottedFile.FileHeader
import SlottedFile.Main
import SlottedFile.Page.Header
import SlottedFile.Page.Layout
import SlottedFile.PagedFiles
import SlottedFile.Proofs.Addressing
import SlottedFile.Proofs.Command.Answers
import SlottedFile.Proofs.Command.Beginning
import SlottedFile.Proofs.Command.Carrying
import SlottedFile.Proofs.Command.Listing
import SlottedFile.Proofs.Command.Refinement
import SlottedFile.Proofs.Command.Serving
import SlottedFile.Proofs.Disk
import SlottedFile.Proofs.Ends
import SlottedFile.Proofs.FileHeader
import SlottedFile.Proofs.HandleMaps
import SlottedFile.Proofs.Keyed.Cursor
import SlottedFile.Proofs.Keyed.Determined
import SlottedFile.Proofs.Keyed.Represents
import SlottedFile.Proofs.Keyed.Scan
import SlottedFile.Proofs.Keyed.Simulation
import SlottedFile.Proofs.Keyed.Store
import SlottedFile.Proofs.OpenTable
import SlottedFile.Proofs.Page.Bits
import SlottedFile.Proofs.Page.Data
import SlottedFile.Proofs.Page.Margin
import SlottedFile.Proofs.Page.Regions
import SlottedFile.Proofs.PageArray
import SlottedFile.Proofs.PagedFiles
import SlottedFile.Proofs.Pins
import SlottedFile.Proofs.Plain.Altering
import SlottedFile.Proofs.Plain.Basic
import SlottedFile.Proofs.Plain.FreeList
import SlottedFile.Proofs.Plain.Growth
import SlottedFile.Proofs.Plain.Looking
import SlottedFile.Proofs.Plain.Reading
import SlottedFile.Proofs.Plain.Reporting
import SlottedFile.Proofs.Plain.Rules
import SlottedFile.Proofs.Plain.Scanning
import SlottedFile.Proofs.Plain.Steps
import SlottedFile.Proofs.Plain.Writing
import SlottedFile.Proofs.Pool.AnyRun
import SlottedFile.Proofs.Pool.Changes
import SlottedFile.Proofs.Pool.Coherence
import SlottedFile.Proofs.Pool.Entries
import SlottedFile.Proofs.Pool.Flushing
import SlottedFile.Proofs.Pool.Handles
import SlottedFile.Proofs.Pool.NewPages
import SlottedFile.Proofs.Pool.Onward
import SlottedFile.Proofs.Pool.Operations
import SlottedFile.Proofs.Pool.Recency
import SlottedFile.Proofs.Pool.Run
import SlottedFile.Proofs.Pool.Staining
import SlottedFile.Proofs.Records.Acknowledged
import SlottedFile.Proofs.Records.Answering
import SlottedFile.Proofs.Records.Balanced
import SlottedFile.Proofs.Records.Blame
import SlottedFile.Proofs.Records.Calls
import SlottedFile.Proofs.Records.Changes
import SlottedFile.Proofs.Records.Cutting
import SlottedFile.Proofs.Records.Destroying
import SlottedFile.Proofs.Records.Diagnosis
import SlottedFile.Proofs.Records.Dirtied
import SlottedFile.Proofs.Records.Durability
import SlottedFile.Proofs.Records.Found
import SlottedFile.Proofs.Records.HeaderBlock
import SlottedFile.Proofs.Records.Holding
import SlottedFile.Proofs.Records.Inspection
import SlottedFile.Proofs.Records.Interleaving
import SlottedFile.Proofs.Records.Locating
import SlottedFile.Proofs.Records.Marking
import SlottedFile.Proofs.Records.Opening
import SlottedFile.Proofs.Records.Operations
import SlottedFile.Proofs.Records.Peak
import SlottedFile.Proofs.Records.Refinement
import SlottedFile.Proofs.Records.Replay
import SlottedFile.Proofs.Records.Room
import SlottedFile.Proofs.Records.Run
import SlottedFile.Proofs.Records.Scans
import SlottedFile.Proofs.Records.Shadow
import SlottedFile.Proofs.Records.Sharing
import SlottedFile.Proofs.Records.Solo
import SlottedFile.Proofs.Records.Spotless
import SlottedFile.Proofs.Records.Tasks
import SlottedFile.Proofs.Records.Twins
import SlottedFile.Proofs.Records.Unaware
import SlottedFile.Proofs.Records.Uncreated
import SlottedFile.Proofs.Records.Undisturbed
import SlottedFile.Proofs.Records.Undoing
import SlottedFile.Proofs.Records.Unopened
import SlottedFile.Proofs.Records.Unwritten
import SlottedFile.RecordFile.Basic
import SlottedFile.RecordFile.FreeList
import SlottedFile.RecordFile.Lifecycle
import SlottedFile.RecordFile.Records
import SlottedFile.RecordFile.Report
import SlottedFile.RecordFile.Scan
import SlottedFile.RecordId
import SlottedFile.Store.Basic
import SlottedFile.Store.Pin
import SlottedFile.Store.Pool
import SlottedFile.Text.Json
import SlottedFile.Text.Lines
import SlottedFile.Text.Quoted
import SlottedFile.Text.Table
import SlottedFile.Text.Unprintable
import SlottedFile.Text.Utf8
import SlottedFile.Text.Width
import SlottedFile.Text.Width.Char
import SlottedFile.Text.Width.Emoji
import SlottedFile.Text.Width.Letter
