import SlottedFile.Command.Arguments
import SlottedFile.Command.Display
import SlottedFile.RecordFile.Lifecycle
import SlottedFile.RecordFile.Records
import SlottedFile.RecordFile.Scan

/-!
# Carrying out a command

Every invocation starts with a store in which nothing is open and ends with the
shutdown of that store, so that one invocation hands nothing to the next but the
disk. A command that fails leaves the file open and prints nothing after the
failure; what it printed before stays printed.
-/

namespace SlottedFile

/-- **Why a command failed.** -/
inductive CommandError where
  | record (e : RecordError)
  /-- The text of a record is longer than the records of the file. -/
  | textTooLong (length recordSize : Nat)
  deriving DecidableEq, Repr

/-- The error written as a term. -/
def CommandError.term : CommandError → String
  | record e => e.term
  | textTooLong length recordSize =>
    Text.Quoted.encode s!"record is {length} bytes but the file holds {recordSize} byte records"

/-! ## Commands -/

/-- **A store and what has been printed.** -/
structure Console where
  store : Store
  output : String := ""

/-- A step of a command. -/
abbrev CommandM := EStateM (Fault CommandError) Console

namespace Command

/-- An operation of the store. -/
def onStore {α : Type} (x : StoreM RecordError α) : CommandM α :=
  onPart Console.store (fun store c => { c with store }) .record x

/-- Print a line. -/
def print (line : String) : CommandM Unit :=
  modify fun c => { c with output := c.output ++ line ++ "\n" }

/-- The rows of a table of records, one for each item of a scan, of which there
are at most `bound`. -/
def scanRows (f : RecordFile) : (bound : Nat) → Scan → StoreM RecordError (List Text.Row)
  | 0, _ => pure []
  | bound + 1, s => do
    match ← s.next f with
    | (none, _) => return []
    | (some (.error e), _) => fail e
    | (some (.ok id), s') =>
      let record ← f.get id
      let row ← liftOverrun (Text.Row.ofStrings [id.text, RecordText.ofRecord record])
      return row :: (← scanRows f bound s')

/-- The records of a file in scan order, as a table. -/
def recordTable (f : RecordFile) : StoreM RecordError Text.Table := do
  let titles ← liftOverrun (Text.Row.ofStrings ["rid", "record"])
  let rows ← scanRows f (Scan.bound f) (← Scan.start f)
  return { titles, rows }

/-- **Carry out a command.** -/
def carryOut : Command → CommandM Unit
  | create path options => do
    onStore (RecordFile.create path options)
    print s!"created {path.text}"
  | insert path text => do
    let f ← onStore (RecordFile.openFile path)
    match RecordText.toRecord? text f.header.recordSize with
    | none => fail (.textTooLong (Text.Utf8.encode text).length f.header.recordSize)
    | some record =>
      let (id, f) ← onStore (f.change (Session.insert record))
      onStore f.close
      print id.text
  | get path id => do
    let f ← onStore (RecordFile.openFile path)
    let record ← onStore (f.get id)
    onStore f.close
    print (RecordText.ofRecord record)
  | delete path id => do
    let f ← onStore (RecordFile.openFile path)
    let ((), f) ← onStore (f.change (Session.delete id))
    onStore f.close
  | scan path => do
    let f ← onStore (RecordFile.openFile path)
    let table ← onStore (recordTable f)
    table.draw.forM print
    onStore f.close
  | inspect path json => do
    let f ← onStore (RecordFile.openFile path)
    let report ← onStore f.inspect
    onStore f.close
    if json then report.json.forM print
    else
      (← liftOverrun report.table).draw.forM print
      print (report.summary (← liftOverrun report.recordCount))
  | check path => do
    let f ← onStore (RecordFile.openFile path)
    let checked ← onStore (attempt f.check)
    onStore f.close
    match checked with
    | .ok () => print "ok"
    | .error e => fail (.record e)

end Command

/-! ## Invocations -/

/-- **How an invocation ends**, with what it printed. -/
inductive Outcome where
  | done (output : String)
  | failed (output : String) (e : CommandError)
  | overran (output : String)
  deriving DecidableEq, Repr

namespace Outcome

/-- The status that the outcome is reported by. -/
def status : Outcome → Nat
  | done _ => 0
  | failed _ _ => 1
  | overran _ => 101

/-- What was printed. -/
def output : Outcome → String
  | done output => output
  | failed output _ => output
  | overran output => output

/-- What is said of a failure. -/
def complaint : Outcome → String
  | done _ => ""
  | failed _ e => s!"Error: {e.term}\n"
  | overran _ => ""

end Outcome

/-- **Carry out an invocation on a disk.** -/
def Invocation.run (i : Invocation) (disk : Disk) : Outcome × Disk :=
  match i.command.carryOut { store := .ofDisk disk i.frames FileTable.defaultLimit } with
  | .ok () c => (.done c.output, c.store.shutdown)
  | .error (.error e) c => (.failed c.output e, c.store.shutdown)
  | .error (.overrun _) c => (.overran c.output, c.store.shutdown)

end SlottedFile
