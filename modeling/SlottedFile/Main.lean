import SlottedFile.Command.Run

/-!
# The program

The program carries out one invocation. It takes from the file system what
stands along the path of the command, carries the command out on a disk that
holds just that, and puts back the directories and the file that the command
left there.
-/

namespace SlottedFile.Program

/-- What the program says about its use. -/
def usage : String := "\n".intercalate
  ["Fixed-length record files",
   "",
   "Usage: slottedfile [--pool-size N] COMMAND",
   "",
   "Commands:",
   "  create PATH --record-size N [--records-per-page N]",
   "  insert PATH TEXT",
   "  get PATH PAGE SLOT",
   "  delete PATH PAGE SLOT",
   "  scan PATH",
   "  inspect PATH [--json]",
   "  check PATH",
   ""]

/-- The paths that lead to the segments of a path, one after the other. -/
def stations (p : Path) : List Path :=
  (List.range p.segments.length).map fun k => ⟨p.segments.take (k + 1)⟩

/-- Whether there is a directory at the end of a path. -/
def isDirectory (text : String) : IO Bool :=
  try (← IO.FS.realPath text).isDir catch _ => return false

/-- Take what stands at the end of a path onto a disk. What cannot be read is
taken to be absent. -/
def load (disk : Disk) (p : Path) : IO Disk := do
  if p.isEmpty then return disk
  let after (x : DiskM Unit) : Disk :=
    match x disk with
    | .ok _ d => d
    | .error _ d => d
  if ← isDirectory p.text then return after (Disk.makeDirectory p)
  try
    let bytes ← IO.FS.readBinFile p.text
    return after do
      Disk.createFile p
      Disk.writeFile p 0 bytes.toList
  catch _ => return disk

/-- The bytes of the file at the end of a path, if there is one. -/
def bytesAt (disk : Disk) (p : Path) : Option (List UInt8) :=
  match Disk.contents p disk with
  | .ok img _ => some img.toBytes
  | .error _ _ => none

/-- Put back what has changed at the end of a path. -/
def save (before after : Disk) (p : Path) : IO Unit := do
  if after.isDirectory p && !before.isDirectory p then IO.FS.createDirAll p.text
  match bytesAt after p with
  | some bytes =>
    if bytesAt before p ≠ some bytes then IO.FS.writeBinFile p.text ⟨bytes.toArray⟩
  | none => pure ()

/-- Carry out an invocation; the answer is the status to report. -/
def carryOut (i : Invocation) : IO UInt32 := do
  let path := i.command.path
  let before ← (stations path).foldlM load Disk.empty
  let (outcome, after) := i.run before
  (stations path).forM (save before after)
  (← IO.getStdout).putStr outcome.output
  (← IO.getStderr).putStr outcome.complaint
  return outcome.status.toUInt32

end SlottedFile.Program

/-- Carry out what the arguments ask for. -/
def main (args : List String) : IO UInt32 := do
  match SlottedFile.Invocation.ofArguments args with
  | .ok i => SlottedFile.Program.carryOut i
  | .error .help =>
    (← IO.getStdout).putStr SlottedFile.Program.usage
    return 0
  | .error .malformed =>
    (← IO.getStderr).putStr SlottedFile.Program.usage
    return 2
