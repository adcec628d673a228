import SlottedFile.Disk.Image
import SlottedFile.Disk.Path
import SlottedFile.Error.Io

/-!
# The disk

The disk is a tree of directories with files in it. Somewhere below its root
stands the working directory, from which paths lead. A file is an image with a
number, and it is the number that an open file holds: a file that is removed
while it is open lives on under its number, and a file created later at the same
path has another.

The operations are those of a file system and fail as one does: a path is walked
segment by segment from the left, and the first segment that cannot be walked
decides the error. An operation takes no path that is too long, however short a
way it describes; `canonical` alone looks at the segments one by one and only
minds the length of the way.
-/

namespace SlottedFile

/-- The number of an image on the disk. -/
abbrev ImageId := Nat

/-- **What stands at a place of the disk.** -/
inductive Node where
  | directory
  | file (image : ImageId)
  deriving DecidableEq, Repr

/-- Whether a list of entries leads to no image with a number from `count`
on. -/
def ImagesBelow (entries : List (Place × Node)) (count : Nat) : Prop :=
  ∀ entry ∈ entries, ∀ i, entry.2 = .file i → i < count

/-- **The disk.** -/
structure Disk where
  /-- What stands where, the working directory and those above it apart. -/
  entries : List (Place × Node)
  images : Array Image
  /-- Every file has an image. -/
  images_below : ImagesBelow entries images.size

/-- An operation on the disk. -/
abbrev DiskM := EStateM IoError Disk

namespace Disk

/-- The disk with nothing on it. -/
def empty : Disk where
  entries := []
  images := #[]
  images_below := fun _ h => absurd h List.not_mem_nil

/-- The working directory. -/
def home : Place := ["home", "directory"]

/-- What stands at a place. -/
def node? (d : Disk) (place : Place) : Option Node :=
  if place.isPrefixOf home then some .directory else d.entries.lookup place

/-- The contents of an image. -/
def image (d : Disk) (i : ImageId) : Image := d.images.getD i Image.empty

/-- Change the contents of an image. -/
def setImage (d : Disk) (i : ImageId) (img : Image) : Disk where
  entries := d.entries
  images := d.images.setIfInBounds i img
  images_below := by
    rw [Array.size_setIfInBounds]
    exact d.images_below

/-- The disk with another directory. -/
def addDirectory (d : Disk) (place : Place) : Disk where
  entries := (place, .directory) :: d.entries
  images := d.images
  images_below := fun entry h i hi => by
    cases h with
    | head => cases hi
    | tail _ h => exact d.images_below entry h i hi

/-- The disk with another file, which is empty. -/
def addFile (d : Disk) (place : Place) : Disk where
  entries := (place, .file d.images.size) :: d.entries
  images := d.images.push Image.empty
  images_below := fun entry h i hi => by
    rw [Array.size_push]
    cases h with
    | head => cases hi; exact Nat.lt_succ_self _
    | tail _ h => exact Nat.lt_succ_of_lt (d.images_below entry h i hi)

/-- The disk without what stands at a place. -/
def removeEntry (d : Disk) (place : Place) : Disk where
  entries := d.entries.filter fun entry => entry.1 ≠ place
  images := d.images
  images_below := fun entry h i hi => d.images_below entry (List.mem_filter.mp h).1 i hi

/-! ## Walking a path -/

/-- No segment may be longer than this, in bytes. -/
def maxSegment : Nat := 255

/-- No path may be this long, in bytes. -/
def pathLimit : Nat := 4096

/-- What is wrong with a path however it is used. -/
def formFlaw (p : Path) : Option IoError :=
  if p.segments.any fun segment => segment.toList.contains '\x00' then some .zeroInPath
  else if p.isEmpty then some .notFound
  else none

/-- What is wrong with a path before it is walked. -/
def pathFlaw (p : Path) : Option IoError :=
  match formFlaw p with
  | some e => some e
  | none => if p.byteSize ≥ pathLimit then some .nameTooLong else none

/-- Where a path starts. -/
def startOf (p : Path) : Place := if p.isAbsolute then [] else home

/-- One step of a walk. -/
def step (d : Disk) (place : Place) (segment : String) : Except IoError Place :=
  match d.node? place with
  | some .directory =>
    if Path.isIdle segment then .ok place
    else if segment == ".." then .ok place.dropLast
    else if segment.utf8ByteSize > maxSegment then .error .nameTooLong
    else
      match d.node? (place ++ [segment]) with
      | some _ => .ok (place ++ [segment])
      | none => .error .notFound
  | some (.file _) => .error .notADirectory
  | none => .error .notFound

/-- The place a row of segments leads to from another place. -/
def walk (d : Disk) (place : Place) : List String → Except IoError Place
  | [] => .ok place
  | segment :: rest =>
    match d.step place segment with
    | .ok next => d.walk next rest
    | .error e => .error e

/-- The place a path leads to. -/
def resolve (d : Disk) (p : Path) : Except IoError Place :=
  match pathFlaw p with
  | some e => .error e
  | none => d.walk (startOf p) p.segments

/-- The place a row of segments leads to, if every place on the way has a path
that is not too long. -/
def walkShort (d : Disk) (place : Place) : List String → Except IoError Place
  | [] => .ok place
  | segment :: rest =>
    match d.step place segment with
    | .ok next =>
      if next.byteSize ≥ pathLimit then .error .nameTooLong else d.walkShort next rest
    | .error e => .error e

theorem walk_of_walkShort {d : Disk} {place found : Place} {segments : List String}
    (h : d.walkShort place segments = .ok found) : d.walk place segments = .ok found := by
  induction segments generalizing place with
  | nil => exact h
  | cons segment rest ih =>
    rw [walkShort] at h
    rw [walk]
    cases hstep : d.step place segment with
    | error e => simp only [hstep, reduceCtorEq] at h
    | ok next =>
      simp only [hstep] at h
      split at h
      · cases h
      · exact ih h

/-- **The place a path leads to, whatever the length of the path.** It is the
same for every path to one file. -/
def canonical (d : Disk) (p : Path) : Except IoError Place :=
  match formFlaw p with
  | some e => .error e
  | none => d.walkShort (startOf p) p.segments

/-- A path that is not too long itself leads to the same place when it is walked
at once. -/
theorem resolve_eq_of_canonical {d : Disk} {p : Path} {place : Place}
    (h : d.canonical p = .ok place) (hp : p.byteSize < pathLimit) : d.resolve p = .ok place := by
  rw [canonical] at h
  rw [resolve, pathFlaw]
  cases hform : formFlaw p with
  | some e => simp only [hform, reduceCtorEq] at h
  | none =>
    simp only [hform] at h
    simp only [if_neg (Nat.not_le.2 hp)]
    exact walk_of_walkShort h

/-- What stands at the end of a path. -/
def find? (d : Disk) (p : Path) : Option Node :=
  match d.resolve p with
  | .ok place => d.node? place
  | .error _ => none

/-- Whether a path leads anywhere. -/
def exists? (d : Disk) (p : Path) : Bool := (d.find? p).isSome

/-- Whether a path leads to a directory. -/
def isDirectory (d : Disk) (p : Path) : Bool := d.find? p == some .directory

/-! ## The last segment of a path

An operation that makes or removes an entry walks all but the last segment, and
then looks at the last one itself. -/

/-- **What a path names in the directory it leads to.** -/
inductive Target where
  /-- The directory itself or the one above it, or the root. -/
  | directory
  /-- An entry, which may or may not be there. -/
  | entry (place : Place) (slashed : Bool)
  deriving DecidableEq, Repr

/-- What a path names. -/
def target (d : Disk) (p : Path) : Except IoError Target :=
  match pathFlaw p with
  | some e => .error e
  | none =>
    match p.segments.reverse.dropWhile (· == "") with
    | [] => .ok .directory
    | last :: before =>
      match d.walk (startOf p) before.reverse with
      | .error e => .error e
      | .ok place =>
        match d.node? place with
        | some .directory =>
          if last == "." || last == ".." then .ok .directory
          else .ok (.entry (place ++ [last]) (p.segments.getLast? == some ""))
        | some (.file _) => .error .notADirectory
        | none => .error .notFound

/-- What a path names, as a step of an operation. -/
def locate (p : Path) : DiskM Target := do
  match (← get).target p with
  | .ok t => return t
  | .error e => throw e

/-- What stands at the place that a path names, if the name can be looked up. -/
def lookUp (place : Place) : DiskM (Option Node) := do
  if (place.getLastD "").utf8ByteSize > maxSegment then throw .nameTooLong
  return (← get).node? place

/-! ## Making and removing entries -/

/-- Make a directory. -/
def makeDirectory (p : Path) : DiskM Unit := do
  match ← locate p with
  | .directory => throw .alreadyExists
  | .entry place _ =>
    match ← lookUp place with
    | some _ => throw .alreadyExists
    | none => modify (·.addDirectory place)

/-- Make a directory unless it is already there. -/
def ensureDirectory (p : Path) : DiskM Unit := do
  try makeDirectory p catch e =>
    if e = .alreadyExists ∧ (← get).isDirectory p then pure () else throw e

/-- Make a directory and those above it that are missing, at most `depth` of
them. The empty path needs no directory. -/
def makeDirectories : (depth : Nat) → Path → DiskM Unit
  | 0, _ => pure ()
  | depth + 1, p =>
    if p.isEmpty then pure ()
    else
      try ensureDirectory p catch e =>
        match e, p.parent with
        | .notFound, some up => do
          makeDirectories depth up
          ensureDirectory p
        | e, _ => throw e

/-- Create an empty file, or empty the one that is there. -/
def createFile (p : Path) : DiskM Unit := do
  match ← locate p with
  | .directory => throw .isADirectory
  | .entry place slashed =>
    if slashed then throw .isADirectory
    match ← lookUp place with
    | some .directory => throw .isADirectory
    | some (.file i) => modify (·.setImage i Image.empty)
    | none => modify (·.addFile place)

/-- Remove a file. Its image stays for whoever holds it open. -/
def removeFile (p : Path) : DiskM Unit := do
  match ← locate p with
  | .directory => throw .isADirectory
  | .entry place slashed =>
    match ← lookUp place with
    | none => throw .notFound
    | some .directory => throw .isADirectory
    | some (.file _) =>
      if slashed then throw .notADirectory
      modify (·.removeEntry place)

/-! ## The contents of a file by its path -/

/-- The image that stands at the end of a path. -/
def imageAt (p : Path) : DiskM ImageId := do
  match (← get).resolve p with
  | .error e => throw e
  | .ok place =>
    match (← get).node? place with
    | some (.file i) => return i
    | some .directory => throw .isADirectory
    | none => throw .notFound

/-- The contents of the file at a path. -/
def contents (p : Path) : DiskM Image := do
  return (← get).image (← imageAt p)

/-- Write bytes into the file at a path, which is created if it is missing and
never cut. -/
def writeFile (p : Path) (off : Nat) (bytes : List UInt8) : DiskM Unit := do
  unless (← get).exists? p do createFile p
  let i ← imageAt p
  modify fun d => d.setImage i ((d.image i).writeAt off bytes)

/-- Give the file at a path a length. -/
def setLength (p : Path) (size : Nat) : DiskM Unit := do
  let i ← imageAt p
  modify fun d => d.setImage i ((d.image i).setSize size)

end Disk

end SlottedFile
