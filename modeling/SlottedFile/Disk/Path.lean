/-!
# Paths

A path is the row of segments that slashes separate, kept exactly as it was
given: `a//b/` has the segments `a`, an empty one, `b` and another empty one.
What the segments mean – an empty one nothing, a dot nothing, two dots one
level up – is decided where the path is walked.
-/

namespace SlottedFile

/-- A path as it was given: the segments between its slashes. -/
structure Path where
  segments : List String
  deriving DecidableEq, Repr

/-- The place of an entry of the disk: the names from the root down to it. -/
abbrev Place := List String

/-- The length of the path that leads from the root to a place, in bytes. -/
def Place.byteSize (place : Place) : Nat :=
  (place.map fun name => name.utf8ByteSize + 1).foldl (· + ·) 0

namespace Path

/-- The path written as a text. -/
def ofString (s : String) : Path := ⟨s.splitOn "/"⟩

/-- The text of a path. -/
def text (p : Path) : String := "/".intercalate p.segments

/-- Whether a path is the empty text. -/
def isEmpty (p : Path) : Bool := p.segments.all (· == "") && p.segments.length ≤ 1

/-- Whether a path leads from the root, and not from the working directory. -/
def isAbsolute (p : Path) : Bool := p.segments.head? == some "" && !p.isEmpty

/-- The length of the text of a path, in bytes. -/
def byteSize (p : Path) : Nat :=
  (p.segments.map String.utf8ByteSize).foldl (· + ·) 0 + (p.segments.length - 1)

/-- Whether a segment leads nowhere: it is empty, or a dot. -/
def isIdle (segment : String) : Bool := segment == "" || segment == "."

/-- Drop the idle segments at the end of a path, but never its first one. -/
def dropIdleEnd (segments : List String) : List String :=
  match segments with
  | [] => []
  | first :: rest => first :: (rest.reverse.dropWhile isIdle).reverse

/-- The path of the directory that holds an entry, with nothing idle at its
end. The empty path and the root have none. -/
def parent (p : Path) : Option Path :=
  match dropIdleEnd p.segments with
  | [] => none
  | [first] => if first == "" then none else some ⟨[""]⟩
  | segments =>
    match dropIdleEnd segments.dropLast with
    | [""] => some ⟨["", ""]⟩
    | up => some ⟨up⟩

end Path

end SlottedFile
