import SlottedFile.Proofs.PagedFiles
import SlottedFile.Proofs.Pool.Entries
import SlottedFile.Store.Pool

/-!
# When a pool is coherent with its files

A page of a file is in up to two places: in a block of the file and, if it is
buffered, in a frame. Its **content** is what the frame holds if there is one,
and what the block holds otherwise. A store is coherent (`Coherent`) if the two
places differ only where the pool knows it – the page is dirty – or a holder of
a pin has still to report it.

Handles come and go, so the content of a page is read through a function
`imageOf` that names, once and for all, the image each handle stands for. That
no two handles stand for one image is what keeps a page from having two
contents.

Everything a store holds, wherever it holds it, is its **picture**. Most
operations of the pool do not change the picture at all.
-/

namespace SlottedFile

/-- **One pin of a page**, with the note whether its holder has written to the
page and not yet said so. -/
structure Hold where
  key : PageKey
  frame : FrameId
  wrote : Bool
  deriving DecidableEq, Repr

/-- **Everything a store holds**, wherever it holds it. -/
@[ext] structure Picture where
  /-- The files that are open. -/
  table : FileTable
  entries : List (Place × Node)
  /-- The number of images there have been. -/
  images : Nat
  /-- The header block of an image. -/
  header : ImageId → Block
  /-- The number of data pages of an image. -/
  pages : ImageId → Nat
  content : PageKey → Block

namespace Store

variable (imageOf : Nat → ImageId)

/-- The block of the file that belongs to a page; past the end of the file it is
zero. -/
def diskBlock (s : Store) (k : PageKey) : Block :=
  (s.files.disk.image (imageOf k.file)).block (k.page + 1)

/-- **The content of a page**: its frame if it is buffered, its block of the file
otherwise. -/
def content (s : Store) (k : PageKey) : Block :=
  match s.pool.frame? k with
  | some f => s.frame f
  | none => s.diskBlock imageOf k

/-- Everything the store holds. -/
def picture (s : Store) : Picture where
  table := s.files.table
  entries := s.files.disk.entries
  images := s.files.disk.images.size
  header := fun i => (s.files.disk.image i).block 0
  pages := fun i => (s.files.disk.image i).pages
  content := s.content imageOf

theorem content_of_frame? {s : Store} {k : PageKey} {f : FrameId}
    (h : s.pool.frame? k = some f) : s.content imageOf k = s.frame f := by
  rw [content, h]

theorem content_of_frame?_none {s : Store} {k : PageKey} (h : s.pool.frame? k = none) :
    s.content imageOf k = s.diskBlock imageOf k := by
  rw [content, h]

/-- **Nothing has changed but where things are.** -/
structure Quiet (s s' : Store) : Prop where
  picture : s'.picture imageOf = s.picture imageOf
  held : s'.held = s.held
  nextPin : s'.nextPin = s.nextPin

variable {imageOf}

theorem Quiet.refl (s : Store) : Quiet imageOf s s := ⟨rfl, rfl, rfl⟩

theorem Quiet.trans {s s' s'' : Store} (h : Quiet imageOf s s') (h' : Quiet imageOf s' s'') :
    Quiet imageOf s s'' :=
  ⟨h'.picture.trans h.picture, h'.held.trans h.held, h'.nextPin.trans h.nextPin⟩

end Store

/-- **The pool agrees with its files**, given the pins that are held. -/
structure Coherent (imageOf : Nat → ImageId) (holds : List Hold) (s : Store) : Prop where
  injective : Function.Injective imageOf
  files : s.files.Sound
  stands : ∀ o ∈ s.files.table.opened, o.image = imageOf o.handle
  distinct : s.pool.Distinct
  frame_lt : ∀ {k f}, s.pool.frame? k = some f → f < s.frames.size
  /-- No frame holds two pages. -/
  frame_inj : ∀ {k k' f}, s.pool.frame? k = some f → s.pool.frame? k' = some f → k = k'
  /-- What is buffered belongs to a file that is or was open. -/
  issued : ∀ {k f}, s.pool.frame? k = some f → k.file < s.files.table.next
  /-- What is buffered lies before the end of its file. -/
  inside : ∀ {k f}, s.pool.frame? k = some f →
    k.page < (s.files.disk.image (imageOf k.file)).pages
  /-- What is buffered can be reached. -/
  near : ∀ {k f}, s.pool.frame? k = some f → (k.page + 1) * blockSize ≤ Files.maxOffset
  /-- The pool counts the pins that are held. -/
  pins_eq : ∀ k, s.pool.pinCount k = holds.countP (·.key == k)
  /-- A page with a pin is buffered, in the frame that the holder knows. -/
  held : ∀ h ∈ holds, s.pool.frame? h.key = some h.frame
  /-- A page that is not dirty, and that no holder has still to report, equals
  its block. -/
  clean : ∀ {k f}, s.pool.frame? k = some f → s.pool.isDirty k = false →
    (∀ h ∈ holds, h.key = k → h.wrote = false) → s.frame f = s.diskBlock imageOf k

namespace Coherent

variable {imageOf : Nat → ImageId} {holds : List Hold} {s : Store}

/-- In which order the pins are listed does not matter. -/
theorem perm {holds' : List Hold} (hs : Coherent imageOf holds s) (hperm : holds.Perm holds') :
    Coherent imageOf holds' s where
  injective := hs.injective
  files := hs.files
  stands := hs.stands
  distinct := hs.distinct
  frame_lt := hs.frame_lt
  frame_inj := hs.frame_inj
  issued := hs.issued
  inside := hs.inside
  near := hs.near
  pins_eq := fun k => (hs.pins_eq k).trans (hperm.countP_eq _)
  held := fun h hmem => hs.held h (hperm.mem_iff.mpr hmem)
  clean := fun hframe hdirty hwrote =>
    hs.clean hframe hdirty (fun h hmem => hwrote h (hperm.mem_iff.mp hmem))

/-- **A holder looks at the content of its page.** -/
theorem frame_eq (hs : Coherent imageOf holds s) {h : Hold} (hmem : h ∈ holds) :
    s.frame h.frame = s.content imageOf h.key :=
  (Store.content_of_frame? imageOf (hs.held h hmem)).symm

theorem stands_of_byHandle? (hs : Coherent imageOf holds s) {h : Nat} {o : OpenFile}
    (ho : s.files.table.byHandle? h = some o) : o.image = imageOf h := by
  obtain ⟨hmem, hh⟩ := FileTable.mem_of_byHandle? ho
  rw [hs.stands o hmem, hh]

/-- A page without a pin has no holder. -/
theorem not_held_of_pinCount (hs : Coherent imageOf holds s) {k : PageKey}
    (hpins : s.pool.pinCount k = 0) : ∀ h ∈ holds, h.key ≠ k := by
  have hcount := (hs.pins_eq k).symm.trans hpins
  rw [List.countP_eq_zero] at hcount
  exact fun h hmem hkey => hcount h hmem (by simp [hkey])

/-- **A page that can be dropped equals its block**: it is neither dirty nor
pinned. -/
theorem frame_eq_diskBlock (hs : Coherent imageOf holds s) {k : PageKey} {f : FrameId}
    (hframe : s.pool.frame? k = some f) (hdirty : s.pool.isDirty k = false)
    (hpins : s.pool.pinCount k = 0) : s.frame f = s.diskBlock imageOf k :=
  hs.clean hframe hdirty fun h hmem hkey => absurd hkey (hs.not_held_of_pinCount hpins h hmem)

end Coherent

end SlottedFile
