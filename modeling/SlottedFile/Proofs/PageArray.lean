import Mathlib.Order.Bounds.Basic
import Mathlib.Order.MinMax
import SlottedFile.Proofs.Pool.Run

/-!
# A paged file as an array of pages

Whoever reads a page of a file gets what was written to it last, unless the page was cut off
since then: what is cut off is gone, and a file that grows again grows by zeros. Before the
first write there is what the file began with, and behind its end there are zeros, without end.
The header stands beside the pages. No call on the pages reaches it, and to write it reaches no
page.

What a call does to the contents of the file (`FileCall.Effect`) is said block by block, and
without a word about lengths, but for the count of the pages. The lengths are where the work
is: a write extends the file, a new page fills up a last block that was only begun, a cut can
lengthen a file that has not even a whole header. That a block behind the end is zero, whatever
was there before, is a law of images (`Image.block_of_size_le`), and all that is said below of
growing again rests on it.

The calls that returned say all there is to know (`lastPage`, `lastHeader`). A call that is
refused changes nothing, and none is refused but for its own sake: because a buffer is no page,
a header is too long, or a block lies farther out than any file reaches.
-/

namespace SlottedFile

/-! ## Lengths and pages -/

namespace Image

variable {img : Image}

/-- **The page count is the least number of pages that reaches the end.** -/
theorem isLeast_pages (img : Image) : IsLeast {n | img.size ≤ (n + 1) * blockSize} img.pages :=
  ⟨img.size_le_of_pages, fun _ hn => Nat.not_lt.1 fun hlt => Nat.not_lt.2 hn (lt_pages_iff.mp hlt)⟩

/-- A page behind the last is zero. -/
theorem block_of_pages_le {p : Nat} (h : img.pages ≤ p) :
    img.block (p + 1) = Buffer.zero blockSize :=
  block_of_size_le (Nat.le_trans img.size_le_of_pages
    (Nat.mul_le_mul_right _ (Nat.succ_le_succ h)))

/-- A page that is written is there, and every page before it. -/
theorem pages_setBlock_succ (p : Nat) (b : Block) :
    (img.setBlock (p + 1) b).pages = max img.pages (p + 1) := by
  refine eq_of_forall_lt_iff fun q => ?_
  have hpage : (q + 1) * blockSize < (p + 1 + 1) * blockSize ↔ q < p + 1 :=
    (Nat.mul_lt_mul_right (by decide)).trans (Nat.add_lt_add_iff_right)
  rw [lt_pages_iff, size_setBlock, lt_max_iff, lt_max_iff, lt_pages_iff, hpage]

/-- What is left of a block, in a file that is cut or extended to some pages. -/
theorem block_setSize_pages (n k : Nat) :
    (img.setSize ((n + 1) * blockSize)).block k =
      if k ≤ n then img.block k else Buffer.zero blockSize := by
  split
  · rename_i hk
    exact block_setSize_of_block_le (Nat.mul_le_mul_right _ (Nat.succ_le_succ hk))
  · rename_i hk
    refine block_of_size_le ?_
    rw [size_setSize]
    exact Nat.mul_le_mul_right _ (Nat.not_le.1 hk)

end Image

/-! ## Calls -/

/-- **A call on a file that is open.** The buffers it is given may have any length. -/
inductive FileCall where
  | readPage (page n : Nat)
  | writePage (page n : Nat) (data : Buffer n)
  | readHeader
  | writeHeader (bytes : List UInt8)
  | allocate
  | truncate (pages : Nat)
  | count

/-- **What a call gives back.** -/
inductive FileReply where
  | bytes (bytes : List UInt8)
  | number (n : Nat)
  | done

namespace FileCall

/-- Make a call. -/
def run (handle : Nat) : FileCall → FilesM FileReply
  | readPage page n => do return .bytes (← Files.readPage handle page n).toList
  | writePage page _ data => do
    Files.writePage handle page data
    return .done
  | readHeader => do return .bytes (← Files.readHeader handle).toList
  | writeHeader bytes => do
    Files.writeHeader handle bytes
    return .done
  | allocate => do return .number (← Files.allocatePage handle)
  | truncate pages => do
    Files.truncatePages handle pages
    return .done
  | count => do return .number (← Files.pageCount handle)

/-- Whether a call is within reach: its buffer is a page, its header fits, and no block that it
is about ends behind what a file can hold. -/
def InReach (img : Image) : FileCall → Prop
  | readPage page n | writePage page n _ =>
    n = blockSize ∧ (page + 2) * blockSize ≤ Files.maxOffset
  | writeHeader bytes => bytes.length ≤ blockSize
  | allocate => (img.pages + 2) * blockSize ≤ Files.maxOffset
  | truncate pages => (pages + 1) * blockSize ≤ Files.maxOffset
  | readHeader | count => True

/-- What a call gives back of a file. -/
def reply (img : Image) : FileCall → FileReply
  | readPage page _ => .bytes (img.block (page + 1)).toList
  | readHeader => .bytes (img.block 0).toList
  | allocate | count => .number img.pages
  | writePage _ _ _ | writeHeader _ | truncate _ => .done

/-- The number of pages after a call. -/
def pagesAfter (pages : Nat) : FileCall → Nat
  | writePage page _ _ => max pages (page + 1)
  | allocate => pages + 1
  | truncate n => n
  | readPage _ _ | readHeader | writeHeader _ | count => pages

/-- The header after a call. -/
def headerAfter (header : Block) : FileCall → Block
  | writeHeader bytes => Buffer.ofList blockSize bytes
  | _ => header

/-- A page after a call. -/
def pageAfter (p : Nat) (b : Block) : FileCall → Block
  | writePage q n data => if h : n = blockSize then if p = q then data.cast h else b else b
  | truncate n => if p < n then b else Buffer.zero blockSize
  | _ => b

/-- Whether a call only looks at a file. -/
def Looks : FileCall → Prop
  | readPage _ _ | readHeader | count => True
  | _ => False

/-- **What a call that returned did to a file.** -/
structure Effect (call : FileCall) (img : Image) (r : FileReply) (img' : Image) : Prop where
  reply_eq : r = call.reply img
  looks : call.Looks → img' = img
  pages_eq : img'.pages = call.pagesAfter img.pages
  header_eq : img'.block 0 = call.headerAfter (img.block 0)
  page_eq : ∀ p, img'.block (p + 1) = call.pageAfter p (img.block (p + 1))
  fresh : call = .allocate → img'.block (img.pages + 1) = Buffer.zero blockSize
  /-- A header that was whole stays whole. -/
  full : blockSize ≤ img.size → blockSize ≤ img'.size

namespace Effect

variable {call : FileCall} {img : Image}

/-- A call that only looks leaves everything as it is. -/
theorem of_looks (h : call.Looks) : call.Effect img (call.reply img) img := by
  cases call <;>
    first | exact h.elim | exact ⟨rfl, fun _ => rfl, rfl, rfl, fun _ => rfl, nofun, id⟩

theorem writePage (page : Nat) (data : Block) :
    (FileCall.writePage page blockSize data).Effect img .done (img.setBlock (page + 1) data) where
  reply_eq := rfl
  looks := False.elim
  pages_eq := Image.pages_setBlock_succ page data
  header_eq := (Image.block_setBlock img _ 0 data).trans (if_neg (Nat.succ_ne_zero page).symm)
  page_eq := fun p => by
    rw [Image.block_setBlock, pageAfter, dif_pos rfl]
    exact if_congr Nat.succ_inj rfl rfl
  fresh := nofun
  full := fun h => Nat.le_trans h (Nat.le_max_left _ _)

theorem writeHeader (bytes : List UInt8) :
    (FileCall.writeHeader bytes).Effect img .done
      (img.setBlock 0 (Buffer.ofList blockSize bytes)) where
  reply_eq := rfl
  looks := False.elim
  pages_eq := Image.pages_setBlock _ (Nat.zero_le _)
  header_eq := (Image.block_setBlock img 0 0 _).trans (if_pos rfl)
  page_eq := fun p => (Image.block_setBlock img 0 _ _).trans (if_neg (Nat.succ_ne_zero p))
  fresh := nofun
  full := fun h => Nat.le_trans h (Nat.le_max_left _ _)

/-- A file that is given room for some pages has that many. -/
theorem truncate (n : Nat) :
    (FileCall.truncate n).Effect img .done (img.setSize ((n + 1) * blockSize)) where
  reply_eq := rfl
  looks := False.elim
  pages_eq := Image.pages_setSize img n
  header_eq := (Image.block_setSize_pages n 0).trans (if_pos (Nat.zero_le n))
  page_eq := fun p => Image.block_setSize_pages n (p + 1)
  fresh := nofun
  full := fun _ => by
    rw [Image.size_setSize]
    exact Nat.le_mul_of_pos_left _ (Nat.succ_pos n)

/-- A new page is behind the end until it is allocated, so that no page changes. -/
theorem allocate :
    FileCall.allocate.Effect img (.number img.pages)
      (img.setSize ((img.pages + 2) * blockSize)) where
  reply_eq := rfl
  looks := False.elim
  pages_eq := Image.pages_setSize img (img.pages + 1)
  header_eq := (Image.block_setSize_pages (img.pages + 1) 0).trans (if_pos (Nat.zero_le _))
  page_eq := fun p => by
    refine (Image.block_setSize_pages (img.pages + 1) (p + 1)).trans (ite_eq_left_iff.mpr ?_)
    exact fun hp => (Image.block_of_pages_le (by omega)).symm
  fresh := fun _ => (Image.block_setSize_pages (img.pages + 1) (img.pages + 1)).trans
    ((if_pos (Nat.le_refl _)).trans (Image.block_of_pages_le (Nat.le_refl _)))
  full := fun _ => by
    rw [Image.size_setSize]
    exact Nat.le_mul_of_pos_left _ (Nat.succ_pos _)

end Effect

end FileCall

namespace Files

/-- **Files that differ in the contents of one file only.** -/
structure OnlyAt (i : ImageId) (fs fs' : Files) : Prop where
  table_eq : fs'.table = fs.table
  entries_eq : fs'.disk.entries = fs.disk.entries
  image_eq : ∀ j, j ≠ i → fs'.disk.image j = fs.disk.image j

namespace OnlyAt

variable {i : ImageId} {fs fs' fs'' : Files}

theorem refl (fs : Files) : OnlyAt i fs fs := ⟨rfl, rfl, fun _ _ => rfl⟩

theorem trans (h : OnlyAt i fs fs') (h' : OnlyAt i fs' fs'') : OnlyAt i fs fs'' where
  table_eq := h'.table_eq.trans h.table_eq
  entries_eq := h'.entries_eq.trans h.entries_eq
  image_eq := fun j hj => (h'.image_eq j hj).trans (h.image_eq j hj)

theorem putImage (hi : i < fs.disk.images.size) (img : Image) :
    OnlyAt i fs (fs.putImage i img) ∧ (fs.putImage i img).disk.image i = img :=
  ⟨⟨rfl, rfl, fun j hj => (Disk.image_setImage img hi j).trans (if_neg hj)⟩,
    (Disk.image_setImage img hi i).trans (if_pos rfl)⟩

theorem sound (h : OnlyAt i fs fs') (hs : fs.Sound) : fs'.Sound :=
  hs.of_stands h.table_eq (.of_entries h.entries_eq)

end OnlyAt

/-! ## What is refused -/

variable {fs : Files} {handle : Nat} {o : OpenFile}

/-- A block of an open file that cannot be reached ends behind what a file can hold. -/
theorem lt_of_unreachable (ho : fs.table.byHandle? handle = some o) {k : Nat}
    {e : Fault FileError} (hfar : fs.Unreachable handle k e) : maxOffset < (k + 1) * blockSize := by
  have hlimit : maxOffset < wordLimit := by decide
  cases e with
  | error e => exact hfar.resolve_left fun hnone => absurd (ho.symm.trans hnone) nofun
  | overrun w => exact Nat.lt_of_lt_of_le hlimit hfar

/-- A buffer that is no page is refused. -/
theorem ends_readPage_of_ne (page : Nat) {n : Nat} (hn : n ≠ blockSize) :
    Ends (readPage handle page n) fs (fun _ _ => False) (fun _ fs' => fs' = fs) := by
  unfold readPage readBlock
  rw [ends_bind, ends_pageBlock, dif_neg hn.symm]
  exact ⟨fun _ => rfl, fun _ => rfl⟩

theorem ends_writePage_of_ne (page : Nat) {n : Nat} (data : Buffer n) (hn : n ≠ blockSize) :
    Ends (writePage handle page data) fs (fun _ _ => False) (fun _ fs' => fs' = fs) := by
  unfold writePage writeBlock
  rw [ends_bind, ends_pageBlock, dif_neg hn]
  exact ⟨fun _ => rfl, fun _ => rfl⟩

/-- **A file is cut or extended to some pages** unless it would be too long. -/
theorem ends_truncatePages_exactly (ho : fs.table.byHandle? handle = some o) (pages : Nat) :
    Ends (truncatePages handle pages) fs
      (fun _ fs' => fs' = fs.putImage o.image
        ((fs.disk.image o.image).setSize ((pages + 1) * blockSize)))
      (fun _ fs' => fs' = fs ∧ maxOffset < (pages + 1) * blockSize) := by
  have hlimit : maxOffset < wordLimit := by decide
  have hblocks : (pages + 1) * 1 ≤ (pages + 1) * blockSize := Nat.mul_le_mul_left _ (by decide)
  unfold truncatePages
  rw [ends_bind, ends_opened]
  refine ⟨fun o' ho' => ?_, fun hnone => absurd (ho.symm.trans hnone) nofun⟩
  obtain rfl : o = o' := Option.some.inj (ho.symm.trans ho')
  rw [ends_bind, ends_checkWord]
  refine ⟨fun _ => ?_, fun hlong => ⟨rfl, by omega⟩⟩
  rw [ends_bind, ends_checkWord]
  refine ⟨fun _ => ?_, fun hlong => ⟨rfl, by omega⟩⟩
  rw [ends_setSize]
  exact ⟨fun _ => rfl, fun hlong => ⟨rfl, hlong⟩⟩

end Files

namespace FileCall

variable {fs : Files} {handle : Nat} {o : OpenFile}

/-- **A call that returns has the effect that it should have**, on the file that it is for and
on no other. One that is refused is out of reach, and changes nothing. -/
theorem ends_run (hs : fs.Sound) (ho : fs.table.byHandle? handle = some o) (call : FileCall) :
    Ends (call.run handle) fs
      (fun r fs' => fs.OnlyAt o.image fs' ∧
        call.Effect (fs.disk.image o.image) r (fs'.disk.image o.image))
      (fun _ fs' => fs' = fs ∧ ¬call.InReach (fs.disk.image o.image)) := by
  have hput : ∀ {call : FileCall} {r : FileReply} {img' : Image},
      call.Effect (fs.disk.image o.image) r img' →
      fs.OnlyAt o.image (fs.putImage o.image img') ∧
        call.Effect (fs.disk.image o.image) r ((fs.putImage o.image img').disk.image o.image) := by
    intro call r img' heffect
    obtain ⟨honly, himage⟩ := Files.OnlyAt.putImage (hs.lt_images ho) img'
    exact ⟨honly, himage.symm ▸ heffect⟩
  have hself : ∀ o', fs.table.byHandle? handle = some o' → o' = o := fun o' ho' =>
    Option.some.inj (ho'.symm.trans ho)
  cases call with
  | readPage page n =>
    by_cases hn : n = blockSize
    · subst hn
      refine ends_bind.mpr ((Files.ends_readPage fs handle page).imp ?_ ?_)
      · rintro b fs' ⟨rfl, -, o', ho', rfl⟩
        rw [hself o' ho']
        exact ⟨.refl _, .of_looks trivial⟩
      · rintro e fs' ⟨rfl, hfar⟩
        exact ⟨rfl, fun hreach => Nat.not_lt.2 hreach.2 (Files.lt_of_unreachable ho hfar)⟩
    · exact ends_bind.mpr ((Files.ends_readPage_of_ne page hn).imp (fun _ _ h => h.elim)
        fun _ _ h => ⟨h, fun hreach => hn hreach.1⟩)
  | writePage page n data =>
    by_cases hn : n = blockSize
    · subst hn
      refine ends_bind.mpr ((Files.ends_writePage hs handle page data).imp ?_ ?_)
      · rintro _ fs' ⟨o', ho', rfl⟩
        rw [hself o' ho']
        exact hput (.writePage page data)
      · rintro e fs' ⟨rfl, hfar⟩
        exact ⟨rfl, fun hreach => Nat.not_lt.2 hreach.2 (Files.lt_of_unreachable ho hfar)⟩
    · exact ends_bind.mpr ((Files.ends_writePage_of_ne page data hn).imp (fun _ _ h => h.elim)
        fun _ _ h => ⟨h, fun hreach => hn hreach.1⟩)
  | readHeader =>
    refine ends_bind.mpr ((Files.ends_readBlock fs handle 0).imp ?_ ?_)
    · rintro b fs' ⟨rfl, -, o', ho', rfl⟩
      rw [hself o' ho']
      exact ⟨.refl _, .of_looks trivial⟩
    · rintro e fs' ⟨rfl, hfar⟩
      exact absurd (ho.symm.trans (Files.byHandle?_of_unreachable hfar)) nofun
  | writeHeader bytes =>
    refine ends_bind.mpr ((Files.ends_writeHeader hs handle bytes).imp ?_ ?_)
    · rintro _ fs' ⟨o', ho', rfl⟩
      rw [hself o' ho']
      exact hput (.writeHeader bytes)
    · rintro e fs' ⟨rfl, hnone | hlong⟩
      · exact absurd (ho.symm.trans hnone) nofun
      · exact ⟨rfl, Nat.not_le.2 hlong⟩
  | allocate =>
    refine ends_bind.mpr ((Files.ends_allocatePage fs handle).imp ?_ ?_)
    · rintro p fs' ⟨o', ho', rfl, -, rfl⟩
      rw [hself o' ho']
      exact hput .allocate
    · rintro e fs' ⟨rfl, -, hlong⟩
      exact ⟨rfl, Nat.not_le.2 (hlong o ho)⟩
  | truncate pages =>
    refine ends_bind.mpr ((Files.ends_truncatePages_exactly ho pages).imp ?_ ?_)
    · rintro _ fs' rfl
      exact hput (.truncate pages)
    · rintro e fs' ⟨rfl, hlong⟩
      exact ⟨rfl, Nat.not_le.2 hlong⟩
  | count =>
    refine ends_bind.mpr (Files.ends_pageCount.mpr ⟨fun o' ho' => ?_, fun hnone => ?_⟩)
    · rw [hself o' ho']
      exact ⟨.refl _, .of_looks trivial⟩
    · exact absurd (ho.symm.trans hnone) nofun

end FileCall

/-! ## Sequences of calls -/

/-- **What is to be read of a page** after some calls, the latest first, on a file that began
with given contents. -/
def lastPage (first : Image) (p : Nat) : List FileCall → Block
  | [] => first.block (p + 1)
  | call :: log => call.pageAfter p (lastPage first p log)

/-- **What is to be read of the header.** -/
def lastHeader (first : Image) : List FileCall → Block
  | [] => first.block 0
  | call :: log => call.headerAfter (lastHeader first log)

/-- **A sequence of calls on an open file**, of which those are listed that returned, the latest
first. -/
inductive FileRun (handle : Nat) (fs₀ : Files) : List FileCall → Files → Prop
  | start : FileRun handle fs₀ [] fs₀
  | returned {log : List FileCall} {fs fs' : Files} {call : FileCall} {r : FileReply}
      (h : FileRun handle fs₀ log fs) (hrun : call.run handle fs = .ok r fs') :
      FileRun handle fs₀ (call :: log) fs'
  | refused {log : List FileCall} {fs fs' : Files} {call : FileCall} {e : Fault FileError}
      (h : FileRun handle fs₀ log fs) (hrun : call.run handle fs = .error e fs') :
      FileRun handle fs₀ log fs'

/-- **A file that shows what was last written to it.** -/
structure Image.Shows (first : Image) (log : List FileCall) (img : Image) : Prop where
  header_eq : img.block 0 = lastHeader first log
  page_eq : ∀ p, img.block (p + 1) = lastPage first p log

/-- One call keeps to what was last written. -/
theorem Image.Shows.step {first img img' : Image} {log : List FileCall} {call : FileCall}
    {r : FileReply} (h : first.Shows log img) (heffect : call.Effect img r img') :
    first.Shows (call :: log) img' where
  header_eq := heffect.header_eq.trans (by rw [h.header_eq, lastHeader])
  page_eq := fun p => (heffect.page_eq p).trans (by rw [h.page_eq, lastPage])

section Runs

variable {fs₀ fs : Files} {handle : Nat} {o : OpenFile} {log : List FileCall}

/-- **Every sequence of calls keeps to what was last written**, and to its file. -/
theorem FileRun.shows (hs : fs₀.Sound) (ho : fs₀.table.byHandle? handle = some o)
    (h : FileRun handle fs₀ log fs) :
    fs₀.OnlyAt o.image fs ∧
      (fs₀.disk.image o.image).Shows log (fs.disk.image o.image) := by
  induction h with
  | start => exact ⟨.refl _, rfl, fun _ => rfl⟩
  | @returned _ _ _ call _ _ hrun ih =>
    obtain ⟨honly, hshows⟩ := ih
    have hends := call.ends_run (honly.sound hs) (honly.table_eq ▸ ho)
    obtain ⟨honly', heffect⟩ := hends.of_ok hrun
    exact ⟨honly.trans honly', hshows.step heffect⟩
  | @refused _ _ _ call _ _ hrun ih =>
    have hends := call.ends_run (ih.1.sound hs) (ih.1.table_eq ▸ ho)
    rw [(hends.of_error hrun).1]
    exact ih

/-- **A paged file is an array of pages beside a header.** After any sequence of calls each page
shows what was last written to it since it was last cut off, what the file began with if that
never happened, and zeros behind the end; the header shows what was last written to it, filled
up with zeros. The page count is the least that reaches the end. And the next call, unless it is
out of reach, returns what is shown and has its own effect and no other: a new page is zero and
one more than there were, a page that is written or cut off leaves the others and the header,
and a header that is written leaves the pages. -/
theorem paged_file_is_array_of_pages (hs : fs₀.Sound)
    (ho : fs₀.table.byHandle? handle = some o) (h : FileRun handle fs₀ log fs) :
    fs₀.OnlyAt o.image fs ∧
      (∀ p, (fs.disk.image o.image).block (p + 1) = lastPage (fs₀.disk.image o.image) p log) ∧
      (fs.disk.image o.image).block 0 = lastHeader (fs₀.disk.image o.image) log ∧
      IsLeast {n | (fs.disk.image o.image).size ≤ (n + 1) * blockSize}
        (fs.disk.image o.image).pages ∧
      (∀ p, (fs.disk.image o.image).pages ≤ p →
        lastPage (fs₀.disk.image o.image) p log = Buffer.zero blockSize) ∧
      ∀ call : FileCall, Ends (call.run handle) fs
        (fun r fs' => fs.OnlyAt o.image fs' ∧
          call.Effect (fs.disk.image o.image) r (fs'.disk.image o.image))
        (fun _ fs' => fs' = fs ∧ ¬call.InReach (fs.disk.image o.image)) := by
  obtain ⟨honly, hshows⟩ := h.shows hs ho
  refine ⟨honly, hshows.page_eq, hshows.header_eq, Image.isLeast_pages _, fun p hp => ?_,
    fun call => call.ends_run (honly.sound hs) (honly.table_eq ▸ ho)⟩
  rw [← hshows.page_eq]
  exact Image.block_of_pages_le hp

/-- A file of one page, of which a byte was written, -/
def oneWritten : Files :=
  stateAfter ((FileCall.writePage 0 blockSize ((Buffer.zero blockSize).set 0 7 blockSize_pos)).run 0)
    oneOpened.files

/-- that has lost its page, -/
def oneEmptied : Files := stateAfter ((FileCall.truncate 0).run 0) oneWritten

/-- and has another. -/
def oneRegrown : Files := stateAfter (FileCall.allocate.run 0) oneEmptied

/-- What was cut off does not come back. -/
theorem paged_file_is_array_of_pages_oneRegrown :
    ((oneWritten.disk.image 0).block 1)[0] = 7 ∧ (oneRegrown.disk.image 0).pages = 1 ∧
      (oneRegrown.disk.image 0).block 1 = Buffer.zero blockSize := by
  have hwrite : (FileCall.writePage 0 blockSize ((Buffer.zero blockSize).set 0 7 blockSize_pos)).run 0
      oneOpened.files = .ok .done oneWritten := rfl
  have hcut : (FileCall.truncate 0).run 0 oneWritten = .ok .done oneEmptied := rfl
  have hgrow : FileCall.allocate.run 0 oneEmptied = .ok (.number 0) oneRegrown := rfl
  have hs : oneOpened.files.Sound := oneOpened_reachable.coherent.1.files
  have ho : oneOpened.files.table.byHandle? 0 = some ⟨0, Disk.home ++ ["f"], 0⟩ := rfl
  have hrun := FileRun.start.returned hwrite
  obtain ⟨-, hwritten, -⟩ := paged_file_is_array_of_pages hs ho hrun
  obtain ⟨-, hregrown, -⟩ := paged_file_is_array_of_pages hs ho
    ((hrun.returned hcut).returned hgrow)
  exact ⟨(congrArg (·[0]) (hwritten 0)).trans (Vector.getElem_set_self _), rfl, hregrown 0⟩

end Runs

end SlottedFile
