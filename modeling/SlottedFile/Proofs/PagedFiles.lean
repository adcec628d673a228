import SlottedFile.Proofs.Ends
import SlottedFile.Proofs.HandleMaps

/-!
# Paged files at work

What each operation on the blocks of an open file does to the disk, and when it
fails. A read or a write of a block fails only if its handle is not open or the
block lies too far out, and a failure changes nothing. A write is the
replacement of one block (`Files.putBlock`), which keeps every other block and,
as long as the block is the header or belongs to a data page that is there, the
number of data pages.
-/

namespace SlottedFile

/-- A block has a first byte. -/
theorem blockSize_pos : 0 < blockSize := by decide

/-! ## Images on the disk -/

namespace Image

/-- The number of data pages. A block that is only begun counts. -/
def pages (img : Image) : Nat := img.blockCount - 1

theorem lt_pages_iff {img : Image} {p : Nat} : p < img.pages ↔ (p + 1) * blockSize < img.size := by
  unfold pages blockCount
  rw [Nat.lt_sub_iff_add_lt, Nat.lt_iff_add_one_le, Nat.le_div_iff_mul_le (by decide),
    Nat.succ_mul (p + 1), show blockSize = 8192 from rfl]
  omega

/-- Two images in which the same data pages lie before the end have as many. -/
theorem pages_eq_of_lt_iff {img img' : Image} (h : ∀ p, p < img.pages ↔ p < img'.pages) :
    img.pages = img'.pages :=
  Nat.le_antisymm (Nat.not_lt.1 fun hlt => Nat.lt_irrefl _ ((h _).mp hlt))
    (Nat.not_lt.1 fun hlt => Nat.lt_irrefl _ ((h _).mpr hlt))

theorem pages_setBlock {img : Image} {k : Nat} (b : Block) (h : k ≤ img.pages) :
    (img.setBlock k b).pages = img.pages := by
  refine pages_eq_of_lt_iff (fun p => ?_)
  rw [lt_pages_iff, lt_pages_iff, size_setBlock]
  refine ⟨fun hp => ?_, fun hp => Nat.lt_of_lt_of_le hp (Nat.le_max_left _ _)⟩
  rcases Nat.lt_or_ge ((p + 1) * blockSize) img.size with hlt | hge
  · exact hlt
  · have hpk : (p + 1) * blockSize < (k + 1) * blockSize := by omega
    have hk : p < k := Nat.lt_of_succ_lt_succ (Nat.lt_of_mul_lt_mul_right hpk)
    exact lt_pages_iff.mp (Nat.lt_of_lt_of_le hk h)

/-- The next data page is not begun yet. -/
theorem size_le_of_pages (img : Image) : img.size ≤ (img.pages + 1) * blockSize :=
  Nat.not_lt.1 fun h => Nat.lt_irrefl _ (lt_pages_iff.mpr h)

theorem pages_setSize (img : Image) (n : Nat) : (img.setSize ((n + 1) * blockSize)).pages = n := by
  refine Nat.le_antisymm (Nat.not_lt.1 fun h => ?_) (Nat.not_lt.1 fun h => ?_)
  · rw [lt_pages_iff, size_setSize] at h
    exact Nat.lt_irrefl _ h
  · have hle := size_le_of_pages (img.setSize ((n + 1) * blockSize))
    rw [size_setSize] at hle
    have := Nat.le_of_mul_le_mul_right hle (by decide)
    omega

end Image

namespace Disk

theorem image_setImage {d : Disk} {i : ImageId} (img : Image) (h : i < d.images.size)
    (j : ImageId) : (d.setImage i img).image j = if j = i then img else d.image j := by
  unfold setImage image
  by_cases hj : j = i
  · subst hj
    simp [Array.getD_eq_getD_getElem?, h]
  · simp [Array.getD_eq_getD_getElem?, hj, Ne.symm hj]

@[simp] theorem size_images_setImage (d : Disk) (i : ImageId) (img : Image) :
    (d.setImage i img).images.size = d.images.size :=
  Array.size_setIfInBounds

/-- What stands where depends on the entries of the disk alone. -/
theorem node?_congr {d d' : Disk} (h : d.entries = d'.entries) (place : Place) :
    d.node? place = d'.node? place := by
  rw [node?, node?, h]

/-- Whatever stood on a disk stands on another one. -/
def Stands (d d' : Disk) : Prop := ∀ q n, d.node? q = some n → d'.node? q = some n

theorem Stands.of_entries {d d' : Disk} (h : d'.entries = d.entries) : d.Stands d' :=
  fun q _ hn => (node?_congr h q).trans hn

theorem lt_of_node? {d : Disk} {place : Place} {i : ImageId}
    (h : d.node? place = some (.file i)) : i < d.images.size := by
  unfold node? at h
  split at h
  · cases h
  · have hmem := List.lookup_eq_some_iff.mp h
    obtain ⟨l₁, l₂, hl, -⟩ := hmem
    exact d.images_below (place, .file i) (by rw [hl]; simp) i rfl

end Disk

/-! ## The table of open files -/

/-- **What holds of every table**: a handle belongs to one open file, and was given out, and
the two maps are inverse to each other. -/
structure FileTable.Sound (t : FileTable) : Prop where
  handle_lt : ∀ o ∈ t.opened, o.handle < t.next
  handle_inj : ∀ o ∈ t.opened, ∀ o' ∈ t.opened, o.handle = o'.handle → o = o'
  inverse : t.maps.Inverse

namespace FileTable.Sound

theorem empty (limit : Nat) : Sound { limit } := ⟨nofun, nofun, inverse_empty limit⟩

variable {t : FileTable} (ht : t.Sound)

include ht

theorem byHandle?_of_mem {o : OpenFile} (hmem : o ∈ t.opened) :
    t.byHandle? o.handle = some o := by
  cases hfind : t.byHandle? o.handle with
  | none => exact absurd (beq_self_eq_true _) (List.find?_eq_none.mp hfind o hmem)
  | some o' =>
    obtain ⟨hmem', hhandle⟩ := mem_of_byHandle? hfind
    rw [ht.handle_inj o' hmem' o hmem hhandle]

/-- **A place has the handle of the file that is open there.** -/
theorem handleAt?_eq_some_iff {place : Place} {h : Nat} :
    t.handleAt? place = some h ↔ ∃ o ∈ t.opened, o.handle = h ∧ o.place = place := by
  refine (ht.inverse.place_iff place h).trans ⟨?_, ?_⟩
  · rintro ⟨o, ho, hplace⟩
    obtain ⟨hmem, hhandle⟩ := mem_of_byHandle? ho
    exact ⟨o, hmem, hhandle, hplace⟩
  · rintro ⟨o, hmem, rfl, hplace⟩
    exact ⟨o, ht.byHandle?_of_mem hmem, hplace⟩

/-- At a place without a handle no file is open. -/
theorem handleAt?_eq_none_iff {place : Place} :
    t.handleAt? place = none ↔ ∀ o ∈ t.opened, o.place ≠ place := by
  rw [Option.eq_none_iff_forall_ne_some]
  constructor
  · intro hnone o hmem hplace
    exact hnone o.handle (ht.handleAt?_eq_some_iff.mpr ⟨o, hmem, rfl, hplace⟩)
  · intro hclosed h hopen
    obtain ⟨o, hmem, -, hplace⟩ := ht.handleAt?_eq_some_iff.mp hopen
    exact hclosed o hmem hplace

/-- A place belongs to one open file. -/
theorem place_inj {o o' : OpenFile} (ho : o ∈ t.opened) (ho' : o' ∈ t.opened)
    (hplace : o.place = o'.place) : o = o' :=
  ht.handle_inj o ho o' ho'
    (ht.inverse.handle_unique (ht.byHandle?_of_mem ho) (ht.byHandle?_of_mem ho') hplace)

theorem lt_next {h : Nat} {o : OpenFile} (ho : t.byHandle? h = some o) : h < t.next := by
  obtain ⟨hmem, rfl⟩ := mem_of_byHandle? ho
  exact ht.handle_lt o hmem

/-- The next handle stands for nothing yet. -/
theorem byHandle?_next : t.byHandle? t.next = none := by
  cases ho : t.byHandle? t.next with
  | none => rfl
  | some o => exact absurd (ht.lt_next ho) (Nat.lt_irrefl _)

/-- A file may be opened at a place at which none is open. -/
theorem add {place : Place} (hclosed : t.handleAt? place = none) (i : ImageId) :
    (t.add place i).Sound where
  handle_lt := by
    intro o ho
    rcases List.mem_cons.mp ho with rfl | ho
    · exact Nat.lt_succ_self _
    · exact Nat.lt_succ_of_lt (ht.handle_lt o ho)
  handle_inj := by
    intro o ho o' ho' heq
    rcases List.mem_cons.mp ho with rfl | ho <;> rcases List.mem_cons.mp ho' with rfl | ho'
    · rfl
    · exact absurd heq.symm (Nat.ne_of_lt (ht.handle_lt o' ho'))
    · exact absurd heq (Nat.ne_of_lt (ht.handle_lt o ho))
    · exact ht.handle_inj o ho o' ho' heq
  inverse := by
    rw [maps_add]
    exact ht.inverse.inserted ht.byHandle?_next hclosed

/-- Any file may be closed. -/
theorem erase (h : Nat) : (t.erase h).Sound where
  handle_lt := fun o ho => ht.handle_lt o (mem_opened_erase.mp ho).1
  handle_inj := fun o ho o' ho' =>
    ht.handle_inj o (mem_opened_erase.mp ho).1 o' (mem_opened_erase.mp ho').1
  inverse := by
    cases ho : t.byHandle? h with
    | none =>
      rw [erase_of_closed ho]
      exact ht.inverse
    | some o =>
      rw [maps_erase ho]
      exact ht.inverse.removed ((mem_of_byHandle? ho).2.symm ▸ ho)

/-- The files are still open that were opened at other places. -/
theorem mem_opened_without {place : Place} {o : OpenFile} :
    o ∈ (t.without place).opened ↔ o ∈ t.opened ∧ o.place ≠ place := by
  unfold without
  cases hopen : t.handleAt? place with
  | none => exact (and_iff_left_of_imp (ht.handleAt?_eq_none_iff.mp hopen o)).symm
  | some h =>
    obtain ⟨o', hmem', rfl, rfl⟩ := ht.handleAt?_eq_some_iff.mp hopen
    refine mem_opened_erase.trans (and_congr_right fun hmem => not_iff_not.mpr ?_)
    refine ⟨fun heq => ?_, fun heq => ?_⟩
    · rw [ht.handle_inj o hmem o' hmem' heq]
    · rw [ht.place_inj hmem hmem' heq]

theorem without (place : Place) : (t.without place).Sound := by
  unfold FileTable.without
  cases t.handleAt? place with
  | none => exact ht
  | some h => exact ht.erase h

end FileTable.Sound

/-- **What holds of the open files whatever was done with them**: their table is in order, and
at the place of each stands the image it was opened on. -/
structure Files.Sound (fs : Files) : Prop extends fs.table.Sound where
  placed : ∀ o ∈ fs.table.opened, fs.disk.node? o.place = some (.file o.image)

namespace Files

theorem Sound.lt_images {fs : Files} (hs : fs.Sound) {h : Nat} {o : OpenFile}
    (ho : fs.table.byHandle? h = some o) : o.image < fs.disk.images.size :=
  Disk.lt_of_node? (hs.placed o (FileTable.mem_of_byHandle? ho).1)

/-- Files with one image changed. -/
def putImage (fs : Files) (i : ImageId) (img : Image) : Files :=
  { fs with disk := fs.disk.setImage i img }

/-- **Files with one block changed.** -/
def putBlock (fs : Files) (i : ImageId) (k : Nat) (b : Block) : Files :=
  fs.putImage i ((fs.disk.image i).setBlock k b)

/-- Where no file is open. -/
theorem Sound.start (disk : Disk) (limit : Nat) : Sound ⟨disk, { limit }⟩ :=
  ⟨.empty limit, nofun⟩

/-- The disk may change as long as everything stands. -/
theorem Sound.of_stands {fs fs' : Files} (hs : fs.Sound) (htable : fs'.table = fs.table)
    (hstands : fs.disk.Stands fs'.disk) : fs'.Sound where
  toSound := htable ▸ hs.toSound
  placed := fun o ho => hstands _ _ (hs.placed o (htable ▸ ho))

theorem Sound.putImage {fs : Files} (hs : fs.Sound) (i : ImageId) (img : Image) :
    (fs.putImage i img).Sound :=
  ⟨hs.toSound, hs.placed⟩

section Rules

variable {fs : Files} {h : Nat}

theorem ends_opened {good : OpenFile → Files → Prop} {bad : Fault FileError → Files → Prop} :
    Ends (opened h) fs good bad ↔
      (∀ o, fs.table.byHandle? h = some o → good o fs) ∧
        (fs.table.byHandle? h = none → bad (.error (.invalidHandle h)) fs) := by
  unfold opened
  rw [ends_bind, ends_get]
  cases fs.table.byHandle? h with
  | some o => simp [ends_pure]
  | none => simp [ends_fail]

theorem ends_image {o : OpenFile} {good : Image → Files → Prop}
    {bad : Fault FileError → Files → Prop} :
    Ends (image o) fs good bad ↔ good (fs.disk.image o.image) fs := Iff.rfl

theorem ends_setImage {o : OpenFile} {img : Image} {good : Unit → Files → Prop}
    {bad : Fault FileError → Files → Prop} :
    Ends (setImage o img) fs good bad ↔ good () (fs.putImage o.image img) := Iff.rfl

theorem ends_setSize {o : OpenFile} {size : Nat} {good : Unit → Files → Prop}
    {bad : Fault FileError → Files → Prop} :
    Ends (setSize o size) fs good bad ↔
      (size ≤ maxOffset → good () (fs.putImage o.image ((fs.disk.image o.image).setSize size))) ∧
        (maxOffset < size → bad (.error (.io .lengthTooLarge)) fs) := by
  unfold setSize
  by_cases hsize : size > maxOffset
  · simp [hsize, ends_bind, ends_fail, Nat.not_le.2 hsize]
  · simp [hsize, ends_bind, ends_image, ends_setImage, Nat.not_lt.1 hsize]

theorem ends_checkWord {n : Nat} {good : Nat → Files → Prop}
    {bad : Fault FileError → Files → Prop} :
    Ends (liftOverrun (checkWord n) : FilesM Nat) fs good bad ↔
      (n < wordLimit → good n fs) ∧ (wordLimit ≤ n → bad (.overrun .number) fs) := by
  rw [ends_liftOverrun, checkWord]
  by_cases hn : n < wordLimit
  · simp [hn, Nat.not_le.2 hn]
  · simp [hn, Nat.not_lt.1 hn]

end Rules

/-! ## Blocks -/

/-- Why a block cannot be read or written: its handle is not open, or it ends
too far out. Only a block whose end is no word makes the operation overrun. -/
def Unreachable (fs : Files) (h k : Nat) : Fault FileError → Prop
  | .error _ => fs.table.byHandle? h = none ∨ maxOffset < (k + 1) * blockSize
  | .overrun _ => wordLimit ≤ (k + 1) * blockSize

/-- The header block of an open file can always be reached. -/
theorem byHandle?_of_unreachable {fs : Files} {h : Nat} {e : Fault FileError}
    (hfar : fs.Unreachable h 0 e) : fs.table.byHandle? h = none := by
  cases e with
  | error e => exact hfar.resolve_right (by decide)
  | overrun o => exact absurd (show wordLimit ≤ (0 + 1) * blockSize from hfar) (by decide)

/-- A file that is extended to hold a block before the block is written ends as
if it had not been. -/
theorem putBlock_putImage_setSize {fs : Files} {i : ImageId} {k : Nat} (b : Block)
    (hi : i < fs.disk.images.size) (hsize : (fs.disk.image i).size ≤ (k + 1) * blockSize) :
    (fs.putImage i ((fs.disk.image i).setSize ((k + 1) * blockSize))).putBlock i k b =
      fs.putBlock i k b := by
  have himg : ((fs.disk.image i).setSize ((k + 1) * blockSize)).setBlock k b =
      (fs.disk.image i).setBlock k b := by
    simp only [Image.setBlock, Image.setSize, dif_neg (Nat.not_lt.2 hsize), Nat.max_self,
      Nat.max_eq_right hsize]
  unfold putBlock putImage
  dsimp only
  rw [Disk.image_setImage _ hi, if_pos rfl, himg]
  simp only [Disk.setImage, Array.setIfInBounds_setIfInBounds]

/-- **A write replaces one block**, and fails only for a block that cannot be
reached. -/
theorem ends_writeBlock {fs : Files} (hs : fs.Sound) (h k : Nat) (b : Block) :
    Ends (writeBlock h k b) fs
      (fun _ fs' => ∃ o, fs.table.byHandle? h = some o ∧ fs' = fs.putBlock o.image k b)
      (fun e fs' => fs' = fs ∧ fs.Unreachable h k e) := by
  have hend : (k + 1) * blockSize = k * blockSize + blockSize := Nat.succ_mul k blockSize
  unfold writeBlock blockOffset
  rw [dif_pos rfl, ends_bind, ends_opened]
  refine ⟨fun o ho => ?_, fun hnone => ⟨rfl, .inl hnone⟩⟩
  rw [ends_bind, ends_checkWord]
  refine ⟨fun _ => ?_, fun hoff => ⟨rfl, by rw [Unreachable]; omega⟩⟩
  rw [ends_bind, ends_checkWord]
  refine ⟨fun _ => ?_, fun hreq => ⟨rfl, by rw [Unreachable]; omega⟩⟩
  have hfar : ∀ {n e}, maxOffset < n → n ≤ (k + 1) * blockSize → fs.Unreachable h k (.error e) :=
    fun hn hle => .inr (Nat.lt_of_lt_of_le hn hle)
  rw [ends_bind, ends_image, ends_ite]
  refine ⟨fun hsize => ?_, fun hsize => ?_⟩
  · -- the file ends before the block: it is extended first
    rw [ends_bind, ends_setSize]
    refine ⟨fun hmax => ?_, fun hmax => ⟨rfl, hfar hmax (by omega)⟩⟩
    rw [ends_ite]
    refine ⟨fun hc => absurd hc (by omega), fun _ => ?_⟩
    rw [ends_bind, ends_image, ends_setImage]
    refine ⟨o, ho, ?_⟩
    rw [← hend]
    exact putBlock_putImage_setSize b (hs.lt_images ho) (by omega)
  · rw [ends_ite]
    refine ⟨fun hmax => ⟨rfl, hfar hmax (by omega)⟩, fun _ => ?_⟩
    rw [ends_bind, ends_image, ends_setImage]
    exact ⟨o, ho, rfl⟩

/-- **A read shows one block**, and fails only for a block that cannot be
reached. -/
theorem ends_readBlock (fs : Files) (h k : Nat) :
    Ends (readBlock h k blockSize) fs
      (fun b fs' => fs' = fs ∧ k * blockSize ≤ maxOffset ∧
        ∃ o, fs.table.byHandle? h = some o ∧ b = (fs.disk.image o.image).block k)
      (fun e fs' => fs' = fs ∧ fs.Unreachable h k e) := by
  have hend : (k + 1) * blockSize = k * blockSize + blockSize := Nat.succ_mul k blockSize
  unfold readBlock blockOffset
  rw [dif_pos rfl, ends_bind, ends_opened]
  refine ⟨fun o ho => ?_, fun hnone => ⟨rfl, .inl hnone⟩⟩
  rw [ends_bind, ends_checkWord]
  refine ⟨fun _ => ?_, fun hoff => ⟨rfl, by rw [Unreachable]; omega⟩⟩
  rw [ends_ite]
  refine ⟨fun hmax => ⟨rfl, .inr (by omega)⟩, fun hmax => ?_⟩
  exact ⟨rfl, Nat.not_lt.1 hmax, o, ho, rfl⟩

theorem ends_pageBlock {fs : Files} {page : Nat} {good : Nat → Files → Prop}
    {bad : Fault FileError → Files → Prop} :
    Ends (pageBlock page) fs good bad ↔
      (page + 1 < wordLimit → good (page + 1) fs) ∧
        (wordLimit ≤ page + 1 → bad (.overrun .number) fs) :=
  ends_checkWord

theorem unreachable_of_wordLimit_le {fs : Files} {h k : Nat} {o : Overrun} (hk : wordLimit ≤ k) :
    fs.Unreachable h k (.overrun o) := by
  have hle : k * 1 ≤ (k + 1) * blockSize := Nat.mul_le_mul (Nat.le_succ k) (by decide)
  rw [Unreachable]
  omega

theorem ends_writePage {fs : Files} (hs : fs.Sound) (h p : Nat) (b : Block) :
    Ends (writePage h p b) fs
      (fun _ fs' => ∃ o, fs.table.byHandle? h = some o ∧ fs' = fs.putBlock o.image (p + 1) b)
      (fun e fs' => fs' = fs ∧ fs.Unreachable h (p + 1) e) := by
  unfold writePage
  rw [ends_bind, ends_pageBlock]
  exact ⟨fun _ => ends_writeBlock hs h (p + 1) b,
    fun hlimit => ⟨rfl, unreachable_of_wordLimit_le hlimit⟩⟩

theorem ends_readPage (fs : Files) (h p : Nat) :
    Ends (readPage h p blockSize) fs
      (fun b fs' => fs' = fs ∧ (p + 1) * blockSize ≤ maxOffset ∧
        ∃ o, fs.table.byHandle? h = some o ∧ b = (fs.disk.image o.image).block (p + 1))
      (fun e fs' => fs' = fs ∧ fs.Unreachable h (p + 1) e) := by
  unfold readPage
  rw [ends_bind, ends_pageBlock]
  exact ⟨fun _ => ends_readBlock fs h (p + 1),
    fun hlimit => ⟨rfl, unreachable_of_wordLimit_le hlimit⟩⟩

/-! ## The header block and the page count -/

theorem ends_syncFile {fs : Files} {h : Nat} {good : Unit → Files → Prop}
    {bad : Fault FileError → Files → Prop} :
    Ends (syncFile h) fs good bad ↔
      ((fs.table.byHandle? h).isSome → good () fs) ∧
        (fs.table.byHandle? h = none → bad (.error (.invalidHandle h)) fs) := by
  unfold syncFile
  rw [ends_bind, ends_opened]
  refine and_congr_left' ⟨fun hok hsome => ?_, fun hok o ho => hok (by rw [ho]; rfl)⟩
  obtain ⟨o, ho⟩ := Option.isSome_iff_exists.mp hsome
  exact hok o ho

/-- No header is written under a handle that is not open. -/
theorem ends_writeHeader_of_closed {fs : Files} {h : Nat} (hclosed : fs.table.byHandle? h = none)
    {bytes : List UInt8} (hlength : bytes.length ≤ blockSize) :
    Ends (writeHeader h bytes) fs (fun _ _ => False)
      (fun e fs' => e = .error (.invalidHandle h) ∧ fs' = fs) := by
  unfold writeHeader writeBlock
  refine ends_ite.mpr ⟨fun hlong => absurd hlength (Nat.not_le.2 hlong), fun _ => ?_⟩
  rw [dif_pos rfl, ends_bind, ends_bind, ends_opened]
  exact ⟨fun o ho => absurd (ho.symm.trans hclosed) nofun, fun _ => ⟨rfl, rfl⟩⟩

/-- **The header is written to the first block**; that fails only if it is too
long or the file is not open. -/
theorem ends_writeHeader {fs : Files} (hs : fs.Sound) (h : Nat) (bytes : List UInt8) :
    Ends (writeHeader h bytes) fs
      (fun _ fs' => ∃ o, fs.table.byHandle? h = some o ∧
        fs' = fs.putBlock o.image 0 (Buffer.ofList blockSize bytes))
      (fun _ fs' => fs' = fs ∧ (fs.table.byHandle? h = none ∨ blockSize < bytes.length)) := by
  unfold writeHeader
  rw [ends_ite]
  refine ⟨fun hlong => ⟨rfl, .inr hlong⟩, fun _ => ?_⟩
  refine Ends.bind ((ends_writeBlock hs h 0 _).imp (fun _ _ hb => hb) ?_) ?_
  · rintro e fs' ⟨rfl, hfar⟩
    exact ⟨rfl, .inl (byHandle?_of_unreachable hfar)⟩
  · rintro _ fs' ⟨o, ho, rfl⟩
    rw [ends_syncFile]
    refine ⟨fun _ => ⟨o, ho, rfl⟩, fun hnone => ?_⟩
    rw [putBlock, putImage, ho] at hnone
    cases hnone

theorem ends_pageCount {fs : Files} {h : Nat} {good : Nat → Files → Prop}
    {bad : Fault FileError → Files → Prop} :
    Ends (pageCount h) fs good bad ↔
      (∀ o, fs.table.byHandle? h = some o → good (fs.disk.image o.image).pages fs) ∧
        (fs.table.byHandle? h = none → bad (.error (.invalidHandle h)) fs) := by
  unfold pageCount
  rw [ends_bind, ends_opened]
  rfl

/-- **A new page is the one behind the last**, and the file grows to hold it unless
it would be too long. -/
theorem ends_allocatePage (fs : Files) (h : Nat) :
    Ends (allocatePage h) fs
      (fun p fs' => ∃ o, fs.table.byHandle? h = some o ∧ p = (fs.disk.image o.image).pages ∧
        (p + 2) * blockSize ≤ maxOffset ∧
        fs' = fs.putImage o.image ((fs.disk.image o.image).setSize ((p + 2) * blockSize)))
      (fun e fs' => fs' = fs ∧
        (∀ w, e = .overrun w → ∃ o, fs.table.byHandle? h = some o ∧
          wordLimit ≤ ((fs.disk.image o.image).pages + 2) * blockSize) ∧
        ∀ o, fs.table.byHandle? h = some o →
          maxOffset < ((fs.disk.image o.image).pages + 2) * blockSize) := by
  have hlimit : maxOffset < wordLimit := by decide
  unfold allocatePage
  rw [ends_bind, ends_pageCount]
  refine ⟨fun o ho => ?_, fun hnone => ⟨rfl, nofun, fun o ho => absurd (ho.symm.trans hnone) nofun⟩⟩
  have hfar : maxOffset < ((fs.disk.image o.image).pages + 2) * blockSize →
      ∀ o', fs.table.byHandle? h = some o' →
        maxOffset < ((fs.disk.image o'.image).pages + 2) * blockSize := by
    intro hmax o' ho'
    obtain rfl : o = o' := Option.some.inj (ho.symm.trans ho')
    exact hmax
  rw [ends_bind, ends_opened]
  refine ⟨fun o' ho' => ?_, fun hnone => absurd (ho.symm.trans hnone) nofun⟩
  obtain rfl : o = o' := Option.some.inj (ho.symm.trans ho')
  rw [ends_bind, ends_checkWord]
  refine ⟨fun _ => ?_, fun hword =>
    ⟨rfl, fun _ _ => ⟨o, ho, hword⟩, hfar (Nat.lt_of_lt_of_le hlimit hword)⟩⟩
  rw [ends_bind, ends_setSize]
  exact ⟨fun hmax => ⟨o, ho, rfl, hmax, rfl⟩, fun hmax => ⟨rfl, nofun, hfar hmax⟩⟩

end Files

end SlottedFile
