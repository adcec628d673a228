import SlottedFile.Proofs.PageArray
import SlottedFile.Proofs.Pool.Recency

/-!
# Which page numbers have an address

A page number is a word of 64 bits, and so is the position of the page's first byte in its
file. The position is computed by adding the header block and multiplying with the length of
a block, and the operations stop where they stand if that is no word: they **overrun**
(`Overruns`), which is not an answer. For an open file this happens from one number on
(`page_numbers_overrun_exactly`), which is the same for reading, for cutting the file and for
fetching, and one less for writing, where the end of the block is computed as well.

A fetch can also write a page back, to make room. The number of that page is not the one that
was asked for, and it is one that was read or allocated before; so it has an address
(`Store.Addressable`), and making room never overruns.

Below those numbers every page lies behind the header block. Neither a page that is written
nor a file that is cut changes that block, and no page that is read shows it.
-/

namespace SlottedFile

variable {ε σ α : Type}

/-- The number of blocks that begin at a word, `2 ^ 51`. -/
def blockLimit : Nat := 0x8000000000000

/-- **An operation overruns**: it stops without an answer. -/
def Overruns (x : EStateM (Fault ε) σ α) (s : σ) : Prop :=
  ∃ o s', x s = .error (.overrun o) s'

/-- An operation that overruns on one condition, and otherwise returns or reports an error. -/
theorem overruns_iff {x : EStateM (Fault ε) σ α} {s : σ} {P : Prop}
    (h : Ends x s (fun _ _ => ¬P) fun e _ => e.IsError ↔ ¬P) : Overruns x s ↔ P := by
  constructor
  · rintro ⟨o, s', hx⟩
    exact not_not.mp fun hnot => (h.of_error hx).mpr hnot
  · intro hP
    unfold Ends at h
    cases hx : x s with
    | ok a s' =>
      rw [hx] at h
      exact absurd hP h
    | error e s' =>
      rw [hx] at h
      cases e with
      | error e => exact absurd hP (h.mp trivial)
      | overrun o => exact ⟨o, s', hx⟩

/-! ## The files -/

namespace Files

variable {fs fs' fs'' : Files} {handle : Nat} {o : OpenFile}

/-- **Files that are open as before, with the headers that they had.** -/
structure Beside (fs fs' : Files) : Prop where
  table_eq : fs'.table = fs.table
  entries_eq : fs'.disk.entries = fs.disk.entries
  header_eq : ∀ i, (fs'.disk.image i).block 0 = (fs.disk.image i).block 0

namespace Beside

theorem refl (fs : Files) : fs.Beside fs := ⟨rfl, rfl, fun _ => rfl⟩

theorem trans (h : fs.Beside fs') (h' : fs'.Beside fs'') : fs.Beside fs'' where
  table_eq := h'.table_eq.trans h.table_eq
  entries_eq := h'.entries_eq.trans h.entries_eq
  header_eq := fun i => (h'.header_eq i).trans (h.header_eq i)

/-- One file is changed behind its header. -/
theorem of_onlyAt {i : ImageId} (h : OnlyAt i fs fs')
    (hheader : (fs'.disk.image i).block 0 = (fs.disk.image i).block 0) : fs.Beside fs' where
  table_eq := h.table_eq
  entries_eq := h.entries_eq
  header_eq := fun j => by
    by_cases hj : j = i
    · rw [hj, hheader]
    · rw [h.image_eq j hj]

end Beside

/-- **The block of an open file is read** unless its position is no word. -/
theorem ends_readBlock_word (ho : fs.table.byHandle? handle = some o) (block : Nat) :
    Ends (readBlock handle block blockSize) fs
      (fun _ _ => block * blockSize < wordLimit)
      (fun e _ => e.IsError ↔ block * blockSize < wordLimit) := by
  unfold readBlock blockOffset
  rw [dif_pos rfl, ends_bind, ends_opened]
  refine ⟨fun _ _ => ?_, fun hnone => absurd (ho.symm.trans hnone) nofun⟩
  rw [ends_bind, ends_checkWord]
  refine ⟨fun hword => ?_, fun hfar => iff_of_false id (Nat.not_lt.2 hfar)⟩
  exact ends_ite.mpr ⟨fun _ => iff_of_true trivial hword, fun _ => hword⟩

/-- **A block is written** unless the position behind it is no word. -/
theorem ends_writeBlock_word (ho : fs.table.byHandle? handle = some o) (block : Nat) (b : Block) :
    Ends (writeBlock handle block b) fs
      (fun _ _ => (block + 1) * blockSize < wordLimit)
      (fun e _ => e.IsError ↔ (block + 1) * blockSize < wordLimit) := by
  have hend : (block + 1) * blockSize = block * blockSize + blockSize := Nat.succ_mul _ _
  rw [hend]
  unfold writeBlock blockOffset
  rw [dif_pos rfl, ends_bind, ends_opened]
  refine ⟨fun o' _ => ?_, fun hnone => absurd (ho.symm.trans hnone) nofun⟩
  rw [ends_bind, ends_checkWord]
  refine ⟨fun _ => ?_, fun hfar => iff_of_false id (by omega)⟩
  rw [ends_bind, ends_checkWord]
  refine ⟨fun hword => ?_, fun hfar => iff_of_false id (Nat.not_lt.2 hfar)⟩
  -- what is left to do can be refused, but it computes nothing
  have hwrite : ∀ fs : Files, Ends (do
      if block * blockSize > maxOffset then fail (.io .invalidArgument)
      setImage o' ((← image o').setBlock block b)) fs
      (fun _ _ => block * blockSize + blockSize < wordLimit)
      (fun e _ => e.IsError ↔ block * blockSize + blockSize < wordLimit) := fun fs =>
    ends_ite.mpr ⟨fun _ => iff_of_true trivial hword, fun _ => hword⟩
  rw [ends_bind, ends_image, ends_ite]
  refine ⟨fun _ => ?_, fun _ => hwrite _⟩
  rw [ends_bind, ends_setSize]
  exact ⟨fun _ => hwrite _, fun _ => iff_of_true trivial hword⟩

/-- A buffer that is no page is refused, if the page number can be looked at. -/
theorem ends_readPage_short {n : Nat} (hn : n ≠ blockSize) (page : Nat) :
    Ends (readPage handle page n) fs (fun _ _ => page + 1 < wordLimit)
      (fun e _ => e.IsError ↔ page + 1 < wordLimit) := by
  unfold readPage readBlock
  rw [ends_bind, ends_pageBlock, dif_neg hn.symm]
  exact ⟨fun hword => iff_of_true trivial hword, fun hfar => iff_of_false id (Nat.not_lt.2 hfar)⟩

theorem ends_writePage_short {n : Nat} (hn : n ≠ blockSize) (page : Nat) (data : Buffer n) :
    Ends (writePage handle page data) fs (fun _ _ => page + 1 < wordLimit)
      (fun e _ => e.IsError ↔ page + 1 < wordLimit) := by
  unfold writePage writeBlock
  rw [ends_bind, ends_pageBlock, dif_neg hn]
  exact ⟨fun hword => iff_of_true trivial hword, fun hfar => iff_of_false id (Nat.not_lt.2 hfar)⟩

/-- A block begins at a word if there are as few before it as a word can count. -/
theorem mul_blockSize_lt {n : Nat} : n * blockSize < wordLimit ↔ n < blockLimit := by
  rw [show blockSize = 8192 from rfl, show wordLimit = 18446744073709551616 from rfl,
    show blockLimit = 2251799813685248 from rfl]
  omega

/-- A block whose number is no word does not begin at one. -/
theorem not_mul_blockSize_lt {n : Nat} (h : wordLimit ≤ n) : ¬n * blockSize < wordLimit :=
  Nat.not_lt.2 (Nat.le_trans h (Nat.le_mul_of_pos_right n (by decide)))

/-- **A page is read** unless its number is the first without an address or a greater one. -/
theorem ends_readPage_word (ho : fs.table.byHandle? handle = some o) (page : Nat) :
    Ends (readPage handle page blockSize) fs (fun _ _ => ¬blockLimit - 1 ≤ page)
      (fun e _ => e.IsError ↔ ¬blockLimit - 1 ≤ page) := by
  have hlast : ¬blockLimit - 1 ≤ page ↔ (page + 1) * blockSize < wordLimit := by
    rw [mul_blockSize_lt]
    omega
  rw [hlast]
  unfold readPage
  rw [ends_bind, ends_pageBlock]
  exact ⟨fun _ => ends_readBlock_word ho (page + 1),
    fun hfar => iff_of_false id (not_mul_blockSize_lt hfar)⟩

theorem overruns_readPage (ho : fs.table.byHandle? handle = some o) (page n : Nat) :
    Overruns (readPage handle page n) fs ↔
      (if n = blockSize then blockLimit - 1 else wordLimit - 1) ≤ page := by
  by_cases hn : n = blockSize
  · subst hn
    rw [if_pos rfl]
    exact overruns_iff (ends_readPage_word ho page)
  · have hlast : ¬wordLimit - 1 ≤ page ↔ page + 1 < wordLimit := by
      omega
    refine overruns_iff ?_
    rw [if_neg hn, hlast]
    exact ends_readPage_short hn page

/-- **A page is written** unless the position behind it is no word. -/
theorem overruns_writePage (ho : fs.table.byHandle? handle = some o) (page : Nat) {n : Nat}
    (data : Buffer n) :
    Overruns (writePage handle page data) fs ↔
      (if n = blockSize then blockLimit - 2 else wordLimit - 1) ≤ page := by
  refine overruns_iff ?_
  by_cases hn : n = blockSize
  · subst hn
    have hlast : ¬blockLimit - 2 ≤ page ↔ (page + 1 + 1) * blockSize < wordLimit := by
      rw [mul_blockSize_lt]
      omega
    rw [if_pos rfl, hlast]
    unfold writePage
    rw [ends_bind, ends_pageBlock]
    exact ⟨fun _ => ends_writeBlock_word ho (page + 1) data,
      fun hfar => iff_of_false id (not_mul_blockSize_lt (Nat.le_succ_of_le hfar))⟩
  · have hlast : ¬wordLimit - 1 ≤ page ↔ page + 1 < wordLimit := by
      omega
    rw [if_neg hn, hlast]
    exact ends_writePage_short hn page data

/-- **A file is cut** unless its new end is no word. -/
theorem overruns_truncatePages (ho : fs.table.byHandle? handle = some o) (pages : Nat) :
    Overruns (truncatePages handle pages) fs ↔ blockLimit - 1 ≤ pages := by
  refine overruns_iff ?_
  have hlast : ¬blockLimit - 1 ≤ pages ↔ (pages + 1) * blockSize < wordLimit := by
    rw [mul_blockSize_lt]
    omega
  rw [hlast]
  unfold truncatePages
  rw [ends_bind, ends_opened]
  refine ⟨fun _ _ => ?_, fun hnone => absurd (ho.symm.trans hnone) nofun⟩
  rw [ends_bind, ends_checkWord]
  refine ⟨fun _ => ?_, fun hfar => iff_of_false id (not_mul_blockSize_lt hfar)⟩
  rw [ends_bind, ends_checkWord]
  refine ⟨fun hword => ?_, fun hfar => iff_of_false id (Nat.not_lt.2 hfar)⟩
  exact ends_setSize.mpr ⟨fun _ => hword, fun _ => iff_of_true trivial hword⟩

/-- **Only the call for it changes the header.** -/
theorem beside_of_run (hs : fs.Sound) (ho : fs.table.byHandle? handle = some o) {call : FileCall}
    (hcall : ∀ bytes, call ≠ .writeHeader bytes) :
    fs.Beside (stateAfter (call.run handle) fs) := by
  refine ((call.ends_run hs ho).imp ?_ ?_).stateAfter
  · rintro r fs' ⟨honly, heffect⟩
    refine .of_onlyAt honly (heffect.header_eq.trans ?_)
    cases call with
    | writeHeader bytes => exact absurd rfl (hcall bytes)
    | _ => rfl
  · rintro e fs' ⟨rfl, -⟩
    exact .refl _

end Files

/-! ## The pool -/

namespace Store

variable {s s' s'' : Store} {handle : Nat} {o : OpenFile} {k : PageKey}

/-- **A store whose buffered pages have addresses**, of which the files admit that they are
seeked. -/
def Addressable (s : Store) : Prop :=
  ∀ k ∈ s.pool.keys, (k.page + 1) * blockSize ≤ Files.maxOffset

/-- **A store after room was made**, or after the attempt: pages may have left, and may have
been written behind the headers. -/
structure Cleared (s s' : Store) : Prop where
  beside : s.files.Beside s'.files
  keys_subset : s'.pool.keys ⊆ s.pool.keys

namespace Cleared

theorem refl (s : Store) : s.Cleared s := ⟨.refl _, fun _ h => h⟩

theorem trans (h : s.Cleared s') (h' : s'.Cleared s'') : s.Cleared s'' :=
  ⟨h.beside.trans h'.beside, fun _ hk => h.keys_subset (h'.keys_subset hk)⟩

theorem addressable (h : s.Cleared s') (hs : s.Addressable) : s'.Addressable :=
  fun k hk => hs k (h.keys_subset hk)

end Cleared

/-- **A buffered page is written back behind the header**, -/
theorem ends_flushPage_beside (hs : s.files.Sound) (k : PageKey) :
    Ends (flushPage k) s (fun _ s' => s.files.Beside s'.files)
      (fun e s' => s' = s ∧ (s.pool.contains k = true ∧
        s.files.Unreachable k.file (k.page + 1) e)) := by
  unfold flushPage
  rw [ends_bind, ends_get]
  cases hfind : s.pool.find? k with
  | none => exact ends_pure.mpr (.refl _)
  | some e =>
    rw [ends_ite]
    refine ⟨fun _ => ?_, fun _ => ends_pure.mpr (.refl _)⟩
    rw [ends_bind, ends_get, ends_bind, ends_onFiles]
    refine (Files.ends_writePage hs k.file k.page (s.frame e.frame)).imp ?_ ?_
    · rintro _ fs ⟨o, ho, rfl⟩
      rw [ends_modifyPool]
      obtain ⟨honly, himage⟩ := Files.OnlyAt.putImage (hs.lt_images ho)
        ((s.files.disk.image o.image).setBlock (k.page + 1) (s.frame e.frame))
      refine .of_onlyAt honly ((congrArg (·.block 0) himage).trans ?_)
      exact (Image.block_setBlock _ _ _ _).trans (if_neg (Nat.succ_ne_zero _).symm)
    · rintro e' fs ⟨rfl, hfar⟩
      exact ⟨rfl, by rw [Pool.contains, hfind]; rfl, hfar⟩

/-- or an error is reported. -/
theorem ends_flushPage_cleared (hs : s.files.Sound) (ha : s.Addressable) (k : PageKey) :
    Ends (flushPage k) s (fun _ s' => s.Cleared s') (fun e s' => s.Cleared s' ∧ e.IsError) := by
  refine ((ends_flushPage_beside hs k).and (ends_flushPage_order k)).imp ?_ ?_
  · rintro _ s' ⟨hbeside, hleft, -⟩
    exact ⟨hbeside, fun j hj => hleft.keys_eq ▸ hj⟩
  · rintro e _ ⟨⟨rfl, hin, hfar⟩, -⟩
    refine ⟨.refl _, ?_⟩
    have hnear := ha k (Pool.mem_keys.mpr hin)
    cases e with
    | error e => exact trivial
    | overrun o =>
      have hfar : wordLimit ≤ (k.page + 1 + 1) * blockSize := hfar
      have hmax : Files.maxOffset + blockSize < wordLimit := by decide
      rw [Nat.succ_mul] at hfar
      omega

/-- **Making room never overruns**, and leaves the headers. -/
theorem ends_makeRoom_cleared (hs : s.files.Sound) (ha : s.Addressable) :
    Ends makeRoom s (fun _ s' => s.Cleared s') (fun e s' => s.Cleared s' ∧ e.IsError) := by
  unfold makeRoom
  rw [ends_bind, ends_get, ends_ite]
  refine ⟨fun _ => ?_, fun _ => .refl s⟩
  unfold evictOldest
  rw [ends_bind, ends_get]
  cases s.pool.victim? with
  | none => exact ⟨.refl s, trivial⟩
  | some v =>
    rw [ends_bind]
    refine (ends_flushPage_cleared hs ha v).imp (fun _ s₁ h => ?_) fun _ _ h => h
    rw [ends_modifyPool]
    refine h.trans ⟨.refl _, fun j hj => ?_⟩
    have hj : j ∈ s₁.pool.keys.filter (· != v) := Pool.keys_erase ▸ hj
    exact (List.mem_filter.mp hj).1

/-- **A page that comes to the pool has an address.** -/
theorem ends_load_addressed (hs : s.files.Sound) (ha : s.Addressable) (k : PageKey) :
    Ends (load k) s
      (fun _ s' => s.files.Beside s'.files ∧ (∀ j ∈ s'.pool.keys, j = k ∨ j ∈ s.pool.keys) ∧
        (k.page + 1) * blockSize ≤ Files.maxOffset)
      (fun _ s' => s.Cleared s') := by
  unfold load
  rw [ends_bind]
  refine (ends_makeRoom_cleared hs ha).imp (fun _ s₁ h => ?_) fun _ _ h => h.1
  rw [ends_bind, ends_onFiles]
  refine (Files.ends_readPage s₁.files k.file k.page).imp ?_ ?_
  · rintro b fs ⟨rfl, hnear, -⟩
    rw [ends_bind, ends_newFrame, ends_modifyPool]
    refine ⟨h.beside, fun j hj => ?_, hnear⟩
    rcases List.mem_cons.mp ((Pool.Left.use (p := s₁.pool) rfl).keys_eq ▸ hj) with rfl | hj
    · exact .inl rfl
    · exact .inr (h.keys_subset (List.mem_filter.mp hj).1)
  · rintro e fs ⟨rfl, -⟩
    exact h

/-- A buffered page is fetched without a look at the files. -/
theorem ends_fetch_beside (hk : s.pool.contains k = true) :
    Ends (fetch k) s (fun _ s' => s'.files = s.files) (fun _ _ => False) := by
  obtain ⟨e, hfind⟩ := Option.isSome_iff_exists.mp hk
  unfold fetch
  rw [ends_bind, ends_get, hk]
  refine ends_bind.mpr (ends_get.mpr ?_)
  rw [hfind]
  exact rfl

/-- **A fetch leaves the headers**, whether it succeeds or fails, -/
theorem ends_fetch_addressed (hs : s.files.Sound) (ha : s.Addressable) (k : PageKey) :
    Ends (fetch k) s (fun _ s' => s.files.Beside s'.files ∧ s'.Addressable)
      (fun _ s' => s.files.Beside s'.files ∧ s'.Addressable) := by
  cases hk : s.pool.contains k with
  | true =>
    refine ((ends_fetch_beside hk).and (ends_fetch_hit hk)).imp ?_ fun _ _ h => h.1.elim
    rintro f s' ⟨hfiles, hleft⟩
    refine ⟨hfiles ▸ .refl _, fun j hj => ?_⟩
    rcases List.mem_cons.mp (hleft.keys_eq ▸ hj) with rfl | hj
    · exact ha j (Pool.mem_keys.mpr hk)
    · exact ha j (List.mem_filter.mp hj).1
  | false =>
    unfold fetch
    rw [ends_bind, ends_get, hk]
    refine ends_bind.mpr ((ends_load_addressed hs ha k).imp ?_
      fun _ _ h => ⟨h.beside, h.addressable ha⟩)
    rintro _ s₁ ⟨hbeside, hkeys, hnear⟩
    have ha₁ : s₁.Addressable := fun j hj => (hkeys j hj).elim (fun h => h ▸ hnear) (ha j)
    refine ends_bind.mpr (ends_get.mpr ?_)
    cases hfind : s₁.pool.find? k with
    | none => exact ⟨hbeside, ha₁⟩
    | some e =>
      obtain ⟨hmem, rfl⟩ := Pool.mem_of_find? hfind
      refine ⟨hbeside, fun j hj => ?_⟩
      rcases List.mem_cons.mp ((Pool.Left.use (p := s₁.pool) rfl).keys_eq ▸ hj) with rfl | hj
      · exact hnear
      · exact ha₁ j (List.mem_filter.mp hj).1

/-- and overruns, if there is room for the page, from the first number without an address
on. -/
theorem overruns_fetch_of_room (hroom : makeRoom s = .ok () s')
    (ho : s'.files.table.byHandle? k.file = some o) (hk : s.pool.contains k = false) :
    Overruns (fetch k) s ↔ blockLimit - 1 ≤ k.page := by
  refine overruns_iff ?_
  unfold fetch
  rw [ends_bind, ends_get, hk]
  have hload : Ends (load k) s (fun _ _ => ¬blockLimit - 1 ≤ k.page)
      (fun e _ => e.IsError ↔ ¬blockLimit - 1 ≤ k.page) := by
    unfold load
    rw [ends_bind, ends_of_ok hroom, ends_bind, ends_onFiles]
    exact (Files.ends_readPage_word ho k.page).imp (fun _ _ h => h) fun _ _ h => h
  refine hload.bind fun _ s₁ hnear => ?_
  rw [ends_bind, ends_get]
  cases s₁.pool.find? k with
  | none => exact iff_of_true trivial hnear
  | some e => exact hnear

/-- A new page has an address. -/
theorem ends_newPage_addressed (hs : s.files.Sound) (ha : s.Addressable) (file : Nat) :
    Ends (newPage file) s (fun _ s' => s'.Addressable) (fun _ s' => s'.Addressable) := by
  unfold newPage
  rw [ends_bind]
  refine (ends_makeRoom_cleared hs ha).imp (fun _ s₁ h => ?_) fun _ _ h => h.1.addressable ha
  have ha₁ := h.addressable ha
  rw [ends_bind, ends_onFiles]
  refine (Files.ends_allocatePage s₁.files file).imp ?_ fun _ _ _ => ha₁
  rintro p fs ⟨o, -, -, hnear, -⟩
  rw [ends_bind, ends_newFrame, ends_bind, ends_modifyPool, ends_bind, ends_report]
  intro j hj
  rcases List.mem_cons.mp ((Pool.Left.use (p := s₁.pool) rfl).keys_eq ▸ hj) with rfl | hj
  · exact Nat.le_trans (Nat.mul_le_mul_right _ (Nat.le_succ _)) hnear
  · exact ha₁ j (List.mem_filter.mp hj).1

/-- **No call brings a page without an address to the pool.** -/
theorem ends_run_addressable (hs : s.Tidy) (ha : s.Addressable) (call : PoolCall) :
    Ends call.run s (fun _ s' => s'.Addressable) (fun _ s' => s'.Addressable) := by
  have hfewer : ∀ {keys : List PageKey} {s' : Store}, keys ⊆ s.pool.keys →
      s.pool.Left keys s'.pool → s'.Addressable := fun hsub hleft j hj =>
    ha j (hsub (hleft.keys_eq ▸ hj))
  by_cases hneeds : call.Needs s.pool
  · cases call with
    | fetch k => exact ends_bind.mpr ((ends_fetch_addressed hs.files ha k).imp
        (fun _ _ h => h.2) fun _ _ h => h.2)
    | newPage file => exact ends_bind.mpr ((ends_newPage_addressed hs.files ha file).imp
        (fun _ _ h => h) fun _ _ h => h)
    | _ => exact hneeds.elim
  · refine (PoolCall.ends_run_order hneeds).imp ?_ ?_
    · rintro r s' ⟨hleft, hin⟩
      refine hfewer (fun j hj => ?_) hleft
      cases r with
      | pinned k f =>
        rcases List.mem_cons.mp hj with rfl | hj
        · exact hin j f rfl
        · exact (List.mem_filter.mp hj).1
      | out b => exact (PoolCall.order_sublist (r := .out b) (fun _ _ => nofun) _).subset hj
      | done => exact (PoolCall.order_sublist (r := .done) (fun _ _ => nofun) _).subset hj
    · rintro e s' (hleft | ⟨file, -, hleft⟩)
      · exact hfewer (fun _ h => h) hleft
      · exact hfewer List.filter_sublist.subset hleft

end Store

theorem PoolCourse.addressable {capacity : Nat} {log : List (PoolCall × PoolReply)} {s : Store}
    (h : PoolCourse capacity log s) : s.Addressable := by
  induction h with
  | start disk limit => exact nofun
  | @returned _ _ _ call _ h hrun ih => exact (Store.ends_run_addressable h.tidy ih call).of_ok hrun
  | @failed _ _ _ call _ h hrun ih =>
    exact (Store.ends_run_addressable h.tidy ih call).of_error hrun
  | meanwhile _ hpool _ ih =>
    intro k hk
    rw [hpool] at hk
    exact ih k hk

/-- A page without an address is not buffered, so that a fetch of it needs a frame. -/
theorem PoolCourse.overruns_fetch {capacity : Nat} {log : List (PoolCall × PoolReply)} {s : Store}
    (h : PoolCourse capacity log s) {k : PageKey} {o : OpenFile}
    (ho : s.files.table.byHandle? k.file = some o) :
    Overruns (Store.fetch k) s ↔ blockLimit - 1 ≤ k.page ∧ ∃ t, Store.makeRoom s = .ok () t := by
  have hmade := Store.ends_makeRoom_cleared h.tidy.files h.addressable
  have hopen : ∀ {t}, Store.makeRoom s = .ok () t → t.files.table.byHandle? k.file = some o := by
    intro t hroom
    rw [(hmade.of_ok hroom).beside.table_eq, ho]
  constructor
  · rintro ⟨w, s', hfetch⟩
    have hk : s.pool.contains k = false := by
      by_contra hk
      exact ((Store.ends_fetch_hit (eq_true_of_ne_false hk)).of_error hfetch).elim
    cases hroom : Store.makeRoom s with
    | ok _ t =>
      exact ⟨(Store.overruns_fetch_of_room hroom (hopen hroom) hk).mp ⟨w, s', hfetch⟩, t, rfl⟩
    | error e t =>
      have hrun : (PoolCall.fetch k).run s = .error e t := PoolCall.run_of_makeRoom hk hroom
      have hsame : Ends (PoolCall.fetch k).run s (fun _ _ => True) (fun e' _ => e' = .overrun w) :=
        ends_bind.mpr ((ends_of_error hfetch).mpr rfl)
      have herror := (hmade.of_error hroom).2
      rw [hsame.of_error hrun] at herror
      exact herror.elim
  · rintro ⟨hfar, t, hroom⟩
    refine (Store.overruns_fetch_of_room hroom (hopen hroom) ?_).mpr hfar
    refine eq_false_of_ne_true fun hk => ?_
    have hnear := h.addressable k (Pool.mem_keys.mpr hk)
    rw [show blockSize = 8192 from rfl, show Files.maxOffset = 9223372036854775807 from rfl] at hnear
    rw [show blockLimit = 2251799813685248 from rfl] at hfar
    omega

/-- **Which page numbers overrun.** In every state of the pool and of the files, and for every
open file, a page is read with a whole buffer unless its number is at least `2 ^ 51 - 1`,
written unless it is at least `2 ^ 51 - 2`, the file is cut to fewer than `2 ^ 51 - 1` pages, and
a page is fetched unless its number is at least `2 ^ 51 - 1` and there is room for it; in every
other case there is a result or an error that is reported. None of these numbers leads to the
header: that changes by the call for it alone, and is not what is read as a page. -/
theorem page_numbers_overrun_exactly {capacity : Nat} {log : List (PoolCall × PoolReply)}
    {s : Store} (h : PoolCourse capacity log s) {handle : Nat} {o : OpenFile}
    (ho : s.files.table.byHandle? handle = some o) :
    (∀ page n, Overruns (Files.readPage handle page n) s.files ↔
      (if n = blockSize then blockLimit - 1 else wordLimit - 1) ≤ page) ∧
    (∀ page n (data : Buffer n), Overruns (Files.writePage handle page data) s.files ↔
      (if n = blockSize then blockLimit - 2 else wordLimit - 1) ≤ page) ∧
    (∀ pages, Overruns (Files.truncatePages handle pages) s.files ↔ blockLimit - 1 ≤ pages) ∧
    (∀ page, Overruns (Store.fetch ⟨handle, page⟩) s ↔
      blockLimit - 1 ≤ page ∧ ∃ t, Store.makeRoom s = .ok () t) ∧
    (∀ call : FileCall, (∀ bytes, call ≠ .writeHeader bytes) →
      s.files.Beside (stateAfter (call.run handle) s.files)) ∧
    (∀ page, s.files.Beside (stateAfter (Store.fetch ⟨handle, page⟩) s).files) ∧
    ∀ page, Ends (Files.readPage handle page blockSize) s.files
      (fun b fs => fs = s.files ∧ b = (s.files.disk.image o.image).block (page + 1))
      (fun _ fs => fs = s.files) := by
  refine ⟨fun page n => Files.overruns_readPage ho page n,
    fun page _ data => Files.overruns_writePage ho page data,
    fun pages => Files.overruns_truncatePages ho pages,
    fun page => h.overruns_fetch ho,
    fun call hcall => Files.beside_of_run h.tidy.files ho hcall, fun page => ?_, fun page => ?_⟩
  · exact ((Store.ends_fetch_addressed h.tidy.files h.addressable ⟨handle, page⟩).imp
      (fun _ _ h => h.1) fun _ _ h => h.1).stateAfter (P := fun s' : Store => s.files.Beside s'.files)
  · refine (Files.ends_readPage s.files handle page).imp ?_ fun _ _ h => h.1
    rintro b fs ⟨rfl, -, o', ho', rfl⟩
    obtain rfl : o = o' := Option.some.inj (ho.symm.trans ho')
    exact ⟨rfl, rfl⟩

/-- A pool that was asked for no frame and has one, and an open file of one page. -/
theorem oneOpened_course : PoolCourse 0 [] oneOpened := by
  have hopen : Store.onFiles (Files.openFile ⟨["f"]⟩) (Store.ofDisk oneFile 1 1) =
      .ok 0 oneOpened := rfl
  have hrun : PoolRun (fun _ _ => True) [] oneOpened := (PoolRun.start oneFile 1 1).opened hopen
  have hstart : PoolCourse 0 [] (Store.ofDisk oneFile 1 1) := .start oneFile 1
  exact hstart.meanwhile rfl hrun.tidy

/-- The last number that a page can be fetched by, and the next. -/
theorem page_numbers_overrun_exactly_oneOpened :
    ¬Overruns (Store.fetch ⟨0, 2251799813685246⟩) oneOpened ∧
      Overruns (Store.fetch ⟨0, 2251799813685247⟩) oneOpened := by
  have ho : oneOpened.files.table.byHandle? 0 = some ⟨0, Disk.home ++ ["f"], 0⟩ := rfl
  obtain ⟨-, -, -, hfetch, -⟩ := page_numbers_overrun_exactly oneOpened_course ho
  refine ⟨fun h => ?_, (hfetch _).mpr ⟨by decide, oneOpened, rfl⟩⟩
  exact absurd ((hfetch _).mp h).1 (by decide)

/-- **A page number of 64 bits that is no answer**: a page whose position is `2 ^ 64` can be
neither read nor written nor fetched, and the file can not be cut before it, without
overrunning. -/
theorem page_number_has_no_address :
    PoolCourse 0 [] oneOpened ∧
      oneOpened.files.table.byHandle? 0 = some ⟨0, Disk.home ++ ["f"], 0⟩ ∧
      Files.readPage 0 2251799813685247 blockSize oneOpened.files =
        .error (.overrun .number) oneOpened.files ∧
      Files.writePage 0 2251799813685247 (Buffer.zero blockSize) oneOpened.files =
        .error (.overrun .number) oneOpened.files ∧
      Files.truncatePages 0 2251799813685247 oneOpened.files =
        .error (.overrun .number) oneOpened.files ∧
      Store.fetch ⟨0, 2251799813685247⟩ oneOpened = .error (.overrun .number) oneOpened :=
  ⟨oneOpened_course, rfl, rfl, rfl, rfl, rfl⟩

end SlottedFile
