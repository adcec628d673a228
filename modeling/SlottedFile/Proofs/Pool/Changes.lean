import SlottedFile.Proofs.Pool.Coherence

/-!
# What may be done to a coherent store

The operations of the pool are made of a few changes: a dirty page is written
back, a page that equals its block is dropped, a page enters a new frame, a pin
is taken or given back, a frame is written through a pin. Each of them keeps a
store coherent under the condition stated here, and all but the last two keep
its picture.
-/

namespace SlottedFile

namespace Store

/-! ## Frames -/

/-- A frame that is added shows its bytes, and the others are as they were. -/
theorem frame_push {s t : Store} {b : Block} (ht : t.frames = s.frames.push b) (f : FrameId) :
    t.frame f = if f = s.frames.size then b else s.frame f := by
  unfold frame
  rw [ht, Array.getD_eq_getD_getElem?, Array.getD_eq_getD_getElem?, Array.getElem?_push]
  split <;> simp_all

/-- A frame that is written shows the new bytes, and the others are as they
were. -/
theorem frame_setIfInBounds {s t : Store} {g : FrameId} {b : Block}
    (ht : t.frames = s.frames.setIfInBounds g b) (hg : g < s.frames.size) (f : FrameId) :
    t.frame f = if f = g then b else s.frame f := by
  unfold frame
  rw [ht, Array.getD_eq_getD_getElem?, Array.getD_eq_getD_getElem?,
    Array.getElem?_setIfInBounds]
  by_cases hfg : f = g
  · subst hfg
    simp [hg]
  · rw [if_neg (Ne.symm hfg), if_neg hfg]

theorem frame_congr {s s' : Store} (hframes : s'.frames = s.frames) : s'.frame = s.frame := by
  funext f
  rw [frame, frame, hframes]

/-! ## Parts of the picture

A change of a store touches its files or its pool, and each part of the picture
reads few of them. -/

section Picture

variable {imageOf : Nat → ImageId} {s s' : Store}

theorem diskBlock_congr (hfiles : s'.files = s.files) :
    s'.diskBlock imageOf = s.diskBlock imageOf := by
  funext j
  rw [diskBlock, diskBlock, hfiles]

/-- The content of a page changes only with its frame or its block. -/
theorem content_congr (hframes : s'.frames = s.frames)
    (hframe? : ∀ j, s'.pool.frame? j = s.pool.frame? j)
    (hblock : s'.diskBlock imageOf = s.diskBlock imageOf) :
    s'.content imageOf = s.content imageOf := by
  funext j
  rw [content, content, hframe?, frame_congr hframes, hblock]

/-- While the files stay, only the content of pages can change. -/
theorem picture_of_files (hfiles : s'.files = s.files) :
    s'.picture imageOf = { s.picture imageOf with content := s'.content imageOf } := by
  unfold picture
  rw [hfiles]

/-- An image that is replaced changes neither the table nor the entries nor the
number of images. -/
theorem picture_of_putImage {i : ImageId} {img : Image}
    (hfiles : s'.files = s.files.putImage i img) :
    s'.picture imageOf =
      { s.picture imageOf with
        header := fun j => (s'.files.disk.image j).block 0
        pages := fun j => (s'.files.disk.image j).pages
        content := s'.content imageOf } := by
  ext1
  case table | entries =>
    rw [picture, hfiles]
    rfl
  case images =>
    rw [picture, hfiles]
    exact Disk.size_images_setImage _ _ _
  case header | pages | content => rfl

/-- A change of what the pool notes does not show. -/
theorem picture_eq_of_note (hfiles : s'.files = s.files) (hframes : s'.frames = s.frames)
    (hframe? : ∀ j, s'.pool.frame? j = s.pool.frame? j) :
    s'.picture imageOf = s.picture imageOf := by
  rw [picture_of_files hfiles, content_congr hframes hframe? (diskBlock_congr hfiles)]
  rfl

end Picture

end Store

/-! ## Blocks -/

theorem Files.image_putBlock {fs : Files} {i : ImageId} (hi : i < fs.disk.images.size) (k : Nat)
    (b : Block) (j : ImageId) :
    (fs.putBlock i k b).disk.image j =
      if j = i then (fs.disk.image i).setBlock k b else fs.disk.image j :=
  Disk.image_setImage _ hi j

/-- A block that is written keeps the blocks of every other number and of every
other image. -/
theorem Files.block_putBlock {fs : Files} {i : ImageId} (hi : i < fs.disk.images.size) (k : Nat)
    (b : Block) (j : ImageId) (l : Nat) :
    ((fs.putBlock i k b).disk.image j).block l =
      if j = i ∧ l = k then b else (fs.disk.image j).block l := by
  rw [Files.image_putBlock hi]
  by_cases hj : j = i
  · subst hj
    rw [if_pos rfl, Image.block_setBlock]
    by_cases hl : l = k <;> simp [hl]
  · rw [if_neg hj, if_neg (fun h => hj h.1)]

theorem Files.pages_putBlock {fs : Files} {i : ImageId} (hi : i < fs.disk.images.size) {k : Nat}
    (hk : k ≤ (fs.disk.image i).pages) (b : Block) (j : ImageId) :
    ((fs.putBlock i k b).disk.image j).pages = (fs.disk.image j).pages := by
  rw [Files.image_putBlock hi]
  split
  · subst j
    exact Image.pages_setBlock b hk
  · rfl

/-! ## Pins of one page -/

/-- Pins of one page are counted for that page alone. -/
theorem Hold.countP_key {l : List Hold} {k : PageKey} (h : ∀ h ∈ l, h.key = k) (j : PageKey) :
    l.countP (·.key == j) = if j = k then l.length else 0 := by
  split
  · subst j
    exact List.countP_eq_length.mpr fun g hg => by simpa using h g hg
  · rename_i hj
    exact List.countP_eq_zero.mpr fun g hg => by simpa [h g hg] using Ne.symm hj

namespace Coherent

variable {imageOf : Nat → ImageId} {holds holds' : List Hold} {s s' : Store} {k : PageKey}

/-! ## Changes of the pool and of its frames -/

/-- **The pool may forget pages and change what it notes of the others**, and
frames may be written, as long as the pins are counted and what is clean equals
its block. -/
theorem restrict (hs : Coherent imageOf holds s) (hfiles : s'.files = s.files)
    (hsize : s.frames.size ≤ s'.frames.size) (hdistinct : s'.pool.Distinct)
    (hframe? : ∀ {j f}, s'.pool.frame? j = some f → s.pool.frame? j = some f)
    (hpins : ∀ j, s'.pool.pinCount j = holds'.countP (·.key == j))
    (hheld : ∀ h ∈ holds', s'.pool.frame? h.key = some h.frame)
    (hclean : ∀ {j f}, s'.pool.frame? j = some f → s'.pool.isDirty j = false →
      (∀ h ∈ holds', h.key = j → h.wrote = false) → s'.frame f = s.diskBlock imageOf j) :
    Coherent imageOf holds' s' where
  injective := hs.injective
  files := hfiles ▸ hs.files
  stands := hfiles ▸ hs.stands
  distinct := hdistinct
  frame_lt := fun h => Nat.lt_of_lt_of_le (hs.frame_lt (hframe? h)) hsize
  frame_inj := fun h h' => hs.frame_inj (hframe? h) (hframe? h')
  issued := fun h => by
    rw [hfiles]
    exact hs.issued (hframe? h)
  inside := fun h => by
    rw [hfiles]
    exact hs.inside (hframe? h)
  near := fun h => hs.near (hframe? h)
  pins_eq := hpins
  held := hheld
  clean := by
    rw [Store.diskBlock_congr hfiles]
    exact hclean

/-- **What the pool notes of a page may change as long as it stays true**: the
count of its pins, and that it is dirty whenever it may differ from its
block. -/
theorem note (hs : Coherent imageOf holds s) (hfiles : s'.files = s.files)
    (hframes : s'.frames = s.frames) (hdistinct : s'.pool.Distinct)
    (hframe? : ∀ j, s'.pool.frame? j = s.pool.frame? j)
    (hpins : ∀ j, s'.pool.pinCount j = holds'.countP (·.key == j))
    (hheld : ∀ h ∈ holds', s.pool.frame? h.key = some h.frame)
    (hclean : ∀ {j f}, s.pool.frame? j = some f → s'.pool.isDirty j = false →
      (∀ h ∈ holds', h.key = j → h.wrote = false) → s.frame f = s.diskBlock imageOf j) :
    Coherent imageOf holds' s' := by
  refine hs.restrict hfiles (hframes ▸ Nat.le_refl _) hdistinct (fun h => (hframe? _).symm.trans h)
    hpins (fun h hmem => (hframe? _).trans (hheld h hmem)) fun h hdirty hwrote => ?_
  rw [Store.frame_congr hframes]
  exact hclean ((hframe? _).symm.trans h) hdirty hwrote

/-! ## Changes of the files -/

/-- **The files may change as long as every page that is buffered keeps its
block**, or has its bytes written to it. -/
theorem refile (hs : Coherent imageOf holds s) (hpool : s'.pool = s.pool)
    (hframes : s'.frames = s.frames) (hfiles : s'.files.Sound)
    (hstands : ∀ o ∈ s'.files.table.opened, o.image = imageOf o.handle)
    (hnext : s.files.table.next ≤ s'.files.table.next)
    (hpages : ∀ h,
      (s.files.disk.image (imageOf h)).pages ≤ (s'.files.disk.image (imageOf h)).pages)
    (hblock : ∀ {j f}, s.pool.frame? j = some f →
      s'.diskBlock imageOf j = s.diskBlock imageOf j ∨ s'.diskBlock imageOf j = s.frame f) :
    Coherent imageOf holds s' where
  injective := hs.injective
  files := hfiles
  stands := hstands
  distinct := hpool ▸ hs.distinct
  frame_lt := by
    rw [hpool, hframes]
    exact hs.frame_lt
  frame_inj := by
    rw [hpool]
    exact hs.frame_inj
  issued := fun h => by
    rw [hpool] at h
    exact Nat.lt_of_lt_of_le (hs.issued h) hnext
  inside := fun h => by
    rw [hpool] at h
    exact Nat.lt_of_lt_of_le (hs.inside h) (hpages _)
  near := by
    rw [hpool]
    exact hs.near
  pins_eq := hpool ▸ hs.pins_eq
  held := hpool ▸ hs.held
  clean := fun {j f} h hdirty hwrote => by
    rw [hpool] at h hdirty
    rw [Store.frame_congr hframes]
    rcases hblock h with heq | heq
    · rw [heq]
      exact hs.clean h hdirty hwrote
    · exact heq.symm

/-- The block of a page after a block of an open file is written. -/
theorem diskBlock_putBlock (hs : Coherent imageOf holds s) {h : Nat} {o : OpenFile}
    (ho : s.files.table.byHandle? h = some o) {n : Nat} {b : Block}
    (hfiles : s'.files = s.files.putBlock o.image n b) (j : PageKey) :
    s'.diskBlock imageOf j = if j.file = h ∧ j.page + 1 = n then b else s.diskBlock imageOf j := by
  rw [Store.diskBlock, hfiles, Files.block_putBlock (hs.files.lt_images ho),
    hs.stands_of_byHandle? ho]
  simp only [hs.injective.eq_iff]
  rfl

/-- **A page that is buffered may be written back** and is clean from then
on. -/
theorem writeBack (hs : Coherent imageOf holds s) {e : PoolEntry}
    (hfind : s.pool.find? k = some e) {o : OpenFile}
    (ho : s.files.table.byHandle? k.file = some o)
    (hfiles : s'.files = s.files.putBlock o.image (k.page + 1) (s.frame e.frame))
    (hframes : s'.frames = s.frames)
    (hpool : s'.pool = s.pool.update k fun e => { e with dirty := false }) :
    Coherent imageOf holds s' ∧ s'.picture imageOf = s.picture imageOf := by
  have hi := hs.files.lt_images ho
  have himg := hs.stands_of_byHandle? ho
  have hframe := Pool.frame?_of_find? hfind
  have hk : k.page + 1 ≤ (s.files.disk.image o.image).pages := by
    rw [himg]
    exact hs.inside hframe
  set t : Store := { s with files := s.files.putBlock o.image (k.page + 1) (s.frame e.frame) }
    with ht
  have hpages : ∀ i, (t.files.disk.image i).pages = (s.files.disk.image i).pages :=
    Files.pages_putBlock hi hk _
  have hblock : ∀ j, t.diskBlock imageOf j =
      if j = k then s.frame e.frame else s.diskBlock imageOf j := by
    intro j
    rw [diskBlock_putBlock hs ho rfl]
    refine if_congr ?_ rfl rfl
    cases j
    cases k
    simp
  have htc : Coherent imageOf holds t := by
    refine hs.refile rfl rfl (hs.files.putImage _ _) hs.stands (Nat.le_refl _)
      (fun _ => Nat.le_of_eq (hpages _).symm) ?_
    intro j f hj
    rw [hblock]
    split
    · subst j
      rw [hframe] at hj
      cases hj
      exact .inr rfl
    · exact .inl rfl
  have hframe? : ∀ j, s'.pool.frame? j = t.pool.frame? j := by
    intro j
    rw [hpool]
    exact Pool.frame?_update (fun _ => rfl) (fun _ => rfl)
  have hdirty : ∀ j, j ≠ k → s'.pool.isDirty j = t.pool.isDirty j := by
    intro j hj
    rw [hpool]
    exact (Pool.isDirty_update (f := fun e => { e with dirty := false }) (fun _ => rfl)
      hfind).trans (if_neg hj)
  refine ⟨?_, ?_⟩
  · refine htc.note hfiles hframes ?_ hframe? ?_ htc.held ?_
    · rw [hpool]
      exact hs.distinct.update k fun _ => rfl
    · intro j
      rw [← hs.pins_eq j, hpool]
      exact Pool.pinCount_update_of_pins (fun _ => rfl) fun _ => rfl
    · intro j f hj hclean hwrote
      by_cases hjk : j = k
      · subst hjk
        have hjf : s.pool.frame? j = some f := hj
        rw [hframe] at hjf
        cases hjf
        exact ((hblock j).trans (if_pos rfl)).symm
      · exact htc.clean hj ((hdirty j hjk).symm.trans hclean) hwrote
  · have hheader : (fun i => (t.files.disk.image i).block 0) = (s.picture imageOf).header :=
      funext fun i => (Files.block_putBlock hi _ _ _ _).trans
        (if_neg fun h => Nat.succ_ne_zero _ h.2.symm)
    have hcontent : t.content imageOf = s.content imageOf := by
      funext j
      rcases hj : s.pool.frame? j with _ | f
      · have hne : j ≠ k := by
          rintro rfl
          rw [hframe] at hj
          cases hj
        rw [Store.content_of_frame?_none imageOf hj,
          Store.content_of_frame?_none imageOf (s := t) hj, hblock, if_neg hne]
      · rw [Store.content_of_frame? imageOf hj, Store.content_of_frame? imageOf (s := t) hj]
        rfl
    rw [Store.picture_eq_of_note (s := t) hfiles hframes hframe?,
      Store.picture_of_putImage (show t.files = s.files.putImage _ _ from rfl), hheader,
      funext hpages, hcontent]
    rfl

/-! ## Pages that leave and enter the pool -/

/-- **A page that is neither dirty nor pinned may leave.** -/
theorem leave (hs : Coherent imageOf holds s) (hdirty : s.pool.isDirty k = false)
    (hpins : s.pool.pinCount k = 0) (hfiles : s'.files = s.files) (hframes : s'.frames = s.frames)
    (hpool : s'.pool = s.pool.erase k) :
    Coherent imageOf holds s' ∧ s'.picture imageOf = s.picture imageOf := by
  have hframe? : ∀ {j f}, s'.pool.frame? j = some f → j ≠ k ∧ s.pool.frame? j = some f := by
    intro j f h
    rw [hpool, Pool.frame?_erase] at h
    split at h
    · cases h
    · exact ⟨‹_›, h⟩
  have hheld := hs.not_held_of_pinCount hpins
  refine ⟨?_, ?_⟩
  · refine hs.restrict hfiles (hframes ▸ Nat.le_refl _) (hpool ▸ hs.distinct.erase k)
      (fun h => (hframe? h).2) (fun j => ?_) (fun h hmem => ?_) fun {j f} h hclean hwrote => ?_
    · rw [hpool, Pool.pinCount_erase, ← hs.pins_eq j]
      split
      · subst j
        exact hpins.symm
      · rfl
    · rw [hpool, Pool.frame?_erase, if_neg (hheld h hmem)]
      exact hs.held h hmem
    · obtain ⟨hj, hf⟩ := hframe? h
      rw [hpool, Pool.isDirty_erase, if_neg hj] at hclean
      rw [Store.frame_congr hframes]
      exact hs.clean hf hclean hwrote
  · have hcontent : s'.content imageOf = s.content imageOf := by
      funext j
      unfold Store.content
      rw [hpool, Pool.frame?_erase, Store.frame_congr hframes, Store.diskBlock_congr hfiles]
      by_cases hj : j = k
      · subst hj
        rw [if_pos rfl]
        rcases hf : s.pool.frame? j with _ | f
        · rfl
        · exact (hs.frame_eq_diskBlock hf hdirty hpins).symm
      · rw [if_neg hj]
    rw [Store.picture_of_files hfiles, hcontent]
    rfl

/-- **A page may enter a new frame with the bytes of its block**, and with any
number of pins that have not been written through. -/
theorem enter (hs : Coherent imageOf holds s) (dirty : Bool) (new : List Hold)
    (hnone : s.pool.frame? k = none) (hissued : k.file < s.files.table.next)
    (hinside : k.page < (s.files.disk.image (imageOf k.file)).pages)
    (hnear : (k.page + 1) * blockSize ≤ Files.maxOffset)
    (hnew : ∀ h ∈ new, h = ⟨k, s.frames.size, false⟩) (hfiles : s'.files = s.files)
    (hframes : s'.frames = s.frames.push (s.diskBlock imageOf k))
    (hpool : s'.pool = s.pool.use ⟨k, s.frames.size, dirty, new.length⟩) :
    Coherent imageOf (new ++ holds) s' ∧ s'.picture imageOf = s.picture imageOf := by
  have hframe? : ∀ j, s'.pool.frame? j =
      if j = k then some s.frames.size else s.pool.frame? j := by
    intro j
    rw [hpool]
    exact Pool.frame?_use
  have hframe : ∀ f, s'.frame f = if f = s.frames.size then s.diskBlock imageOf k else s.frame f :=
    Store.frame_push hframes
  have hold : ∀ {j f}, s.pool.frame? j = some f → s'.frame f = s.frame f :=
    fun h => (hframe _).trans (if_neg (Nat.ne_of_lt (hs.frame_lt h)))
  -- what is buffered is the new page in the new frame, or was buffered before
  have hcases : ∀ {j f}, s'.pool.frame? j = some f →
      j = k ∧ f = s.frames.size ∨ j ≠ k ∧ s.pool.frame? j = some f := by
    intro j f h
    rw [hframe?] at h
    split at h
    · exact .inl ⟨‹_›, (Option.some.inj h).symm⟩
    · exact .inr ⟨‹_›, h⟩
  refine ⟨?_, ?_⟩
  · constructor
    case injective => exact hs.injective
    case files => exact hfiles ▸ hs.files
    case stands => exact hfiles ▸ hs.stands
    case distinct => exact hpool ▸ hs.distinct.use _
    case frame_lt =>
      intro j f h
      rw [hframes, Array.size_push]
      rcases hcases h with ⟨-, rfl⟩ | ⟨-, h⟩
      · exact Nat.lt_succ_self _
      · exact Nat.lt_succ_of_lt (hs.frame_lt h)
    case frame_inj =>
      intro j j' f h h'
      rcases hcases h with ⟨rfl, rfl⟩ | ⟨-, h⟩ <;> rcases hcases h' with ⟨rfl, hf⟩ | ⟨-, h'⟩
      · rfl
      · exact absurd (hs.frame_lt h') (Nat.lt_irrefl _)
      · exact absurd (hf ▸ hs.frame_lt h) (Nat.lt_irrefl _)
      · exact hs.frame_inj h h'
    case issued =>
      intro j f h
      rw [hfiles]
      rcases hcases h with ⟨rfl, -⟩ | ⟨-, h⟩
      · exact hissued
      · exact hs.issued h
    case inside =>
      intro j f h
      rw [hfiles]
      rcases hcases h with ⟨rfl, -⟩ | ⟨-, h⟩
      · exact hinside
      · exact hs.inside h
    case near =>
      intro j f h
      rcases hcases h with ⟨rfl, -⟩ | ⟨-, h⟩
      · exact hnear
      · exact hs.near h
    case pins_eq =>
      intro j
      rw [hpool, Pool.pinCount_use, List.countP_append, ← hs.pins_eq j,
        Hold.countP_key fun h hmem => congrArg Hold.key (hnew h hmem)]
      by_cases hj : j = k
      · rw [if_pos hj, if_pos hj, hj, Pool.pinCount_of_frame?_none hnone, Nat.add_zero]
      · rw [if_neg hj, if_neg hj, Nat.zero_add]
    case held =>
      intro h hmem
      rw [hframe?]
      rcases List.mem_append.mp hmem with hmem | hmem
      · rw [hnew h hmem, if_pos rfl]
      · have hne : h.key ≠ k := hs.not_held_of_pinCount (Pool.pinCount_of_frame?_none hnone) h hmem
        rw [if_neg hne]
        exact hs.held h hmem
    case clean =>
      intro j f h hclean hwrote
      rw [Store.diskBlock_congr hfiles]
      rcases hcases h with ⟨rfl, rfl⟩ | ⟨hj, h⟩
      · exact (hframe _).trans (if_pos rfl)
      · rw [hpool, Pool.isDirty_use, if_neg hj] at hclean
        rw [hold h]
        exact hs.clean h hclean fun g hmem => hwrote g (List.mem_append_right _ hmem)
  · have hcontent : s'.content imageOf = s.content imageOf := by
      funext j
      unfold Store.content
      rw [hframe?, Store.diskBlock_congr hfiles]
      by_cases hj : j = k
      · subst hj
        rw [if_pos rfl, hnone]
        exact (hframe _).trans (if_pos rfl)
      · rw [if_neg hj]
        rcases hf : s.pool.frame? j with _ | f
        · rfl
        · exact hold hf
    rw [Store.picture_of_files hfiles, hcontent]
    rfl

/-! ## Pins -/

/-- **A page that is buffered may be pinned.** -/
theorem pin (hs : Coherent imageOf holds s) {e : PoolEntry} (hfind : s.pool.find? k = some e)
    (hfiles : s'.files = s.files) (hframes : s'.frames = s.frames)
    (hpool : s'.pool = s.pool.use { e with pins := e.pins + 1 }) :
    Coherent imageOf (⟨k, e.frame, false⟩ :: holds) s' ∧
      s'.picture imageOf = s.picture imageOf := by
  have hkey : e.key = k := (Pool.mem_of_find? hfind).2
  have hframe? : ∀ j, s'.pool.frame? j = s.pool.frame? j := by
    intro j
    rw [hpool, Pool.frame?_use]
    split
    · subst j
      rw [hkey, Pool.frame?_of_find? hfind]
    · rfl
  refine ⟨hs.note hfiles hframes ?_ hframe? ?_ ?_ ?_,
    Store.picture_eq_of_note hfiles hframes hframe?⟩
  · exact hpool ▸ hs.distinct.use _
  · intro j
    rw [hpool, Pool.pinCount_use, List.countP_cons, ← hs.pins_eq j, hkey]
    by_cases hj : j = k
    · subst hj
      rw [if_pos rfl, if_pos (beq_self_eq_true _), Pool.pinCount_of_find? hfind]
    · rw [if_neg hj, if_neg (by simpa using Ne.symm hj), Nat.add_zero]
  · intro h hmem
    rcases List.mem_cons.mp hmem with rfl | hmem
    · exact Pool.frame?_of_find? hfind
    · exact hs.held h hmem
  · intro j f h hclean hwrote
    refine hs.clean h ?_ fun g hmem => hwrote g (List.mem_cons_of_mem _ hmem)
    rw [hpool, Pool.isDirty_use, hkey] at hclean
    split at hclean
    · subst j
      exact (Pool.isDirty_of_find? hfind).trans hclean
    · exact hclean

/-- **A pin may be given back** if the page is reported dirty whenever it was
written through the pin. -/
theorem unpin (hs : Coherent imageOf holds s) {h : Hold} (hmem : h ∈ holds) {dirty : Bool}
    (hdirty : h.wrote = true → dirty = true) (hfiles : s'.files = s.files)
    (hframes : s'.frames = s.frames)
    (hpool : s'.pool = s.pool.update h.key fun e =>
      { e with pins := e.pins - 1, dirty := e.dirty || dirty }) :
    Coherent imageOf (holds.erase h) s' ∧ s'.picture imageOf = s.picture imageOf := by
  obtain ⟨e, hfind⟩ : ∃ e, s.pool.find? h.key = some e := by
    obtain ⟨e, hfind, -⟩ := Option.map_eq_some_iff.mp (hs.held h hmem)
    exact ⟨e, hfind⟩
  set note : PoolEntry → PoolEntry := fun e =>
    { e with pins := e.pins - 1, dirty := e.dirty || dirty } with hnote
  have hperm : holds.Perm (h :: holds.erase h) := List.perm_cons_erase hmem
  have hframe? : ∀ j, s'.pool.frame? j = s.pool.frame? j := by
    intro j
    rw [hpool]
    exact Pool.frame?_update (f := note) (fun _ => rfl) (fun _ => rfl)
  refine ⟨hs.note hfiles hframes ?_ hframe? ?_ ?_ ?_,
    Store.picture_eq_of_note hfiles hframes hframe?⟩
  · exact hpool ▸ hs.distinct.update (f := note) h.key fun _ => rfl
  · intro j
    have hcount := (hs.pins_eq j).trans (hperm.countP_eq _)
    rw [List.countP_cons] at hcount
    rw [hpool, Pool.pinCount_update (f := note) (fun _ => rfl) hfind]
    by_cases hj : j = h.key
    · subst hj
      rw [if_pos (beq_self_eq_true _), Pool.pinCount_of_find? hfind] at hcount
      rw [if_pos rfl]
      show e.pins - 1 = _
      omega
    · rw [if_neg (by simpa using Ne.symm hj)] at hcount
      rw [if_neg hj]
      omega
  · exact fun g hg => hs.held g (List.mem_of_mem_erase hg)
  · intro j f hj hclean hwrote
    rw [hpool, Pool.isDirty_update (f := note) (fun _ => rfl) hfind] at hclean
    by_cases hjk : j = h.key
    · subst hjk
      rw [if_pos rfl, hnote, Bool.or_eq_false_iff] at hclean
      refine hs.clean hj ((Pool.isDirty_of_find? hfind).trans hclean.1) fun g hg hkey => ?_
      rcases List.mem_cons.mp (hperm.mem_iff.mp hg) with rfl | hg
      · by_contra hw
        rw [hdirty (by simpa using hw)] at hclean
        cases hclean.2
      · exact hwrote g hg hkey
    · rw [if_neg hjk] at hclean
      refine hs.clean hj hclean fun g hg hkey => ?_
      rcases List.mem_cons.mp (hperm.mem_iff.mp hg) with rfl | hg
      · exact absurd hkey.symm hjk
      · exact hwrote g hg hkey

/-- **A page may be reported dirty at any time.** -/
theorem markDirty (hs : Coherent imageOf holds s) {e : PoolEntry}
    (hfind : s.pool.find? k = some e) (hfiles : s'.files = s.files)
    (hframes : s'.frames = s.frames)
    (hpool : s'.pool = s.pool.update k fun e => { e with dirty := true }) :
    Coherent imageOf holds s' ∧ s'.picture imageOf = s.picture imageOf := by
  set note : PoolEntry → PoolEntry := fun e => { e with dirty := true } with hnote
  have hframe? : ∀ j, s'.pool.frame? j = s.pool.frame? j := by
    intro j
    rw [hpool]
    exact Pool.frame?_update (f := note) (fun _ => rfl) (fun _ => rfl)
  refine ⟨hs.note hfiles hframes ?_ hframe? ?_ hs.held ?_,
    Store.picture_eq_of_note hfiles hframes hframe?⟩
  · exact hpool ▸ hs.distinct.update (f := note) k fun _ => rfl
  · intro j
    rw [← hs.pins_eq j, hpool]
    exact Pool.pinCount_update_of_pins (f := note) (fun _ => rfl) fun _ => rfl
  · intro j f hj hclean hwrote
    rw [hpool, Pool.isDirty_update (f := note) (fun _ => rfl) hfind] at hclean
    split at hclean
    · cases hclean
    · exact hs.clean hj hclean hwrote

/-- **A holder may say at any time that it wrote** to its page. -/
theorem declare (hs : Coherent imageOf holds s) {h : Hold} (hmem : h ∈ holds)
    (hperm : holds'.Perm (⟨h.key, h.frame, true⟩ :: holds.erase h)) :
    Coherent imageOf holds' s := by
  have hmem' : ∀ g, g ∈ holds' ↔ g = ⟨h.key, h.frame, true⟩ ∨ g ∈ holds.erase h := fun g => by
    rw [hperm.mem_iff, List.mem_cons]
  refine hs.note rfl rfl hs.distinct (fun _ => rfl) (fun j => ?_) (fun g hg => ?_) ?_
  · rw [hs.pins_eq j, hperm.countP_eq, (List.perm_cons_erase hmem).countP_eq]
    rfl
  · rcases (hmem' g).mp hg with rfl | hg
    · exact hs.held h hmem
    · exact hs.held g (List.mem_of_mem_erase hg)
  · intro j f hj hclean hwrote
    refine hs.clean hj hclean fun g hg hkey => ?_
    rcases List.mem_cons.mp ((List.perm_cons_erase hmem).mem_iff.mp hg) with rfl | hg
    · exact absurd (hwrote _ ((hmem' _).mpr (.inl rfl)) hkey) Bool.noConfusion
    · exact hwrote g ((hmem' g).mpr (.inr hg)) hkey

/-! ## Changes that show -/

/-- **A frame may be written through a pin that is known to have been written
through.** Nothing but the content of its page changes. -/
theorem overwrite (hs : Coherent imageOf holds s) {h : Hold} (hmem : h ∈ holds)
    (hwrote : h.wrote = true) {b : Block} (hfiles : s'.files = s.files) (hpool : s'.pool = s.pool)
    (hframes : s'.frames = s.frames.setIfInBounds h.frame b) :
    Coherent imageOf holds s' ∧ s'.picture imageOf =
      { s.picture imageOf with content := Function.update (s.content imageOf) h.key b } := by
  have hframe : s.pool.frame? h.key = some h.frame := hs.held h hmem
  have hframe' : ∀ f, s'.frame f = if f = h.frame then b else s.frame f :=
    Store.frame_setIfInBounds hframes (hs.frame_lt hframe)
  have hother : ∀ {j f}, s.pool.frame? j = some f → j ≠ h.key → s'.frame f = s.frame f := by
    intro j f hj hjk
    rw [hframe', if_neg]
    rintro rfl
    exact hjk (hs.frame_inj hj hframe)
  refine ⟨?_, ?_⟩
  · refine hs.restrict hfiles ?_ (hpool ▸ hs.distinct) (fun hj => hpool ▸ hj) (hpool ▸ hs.pins_eq)
      (hpool ▸ hs.held) fun {j f} hj hclean hall => ?_
    · exact Nat.le_of_eq (by rw [hframes, Array.size_setIfInBounds])
    · rw [hpool] at hj hclean
      have hjk : j ≠ h.key := by
        rintro rfl
        rw [hall h hmem rfl] at hwrote
        cases hwrote
      rw [hother hj hjk]
      exact hs.clean hj hclean hall
  · have hcontent : s'.content imageOf = Function.update (s.content imageOf) h.key b := by
      funext j
      rw [Function.update_apply]
      by_cases hj : j = h.key
      · subst hj
        rw [if_pos rfl, Store.content_of_frame? imageOf (hpool ▸ hframe), hframe', if_pos rfl]
      · rw [if_neg hj]
        unfold Store.content
        rw [hpool, Store.diskBlock_congr hfiles]
        rcases hf : s.pool.frame? j with _ | f
        · rfl
        · exact hother hf hj
    rw [Store.picture_of_files hfiles, hcontent]

/-- **A frame may be written through a pin**, which has to be reported from then
on. -/
theorem write (hs : Coherent imageOf holds s) {h : Hold} (hmem : h ∈ holds) {b : Block}
    (hperm : holds'.Perm (⟨h.key, h.frame, true⟩ :: holds.erase h))
    (hfiles : s'.files = s.files) (hpool : s'.pool = s.pool)
    (hframes : s'.frames = s.frames.setIfInBounds h.frame b) :
    Coherent imageOf holds' s' ∧ s'.picture imageOf =
      { s.picture imageOf with content := Function.update (s.content imageOf) h.key b } :=
  (hs.declare hmem hperm).overwrite (h := ⟨h.key, h.frame, true⟩)
    (hperm.mem_iff.mpr List.mem_cons_self) rfl hfiles hpool hframes

/-- **A header block may be written**, which does not touch any page. -/
theorem putHeader (hs : Coherent imageOf holds s) {h : Nat} {o : OpenFile}
    (ho : s.files.table.byHandle? h = some o) {b : Block}
    (hfiles : s'.files = s.files.putBlock o.image 0 b) (hframes : s'.frames = s.frames)
    (hpool : s'.pool = s.pool) :
    Coherent imageOf holds s' ∧ s'.picture imageOf =
      { s.picture imageOf with
        header := Function.update (s.picture imageOf).header (imageOf h) b } := by
  have hi := hs.files.lt_images ho
  have himg := hs.stands_of_byHandle? ho
  have hpages : ∀ i, (s'.files.disk.image i).pages = (s.files.disk.image i).pages := by
    rw [hfiles]
    exact Files.pages_putBlock hi (Nat.zero_le _) _
  have hblock : s'.diskBlock imageOf = s.diskBlock imageOf := by
    funext j
    rw [diskBlock_putBlock hs ho hfiles, if_neg (by simp)]
  have hheader : (fun i => (s'.files.disk.image i).block 0) =
      Function.update (s.picture imageOf).header (imageOf h) b := by
    funext i
    rw [hfiles, Files.block_putBlock hi, Function.update_apply, ← himg]
    exact if_congr (and_iff_left rfl) rfl rfl
  refine ⟨?_, ?_⟩
  · refine hs.refile hpool hframes (hfiles ▸ hs.files.putImage _ _) ?_ (Nat.le_of_eq ?_)
      (fun _ => Nat.le_of_eq (hpages _).symm) fun _ => .inl (congrFun hblock _)
    · rw [hfiles]
      exact hs.stands
    · rw [hfiles]
      rfl
  · rw [Store.picture_of_putImage hfiles, hheader, funext hpages,
      Store.content_congr hframes (fun _ => by rw [hpool]) hblock]
    rfl

/-- **A file may grow by a page**, which is zero. -/
theorem grow (hs : Coherent imageOf holds s) {h : Nat} {o : OpenFile}
    (ho : s.files.table.byHandle? h = some o)
    (hfiles : s'.files = s.files.putImage o.image ((s.files.disk.image o.image).setSize
      (((s.files.disk.image o.image).pages + 2) * blockSize)))
    (hframes : s'.frames = s.frames) (hpool : s'.pool = s.pool) :
    Coherent imageOf holds s' ∧ s'.picture imageOf =
      { s.picture imageOf with
        pages := Function.update (s.picture imageOf).pages (imageOf h)
          ((s.picture imageOf).pages (imageOf h) + 1) } := by
  have hi := hs.files.lt_images ho
  have himg := hs.stands_of_byHandle? ho
  set img := s.files.disk.image o.image with himage
  have hgrow : img.size ≤ (img.pages + 2) * blockSize :=
    Nat.le_trans img.size_le_of_pages (Nat.mul_le_mul_right _ (by omega))
  have himage' : ∀ i, s'.files.disk.image i =
      if i = o.image then img.setSize ((img.pages + 2) * blockSize)
      else s.files.disk.image i := by
    intro i
    rw [hfiles]
    exact Disk.image_setImage _ hi i
  have hblocks : ∀ i l, (s'.files.disk.image i).block l = (s.files.disk.image i).block l := by
    intro i l
    rw [himage']
    split
    · subst i
      exact Image.block_setSize_of_le hgrow l
    · rfl
  have hpages : ∀ i, (s'.files.disk.image i).pages =
      if i = o.image then img.pages + 1 else (s.files.disk.image i).pages := by
    intro i
    rw [himage']
    split
    · exact Image.pages_setSize img (img.pages + 1)
    · rfl
  have hpages' : (fun i => (s'.files.disk.image i).pages) =
      Function.update (s.picture imageOf).pages (imageOf h)
        ((s.picture imageOf).pages (imageOf h) + 1) := by
    funext i
    rw [hpages, Function.update_apply, ← himg]
    rfl
  have hblock : s'.diskBlock imageOf = s.diskBlock imageOf := funext fun _ => hblocks _ _
  refine ⟨?_, ?_⟩
  · refine hs.refile hpool hframes (hfiles ▸ hs.files.putImage _ _) ?_ (Nat.le_of_eq ?_) ?_
      fun _ => .inl (congrFun hblock _)
    · rw [hfiles]
      exact hs.stands
    · rw [hfiles]
      rfl
    · intro i
      rw [hpages]
      split
      · rename_i hi
        rw [hi]
        exact Nat.le_succ _
      · exact Nat.le_refl _
  · rw [Store.picture_of_putImage hfiles, funext fun i => hblocks i 0, hpages',
      Store.content_congr hframes (fun _ => by rw [hpool]) hblock]
    rfl

/-- Nothing behind the end of a file is buffered, -/
theorem frame?_of_pages_le (hs : Coherent imageOf holds s)
    (hend : (s.files.disk.image (imageOf k.file)).pages ≤ k.page) : s.pool.frame? k = none := by
  cases hf : s.pool.frame? k with
  | none => rfl
  | some f => exact absurd (hs.inside hf) (Nat.not_lt.2 hend)

/-- and all of it is zero. -/
theorem content_of_pages_le (hs : Coherent imageOf holds s)
    (hend : (s.files.disk.image (imageOf k.file)).pages ≤ k.page) :
    s.content imageOf k = Buffer.zero blockSize := by
  rw [Store.content_of_frame?_none imageOf (hs.frame?_of_pages_le hend), Store.diskBlock]
  exact Image.block_of_size_le (Nat.le_trans (Image.size_le_of_pages _)
    (Nat.mul_le_mul_right _ (Nat.succ_le_succ hend)))

/-- **A file may grow by a page that is pinned** in a new frame, as long as it can be reached. -/
theorem extend (hs : Coherent imageOf holds s) {o : OpenFile}
    (ho : s.files.table.byHandle? k.file = some o)
    (hpage : k.page = (s.files.disk.image o.image).pages)
    (hnear : (k.page + 1) * blockSize ≤ Files.maxOffset)
    (hfiles : s'.files = s.files.putImage o.image ((s.files.disk.image o.image).setSize
      (((s.files.disk.image o.image).pages + 2) * blockSize)))
    (hframes : s'.frames = s.frames.push (Buffer.zero blockSize))
    (hpool : s'.pool = s.pool.use ⟨k, s.frames.size, true, 1⟩) :
    Coherent imageOf (⟨k, s.frames.size, false⟩ :: holds) s' ∧ s'.picture imageOf =
      { s.picture imageOf with
        pages := Function.update (s.picture imageOf).pages (imageOf k.file)
          ((s.picture imageOf).pages (imageOf k.file) + 1) } := by
  have himg := hs.stands_of_byHandle? ho
  have hend : (s.files.disk.image (imageOf k.file)).pages ≤ k.page :=
    Nat.le_of_eq (by rw [hpage, himg])
  have hnone := hs.frame?_of_pages_le hend
  -- first the file grows, and then the page enters
  set t : Store := { s with files := s'.files } with ht
  obtain ⟨hst, hpic⟩ := hs.grow ho (show t.files = _ from hfiles) rfl rfl
  have hzero : t.diskBlock imageOf k = Buffer.zero blockSize := by
    rw [← hs.content_of_pages_le hend, ← Store.content_of_frame?_none imageOf (s := t) hnone]
    exact congrFun (congrArg Picture.content hpic) k
  have hinside : k.page < (t.files.disk.image (imageOf k.file)).pages := by
    refine Nat.lt_of_lt_of_eq ?_ (congrFun (congrArg Picture.pages hpic) _).symm
    show k.page < Function.update (s.picture imageOf).pages (imageOf k.file) _ (imageOf k.file)
    rw [Function.update_self, hpage, himg]
    exact Nat.lt_succ_self _
  have hissued : k.file < t.files.table.next := by
    have htable : t.files.table = s.files.table := congrArg Picture.table hpic
    obtain ⟨hmem, hhandle⟩ := FileTable.mem_of_byHandle? ho
    rw [htable, ← hhandle]
    exact hs.files.handle_lt o hmem
  rw [← hzero] at hframes
  obtain ⟨hs', hpic'⟩ := hst.enter true [⟨k, s.frames.size, false⟩] hnone hissued hinside hnear
    (fun _ h => List.mem_singleton.mp h) (show s'.files = t.files from rfl) hframes hpool
  exact ⟨hs', hpic'.trans hpic⟩

end Coherent

end SlottedFile
