import SlottedFile.Proofs.Records.Marking

/-!
# Which pages become dirty

If no page of a record file is dirty and none is pinned, the pool has nothing to write to
the file. That stays so as long as the file is only looked at, and also if a change fails
(`Session.Untouched`): the pages of the file that were evicted meanwhile were dropped, and its
bytes on disk are what they were. After a change that succeeds only the page of the record has to
be written back (`only_written_pages_become_dirty`). There is one case in which there is a second
page: a record that is put into the last free place of a page takes the page off the free list,
and the link that led to it is in another page.

Nothing is asked of the pages, and nothing of the pool. The file may have been created or found on
the disk, and may have been used in any way.
-/

namespace SlottedFile

open Store

/-- **A record file in use**: it was created or found on a disk, and used in any way while other
clients of the store were at work. -/
inductive Session.InUse (other : Nat → ImageId) (image : ImageId) (path : Path) (s : Session)
    (c : Client) : Prop
  | created {options : FileOptions} {history : List RecordEvent}
      (h : RecordRun other image path options .any history s c)
  | found (h : FoundRun other image path s c)

theorem Session.InUse.inHand {other : Nat → ImageId} {image : ImageId} {path : Path} {s : Session}
    {c : Client} (h : s.InUse other image path c) : InHand other image c.holds s := by
  cases h with
  | created h => exact h.atWork.toInHand
  | found h => exact h.inHand.1

/-- **A file that was left as it was**: none of its pages is dirty, and its bytes on disk are what
they were. -/
structure Session.Untouched (image : ImageId) (s : Session) (t : Store) : Prop where
  clean : ∀ page, t.pool.isDirty ⟨s.file.handle, page⟩ = false
  image_eq : t.files.disk.image image = s.store.files.disk.image image

/-- **What only looks at a file** leaves it as it was, whether it succeeds or fails. -/
def Session.OnlyLooks {α : Type} (image : ImageId) (x : StoreM RecordError α) (s : Session) : Prop :=
  Ends x s.store (fun _ t => s.Untouched image t) fun _ t => s.Untouched image t

/-- **What writes to some pages of a file only.** If it succeeds, no page of the file is dirty but
one of them, and a page that is not dirty equals its block on the disk. If it fails, the file is
left as it was. -/
def Session.OnlyWrites {α : Type} (other : Nat → ImageId) (image : ImageId) (pages : α → Set Nat)
    (x : RecordM α) (s : Session) : Prop :=
  Ends x s
    (fun a s' => ∀ page,
      (s'.store.pool.isDirty ⟨s.file.handle, page⟩ = true → page ∈ pages a) ∧
      (s'.store.content (standFor other image s.file.handle) ⟨s.file.handle, page⟩ ≠
          s'.store.diskBlock (standFor other image s.file.handle) ⟨s.file.handle, page⟩ →
        s'.store.pool.isDirty ⟨s.file.handle, page⟩ = true))
    fun _ s' => s.Untouched image s'.store

namespace InHand

variable {other : Nat → ImageId} {image : ImageId} {raw : List Hold} {s : Session} {α : Type}

/-- A page that is neither dirty nor pinned is not stained. -/
theorem not_stained (h : InHand other image raw s) {page : Nat}
    (hpins : s.store.pool.pinCount ⟨s.file.handle, page⟩ = 0)
    (hclean : s.store.pool.isDirty ⟨s.file.handle, page⟩ = false) :
    ¬s.store.Stained ⟨s.file.handle, page⟩ := by
  rintro (hdirty | ⟨g, hmem, -, hkey⟩)
  · exact Bool.noConfusion (hdirty.symm.trans hclean)
  · refine h.good.sound.coherent.not_held_of_pinCount hpins g.hold ?_ hkey
    exact List.mem_append_right _ (List.mem_map_of_mem hmem)

/-- The pages of other files are written to other files. -/
theorem spares (h : InHand other image raw s)
    (hstained : ∀ page, ¬s.store.Stained ⟨s.file.handle, page⟩) : s.store.Spares image := by
  intro k o hk ho himage
  rw [h.good.sound.coherent.stands_of_byHandle? ho] at himage
  by_cases hfile : k.file = s.file.handle
  · exact hstained k.page (hfile ▸ hk)
  · exact h.other_ne k.file ((standFor_of_ne hfile).symm.trans himage)

/-- **Where nothing was stained** the file was left as it was. -/
theorem untouched (h : InHand other image raw s)
    (hstained : ∀ page, ¬s.store.Stained ⟨s.file.handle, page⟩) {t : Store}
    (hintact : s.store.Intact t) : s.Untouched image t where
  clean := fun page => Bool.eq_false_iff.mpr fun hdirty =>
    (hintact.stained _ (.inl hdirty)).elim (hstained page) (Set.notMem_empty _)
  image_eq := hintact.image_eq image (h.spares hstained)

/-- **What stains nothing** only looks at the file. -/
theorem onlyLooks (h : InHand other image raw s)
    (hstained : ∀ page, ¬s.store.Stained ⟨s.file.handle, page⟩) {x : StoreM RecordError α}
    (hx : Spotless x) : s.OnlyLooks image x :=
  Ends.imp (hx s.store h.good.numbered) (fun _ _ hintact => h.untouched hstained hintact)
    fun _ _ hintact => h.untouched hstained hintact

/-- **What stains some pages** writes to no others. A page that is not dirty then equals its
block, since no pin is left through which it could have been written to. -/
theorem onlyWrites (h : InHand other image raw s)
    (hpins : ∀ page, s.store.pool.pinCount ⟨s.file.handle, page⟩ = 0)
    (hclean : ∀ page, s.store.pool.isDirty ⟨s.file.handle, page⟩ = false) {x : RecordM α}
    {m : PlainM α} {W : α → Set PageKey} {pages : α → Set Nat}
    (hdoes : Does (standFor other image s.file.handle) raw [] (s.own other image) x m s)
    (honly : StainsOnly W x s) (hpages : ∀ a, ∀ k ∈ W a, k.page ∈ pages a) :
    s.OnlyWrites other image pages x := by
  have hstained := fun page => h.not_stained (hpins page) (hclean page)
  refine Ends.imp (Ends.and hdoes honly) ?_ fun _ _ hfailed => h.untouched hstained hfailed.2
  rintro a s' ⟨⟨p', -, hbecame, -⟩, hstains⟩ page
  refine ⟨fun hdirty => ?_, fun hdiffers => ?_⟩
  · exact hpages a _ ((hstains.stained _ (.inl hdirty)).resolve_left (hstained page))
  · by_contra hnot
    have hfree := h.good.sound.coherent.not_held_of_pinCount (hpins page)
    refine hdiffers ?_
    cases hframe : s'.store.pool.frame? ⟨s.file.handle, page⟩ with
    | none => exact content_of_frame?_none _ hframe
    | some f =>
      rw [content_of_frame? _ hframe]
      refine hbecame.good.sound.coherent.clean hframe (Bool.eq_false_iff.mpr hnot)
        fun g hg hkey => ?_
      rcases List.mem_append.mp hg with hraw | hheld
      · exact absurd hkey (hfree g (List.mem_append_left _ hraw))
      · obtain ⟨q, hq, rfl⟩ := List.mem_map.mp hheld
        obtain ⟨q', hq', heq⟩ := hstains.pins q hq
        refine absurd ?_ (hfree q'.hold (List.mem_append_right _ (List.mem_map_of_mem hq')))
        exact (congrArg Pin.key heq).trans hkey

end InHand

section Run

variable {other : Nat → ImageId} {image : ImageId} {path : Path} {s : Session} {c : Client}

/-- **Only pages that were written to become dirty.** The file was created or found on a disk, and
none of its pages is pinned or dirty. To read a record, to scan to any depth, to inspect the file
and to check it leaves it as it was, and so does a change that fails. A change that succeeds
leaves no page dirty but that of its record, and the one before it on the free list if a record is
put into its last place; a page that differs from its block on the disk is dirty. -/
theorem only_written_pages_become_dirty
    (h : s.InUse other image path c)
    (hpins : ∀ page, s.store.pool.pinCount ⟨s.file.handle, page⟩ = 0)
    (hclean : ∀ page, s.store.pool.isDirty ⟨s.file.handle, page⟩ = false) :
    (∀ id, s.OnlyLooks image (s.file.get id)) ∧
    (∀ depth, s.OnlyLooks image (do Scan.itemsFrom s.file depth (← Scan.start s.file))) ∧
    s.OnlyLooks image s.file.inspect ∧ s.OnlyLooks image s.file.check ∧
    (∀ data, s.OnlyWrites other image (fun id => {id.page}) (Session.insert data)) ∧
    (∀ id data, s.OnlyWrites other image
      (fun _ => {page | page = id.page ∨ (s.own other image).LinksTo page id})
      (Session.insertAt id data)) ∧
    (∀ id, s.OnlyWrites other image (fun _ => {id.page}) (Session.delete id)) ∧
    ∀ id data, s.OnlyWrites other image (fun _ => {id.page}) (Session.update id data) := by
  have hhand := h.inHand
  have hs := hhand.good
  have hsized := hhand.sized
  have hstained := fun page => hhand.not_stained (hpins page) (hclean page)
  refine ⟨fun id => hhand.onlyLooks hstained (spotless_get id), fun depth => ?_,
    hhand.onlyLooks hstained spotless_inspect, hhand.onlyLooks hstained spotless_check,
    fun data => ?_, fun id data => ?_, fun id => ?_, fun id data => ?_⟩
  · exact hhand.onlyLooks hstained (spotless_start.bind fun scan => spotless_itemsFrom depth scan)
  · exact hhand.onlyWrites hpins hclean (does_insert hs rfl hsized data)
      (stainsOnly_insert hs rfl hsized data) fun _ _ hk => congrArg PageKey.page hk
  · exact hhand.onlyWrites hpins hclean (does_insertAt hs rfl hsized id data)
      (stainsOnly_insertAt hs rfl hsized id data) fun _ _ hk => hk.2
  · exact hhand.onlyWrites hpins hclean (does_delete hs rfl hsized id)
      (stainsOnly_delete hs rfl hsized id) fun _ _ hk => congrArg PageKey.page hk
  · exact hhand.onlyWrites hpins hclean (does_update hs rfl hsized id data)
      (stainsOnly_update hs rfl hsized id data) fun _ _ hk => congrArg PageKey.page hk

/-! ## A page in the middle of the free list -/

/-- A disk with a file of two empty pages of one slot each. The free list leads to the second page
and from there to the first. -/
def chainDisk : Disk :=
  (Disk.empty.addFile (Disk.home ++ ["f"])).setImage 0
    (((Image.empty.setBlock 0 (Buffer.ofList blockSize (FileHeader.encode ⟨1, 1, 2, 1, some 1⟩))).setBlock
      1 (Buffer.ofList blockSize [0, 0, 0, 0, 255, 255, 255, 255, 0, 0])).setBlock
      2 (Buffer.ofList blockSize [0, 0, 0, 0, 0, 0, 0, 0, 0, 0]))

/-- That file after it was opened, in a store with two frames. -/
def chainOpened : Session where
  store := stateAfter (RecordFile.openFile ⟨["f"]⟩) (.ofDisk chainDisk 2 1)
  file := ⟨0, ⟨1, 1, 2, 1, some 1⟩⟩

set_option maxRecDepth 100000 in
theorem chainOpened_run : FoundRun (· + 1) 0 ⟨["f"]⟩ chainOpened
    ⟨[], (Store.ofDisk chainDisk 2 1).diskBlock (· + 1)⟩ := by
  have hopen : RecordFile.openFile ⟨["f"]⟩ (.ofDisk chainDisk 2 1) =
      .ok chainOpened.file chainOpened.store := rfl
  exact .of_disk (fun _ _ h => Nat.succ.inj h) Nat.succ_ne_zero ⟨_, rfl, rfl⟩ hopen

set_option maxRecDepth 100000 in
/-- A record is put into the first page. The link to it is in the second page, which is dirty as
well. -/
theorem only_written_pages_become_dirty_chain :
    ∃ s', Session.insertAt ⟨0, 0⟩ [7] chainOpened = .ok () s' ∧
      s'.store.pool.isDirty ⟨0, 1⟩ = true ∧ (chainOpened.own (· + 1) 0).LinksTo 1 ⟨0, 0⟩ := by
  have hempty : chainOpened.store.pool = { capacity := 2 } := rfl
  have hpins : ∀ page, chainOpened.store.pool.pinCount ⟨chainOpened.file.handle, page⟩ = 0 := by
    rw [hempty]
    exact fun _ => rfl
  have hclean : ∀ page, chainOpened.store.pool.isDirty ⟨chainOpened.file.handle, page⟩ = false := by
    rw [hempty]
    exact fun _ => rfl
  obtain ⟨-, -, -, -, -, hinsertAt, -⟩ :=
    only_written_pages_become_dirty (.found chainOpened_run) hpins hclean
  have hdirty : (stateAfter (Session.insertAt ⟨0, 0⟩ [7]) chainOpened).store.pool.isDirty ⟨0, 1⟩ =
      true := rfl
  refine ⟨_, rfl, hdirty, ?_⟩
  exact (((hinsertAt ⟨0, 0⟩ [7]).of_ok rfl 1).1 hdirty).resolve_left Nat.one_ne_zero

end Run

end SlottedFile
