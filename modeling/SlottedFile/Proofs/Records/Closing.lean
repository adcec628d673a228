import SlottedFile.Proofs.Plain.Writing
import SlottedFile.RecordFile.Lifecycle

/-!
# Closing a record file

A file that is closed leaves nothing in the pool, and what its pages were is in its
blocks (`ends_close`). The end of a store leaves every file in its blocks that can be
written back (`Session.keeps_shutdown`). Either way the disk keeps the file
(`Disk.Keeps`).
-/

namespace SlottedFile

/-! ## Closing -/

section Closing

variable {imageOf : Nat → ImageId} {raw : List Hold} {p₀ : PlainFile} {s : Session}

/-- **A file that was closed**: nothing is buffered of it, and nothing has changed but
that its handle is not open. -/
structure Session.Closed (imageOf : Nat → ImageId) (raw : List Hold) (s : Session) (s' : Store) :
    Prop where
  sound : s'.Sound imageOf raw
  out : ∀ k, k.file = s.file.handle → s'.pool.frame? k = none
  picture : s'.picture imageOf =
    { s.store.picture imageOf with table := s.store.files.table.erase s.file.handle }

/-- **A file is closed** unless one of its pages lies too far out to be written back. -/
theorem ends_close (hs : s.Good imageOf raw) (hp : s.plain imageOf = p₀) (hwhole : p₀.Whole)
    (hpins : ∀ k, k.file = s.file.handle → s.store.pool.pinCount k = 0) :
    Ends s.file.close s.store (fun _ s' => s.Closed imageOf raw s')
      (fun _ _ => Files.maxOffset < (p₀.count + 1) * blockSize) := by
  unfold RecordFile.close RecordFile.passing
  rw [ends_bind, ends_attempt]
  refine (ends_onStore.mp (ends_persistHeader hs)).imp ?_ fun _ _ h => h.elim
  rintro _ s₁ ⟨hbecame, hheld⟩
  have hself : (s.plain imageOf).withHeader s.file.header = s.plain imageOf := by
    rw [← hp] at hwhole
    exact PlainFile.withHeader_self hwhole
  rw [hself] at hbecame
  have hpic₁ : s₁.picture imageOf = s.store.picture imageOf :=
    hbecame.picture.trans (Session.withFile_plain s)
  have hcoherent := hbecame.good.sound.coherent
  have hopen : s₁.files.table.byHandle? s.file.handle ≠ none := by
    have hsome := hs.opened
    rw [show s.store.files.table = s₁.files.table from (congrArg Picture.table hpic₁).symm] at hsome
    exact Option.isSome_iff_ne_none.mp hsome
  have hpins₁ : ∀ k, k.file = s.file.handle → s₁.pool.pinCount k = 0 := by
    intro k hk
    have hcount := hpins k hk
    rw [hs.sound.coherent.pins_eq] at hcount
    rw [hcoherent.pins_eq]
    rw [show s₁.held = s.store.held from hheld]
    exact hcount
  rw [ends_bind, ends_widenError]
  refine (Store.ends_discardFile hcoherent hpins₁).imp ?_ ?_
  · rintro _ s₂ ⟨hset, hout⟩
    have hstill := Store.Still.of_settled hbecame.good.sound hset
    have hclosed := hstill.sound.coherent.closeFile s.file.handle
    rw [ends_bind, ends_widenError, Store.ends_closeFile, hset.quiet.table_eq]
    refine ⟨fun _ => ?_, fun hnone => absurd hnone hopen⟩
    rw [← hset.quiet.table_eq]
    have hreport := Store.Settled.report hclosed (.fileClosed s.file.handle)
    refine ⟨⟨hreport.coherent, hstill.sound.ids_nodup, hstill.sound.id_lt⟩, hout, ?_⟩
    have hpic₂ := hstill.picture.trans hpic₁
    refine hreport.quiet.picture.trans ?_
    rw [← hpic₂, show s.store.files.table = s₂.files.table from (congrArg Picture.table hpic₂).symm]
    rfl
  · rintro e s₂ ⟨-, hnone | ⟨k, f, hframe, hfile, hnone | hfar⟩⟩
    · exact absurd hnone hopen
    · rw [hfile] at hnone
      exact absurd hnone hopen
    · have hin : k.page < p₀.count := by
        have hin := hcoherent.inside hframe
        rw [hfile] at hin
        rw [← hp]
        exact Nat.lt_of_lt_of_eq hin (congrFun (congrArg Picture.pages hpic₁) _)
      exact Nat.lt_of_lt_of_le hfar (Nat.mul_le_mul_right _ (Nat.succ_le_succ hin))

end Closing

/-! ## What the disk keeps -/

/-- **What a disk keeps of a file**: its header block, the number of its pages and the
bytes of each. -/
structure Disk.Keeps (d : Disk) (i : ImageId) (p : PlainFile) : Prop where
  stored_eq : (d.image i).block 0 = p.stored
  count_eq : (d.image i).pages = p.count
  page_eq : ∀ page, (d.image i).block (page + 1) = p.page page

section Keeping

variable {imageOf : Nat → ImageId} {raw holds : List Hold} {s : Session}

/-- The file of a session is a matter of what its store holds of it. -/
theorem Session.plain_congr {store : Store} {t : FileTable}
    (hpicture : store.picture imageOf = { s.store.picture imageOf with table := t }) :
    ({ s with store } : Session).plain imageOf = s.plain imageOf := by
  have hheader : (store.picture imageOf).header = (s.store.picture imageOf).header :=
    (congrArg Picture.header hpicture).trans rfl
  have hpages : (store.picture imageOf).pages = (s.store.picture imageOf).pages :=
    (congrArg Picture.pages hpicture).trans rfl
  have hcontent : store.content imageOf = s.store.content imageOf :=
    (congrArg Picture.content hpicture).trans rfl
  unfold plain
  rw [hheader, hpages, hcontent]

/-- **A file whose pages are clean and have no pin is in its blocks.** -/
theorem Session.keeps (hs : Coherent imageOf holds s.store)
    (hdirty : ∀ k, k.file = s.file.handle → s.store.pool.isDirty k = false)
    (hpins : ∀ k, k.file = s.file.handle → s.store.pool.pinCount k = 0) :
    s.store.files.disk.Keeps (imageOf s.file.handle) (s.plain imageOf) where
  stored_eq := rfl
  count_eq := rfl
  page_eq := by
    intro page
    show s.store.diskBlock imageOf ⟨s.file.handle, page⟩ = s.store.content imageOf _
    cases hframe : s.store.pool.frame? ⟨s.file.handle, page⟩ with
    | none => rw [Store.content_of_frame?_none _ hframe]
    | some f =>
      rw [Store.content_of_frame? _ hframe, hs.frame_eq_diskBlock hframe (hdirty _ rfl) (hpins _ rfl)]

/-- **A file that was closed is in its blocks.** -/
theorem Session.Closed.keeps {s' : Store} (h : s.Closed imageOf raw s') :
    s'.files.disk.Keeps (imageOf s.file.handle) (s.plain imageOf) := by
  have hplain : ({ s with store := s' } : Session).plain imageOf = s.plain imageOf :=
    plain_congr h.picture
  rw [← hplain]
  exact Session.keeps (s := { s with store := s' }) h.sound.coherent
    (fun k hk => Pool.isDirty_of_frame?_none (h.out k hk))
    fun k hk => Pool.pinCount_of_frame?_none (h.out k hk)

theorem Store.shutdown_of_ends {s : Store} (good : Disk → Prop)
    (h : Ends Store.flushAll s (fun _ s' => good s'.files.disk) (fun _ s' => good s'.files.disk)) :
    good s.shutdown := by
  unfold Ends at h
  unfold shutdown
  cases hrun : flushAll s with
  | ok _ s' =>
    rw [hrun] at h
    exact h
  | error _ s' =>
    rw [hrun] at h
    exact h

/-- **The end of a store leaves a file in its blocks**, unless a page cannot be written
back and the file has dirty pages that would have come after it. -/
theorem Session.keeps_shutdown (hs : Coherent imageOf holds s.store)
    (hpins : ∀ k, k.file = s.file.handle → s.store.pool.pinCount k = 0)
    (hdirty : ∀ j, s.store.pool.isDirty j = true → s.store.Unwritable j →
      ∀ k, k.file = s.file.handle → s.store.pool.isDirty k = false) :
    s.store.shutdown.entries = s.store.files.disk.entries ∧
      s.store.shutdown.Keeps (imageOf s.file.handle) (s.plain imageOf) := by
  have hkept : ∀ s' : Store, Store.Settled imageOf holds s.store s' →
      s.store.pool.Cleaned s'.pool →
      (∀ k, k.file = s.file.handle → s'.pool.isDirty k = false) →
      s'.files.disk.entries = s.store.files.disk.entries ∧
        s'.files.disk.Keeps (imageOf s.file.handle) (s.plain imageOf) := by
    intro s' hset hclean hdirty'
    have hplain : ({ s with store := s' } : Session).plain imageOf = s.plain imageOf :=
      plain_congr (t := s.store.files.table) hset.quiet.picture
    refine ⟨congrArg Picture.entries hset.quiet.picture, ?_⟩
    rw [← hplain]
    exact Session.keeps (s := { s with store := s' }) hset.coherent hdirty'
      fun k hk => (hclean.pinCount_eq k).trans (hpins k hk)
  refine Store.shutdown_of_ends (fun d => d.entries = s.store.files.disk.entries ∧
    d.Keeps (imageOf s.file.handle) (s.plain imageOf)) ((Store.ends_flushAll hs).imp ?_ ?_)
  · rintro _ s' ⟨hset, hclean, hall⟩
    exact hkept s' hset hclean fun k _ => hall k
  · rintro _ s' ⟨hset, hclean, j, hj, hfar⟩
    exact hkept s' hset hclean fun k hk => hclean.isDirty_false (hdirty j hj hfar k hk)

end Keeping

end SlottedFile
