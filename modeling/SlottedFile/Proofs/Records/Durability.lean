import SlottedFile.Proofs.Records.Refinement

/-!
# What is left of a record file

A record file is left in one of two ways (`Session.LeftTo`). Either it is closed; then
its pages have been written back, and whoever opens its path next finds it, in the same
store or in another one on the disk. Or nobody closes it and the whole store comes to
its end; then what was dirty is written back as long as nothing keeps the store from it,
which is to say that the files of all dirty pages are open.

The header is in its block whenever it has changed, and the pages are in theirs by
then. So the file that is found is the one that was left (`record_file_durable`): its
header, its pages, and with them its records and its free list.
-/

namespace SlottedFile

/-- **A disk whose files end in blocks that can be written.** The last block of a file
that is about as long as a file can be may be cut off; such a file cannot be extended
to hold the block as a whole. -/
def Disk.Bounded (d : Disk) : Prop :=
  ∀ i, (d.image i).blockCount * blockSize ≤ Files.maxOffset

/-- A dirty page of an open file can be written back. -/
theorem Coherent.writable {imageOf : Nat → ImageId} {holds : List Hold} {s : Store} {k : PageKey}
    (hs : Coherent imageOf holds s) (hbounded : s.files.disk.Bounded)
    (hdirty : s.pool.isDirty k = true) (hopen : (s.files.table.byHandle? k.file).isSome) :
    ¬s.Unwritable k := by
  rintro (hnone | hfar)
  · rw [hnone] at hopen
    cases hopen
  · cases hframe : s.pool.frame? k with
    | none =>
      rw [Pool.isDirty_of_frame?_none hframe] at hdirty
      cases hdirty
    | some f =>
      have hinside : k.page < (s.files.disk.image (imageOf k.file)).blockCount - 1 := hs.inside hframe
      have hlast : (k.page + 2) * blockSize ≤
          (s.files.disk.image (imageOf k.file)).blockCount * blockSize :=
        Nat.mul_le_mul_right _ (by omega)
      exact Nat.not_lt.2 (Nat.le_trans hlast (hbounded _)) hfar

/-- **The stores in which a file may be found that a session has left.** No page of the
file has a pin any more. -/
inductive Session.LeftTo (s : Session) : Store → Prop
  /-- The file was closed. -/
  | closed {t : Store} (hpins : ∀ k, k.file = s.file.handle → s.store.pool.pinCount k = 0)
      (hclose : s.file.close s.store = .ok () t) : s.LeftTo t
  /-- The file was closed, and another store is at work on the disk. -/
  | closedAside {t : Store} (hpins : ∀ k, k.file = s.file.handle → s.store.pool.pinCount k = 0)
      (hclose : s.file.close s.store = .ok () t) (capacity : Nat) {limit : Nat}
      (hlimit : 0 < limit) : s.LeftTo (.ofDisk t.files.disk capacity limit)
  /-- The file was closed, the store came to its end and another one went on. -/
  | closedBefore {t : Store} (hpins : ∀ k, k.file = s.file.handle → s.store.pool.pinCount k = 0)
      (hclose : s.file.close s.store = .ok () t) (capacity : Nat) {limit : Nat}
      (hlimit : 0 < limit) : s.LeftTo (.ofDisk t.shutdown capacity limit)
  /-- The store came to its end while every file with a dirty page was open. -/
  | dropped (hpins : ∀ k, k.file = s.file.handle → s.store.pool.pinCount k = 0)
      (hopen : ∀ k, s.store.pool.isDirty k = true → (s.store.files.table.byHandle? k.file).isSome)
      (hbounded : s.store.files.disk.Bounded) (capacity : Nat) {limit : Nat} (hlimit : 0 < limit) :
      s.LeftTo (.ofDisk s.store.shutdown capacity limit)

section Durability

variable {other : Nat → ImageId} {image : ImageId} {path : Path} {options : FileOptions}
  {use : RecordUse} {history : List RecordEvent} {raw : List Hold} {s : Session} {t : Store}
  {c : Client}

/-- At no point of a run are more files open than may be. -/
theorem RecordRun.within (h : RecordRun other image path options use history s c) :
    s.store.files.table.Within := by
  induction h with
  | opened hpool hother hcreate hleads hopen =>
    obtain ⟨header, -, hcreated⟩ :=
      (ends_createRecordFile hpool.sound hother path options).of_ok hcreate hleads
    exact ((ends_openRecordFile hcreated.sound hother hleads).of_ok hopen).within
  | @returned _ _ _ _ call _ h _ hallowed hrun _ ih =>
    obtain ⟨_, _, -, hbecame, -⟩ := (call.ends_run h.atWork.good rfl h.atWork.whole hallowed).of_ok hrun
    rw [hbecame.table_eq]
    exact ih
  | @failed _ _ _ _ call _ h _ hallowed hrun ih =>
    have hbecame := ((call.ends_run h.atWork.good rfl h.atWork.whole hallowed).of_error hrun).1
    rw [hbecame.table_eq]
    exact ih
  | beside h hstep ih => exact hstep.within h.atWork.good.sound.coherent ih
  | reopened h hpins hclose hopen ih =>
    have hclosed := (ends_close h.atWork.good rfl h.atWork.whole hpins).of_ok hclose
    obtain ⟨hsound, hleads, -⟩ := h.atWork.closed hclosed
    exact ((ends_openRecordFile hsound h.atWork.other_ne hleads).of_ok hopen).within

/-- A store on a disk has nothing in its pool. -/
theorem Store.sound_ofDisk (hinj : Function.Injective other) (disk : Disk) (capacity limit : Nat) :
    (Store.ofDisk disk capacity limit).Sound other [] :=
  ⟨.ofDisk hinj disk capacity limit, List.nodup_nil, nofun⟩

/-- **Wherever a file was left, the disk keeps it**, its path leads to it and there is a
handle to open it under. -/
theorem Session.LeftTo.keeps (hleft : s.LeftTo t) (h : AtWork other image path raw s)
    (hwithin : s.store.files.table.Within) :
    ∃ raw', t.Sound other raw' ∧ t.files.disk.Leads path image ∧
      t.files.disk.Keeps image (s.own other image) ∧
      t.files.table.opened.length < t.files.table.limit := by
  have hcloses : ∀ {t : Store}, (∀ k, k.file = s.file.handle → s.store.pool.pinCount k = 0) →
      s.file.close s.store = .ok () t →
      s.Closed (standFor other image s.file.handle) raw t := fun hpins hclose =>
    (ends_close h.good rfl h.whole hpins).of_ok hclose
  cases hleft with
  | closed hpins hclose =>
    have hclosed := hcloses hpins hclose
    obtain ⟨hsound, hleads, hkeeps⟩ := h.closed hclosed
    obtain ⟨o, ho, -⟩ := h.place
    refine ⟨raw, hsound, hleads, hkeeps, ?_⟩
    rw [show t.files.table = s.store.files.table.erase s.file.handle from
      congrArg Picture.table hclosed.picture]
    exact hwithin.erase_lt ho
  | closedAside hpins hclose capacity hlimit =>
    obtain ⟨-, hleads, hkeeps⟩ := h.closed (hcloses hpins hclose)
    exact ⟨[], Store.sound_ofDisk h.injective _ _ _, hleads, hkeeps, hlimit⟩
  | @closedBefore t hpins hclose capacity _ hlimit =>
    have hclosed := hcloses hpins hclose
    obtain ⟨-, hleads, -⟩ := h.closed hclosed
    have hplain : ({ s with store := t } : Session).plain (standFor other image s.file.handle) =
        s.own other image := Session.plain_congr hclosed.picture
    obtain ⟨hentries, hkeeps⟩ := Session.keeps_shutdown (s := { s with store := t })
      hclosed.sound.coherent (fun k hk => Pool.pinCount_of_frame?_none (hclosed.out k hk))
      fun _ _ _ k hk => Pool.isDirty_of_frame?_none (hclosed.out k hk)
    rw [hplain, standFor_self] at hkeeps
    exact ⟨[], Store.sound_ofDisk h.injective _ _ _, hleads.congr hentries, hkeeps, hlimit⟩
  | dropped hpins hopen hbounded capacity hlimit =>
    have hcoherent := h.good.sound.coherent
    obtain ⟨hentries, hkeeps⟩ := Session.keeps_shutdown hcoherent hpins fun j hj hfar =>
      absurd hfar (hcoherent.writable hbounded hj (hopen j hj))
    rw [standFor_self] at hkeeps
    exact ⟨[], Store.sound_ofDisk h.injective _ _ _, h.leads.congr hentries, hkeeps, hlimit⟩

/-- **A record file is found as it was left.** It can be opened wherever it was left to,
and it has the header that it had, the bytes in each page that it had, and the keyed
store that its history leads to: so a scan gives out the same records, and the free list
leads to the same pages in the same order. -/
theorem record_file_durable (h : RecordRun other image path options .orderly history s c)
    (hleft : s.LeftTo t) :
    ∃ file t', RecordFile.openFile path t = .ok file t' ∧ file.header = s.file.header ∧
      (∀ page, t'.content (standFor other image file.handle) ⟨file.handle, page⟩ =
        s.store.content (standFor other image s.file.handle) ⟨s.file.handle, page⟩) ∧
      ∃ header k, FileHeader.create options = .ok header ∧
        Replays (.empty header.recordSize header.recordsPerPage) history k ∧
        Represents (s.own other image) k ∧
        Represents ((⟨t', file⟩ : Session).own other image) k := by
  obtain ⟨hpages, header, k, hheader, hreplays, hrep⟩ := h.represents
  obtain ⟨raw', hsound, hleads, hkeeps, hroom⟩ := hleft.keeps h.atWork h.within
  obtain ⟨file, t', hopen, -, -, hown⟩ := AtWork.exists_opened hsound h.atWork.other_ne hleads hkeeps
    h.atWork.whole (hrep.inOrder hpages).written hroom
  refine ⟨file, t', hopen, congrArg PlainFile.header hown, fun page => ?_, header, k, hheader,
    hreplays, hrep, hown ▸ hrep⟩
  exact congrFun (congrArg PlainFile.page hown) page

/-! ## A file that is left -/

/-- A disk with a single file is bounded as long as that file is not too long. -/
theorem Disk.bounded_of_single {d : Disk} (himages : d.images.size = 1)
    (hshort : (d.image 0).blockCount * blockSize ≤ Files.maxOffset) : d.Bounded := by
  intro i
  rcases Nat.eq_zero_or_pos i with rfl | hpos
  · exact hshort
  · have hempty : d.image i = Image.empty := by
      refine (Array.getD_eq_getD_getElem? ..).trans ?_
      rw [Array.getElem?_eq_none (by rw [himages]; exact hpos)]
      rfl
    rw [hempty]
    decide

set_option maxRecDepth 100000 in
theorem tinyKept_bounded : tinyKept.store.files.disk.Bounded := by
  have hcount : (tinyKept.store.files.disk.image 0).blockCount = 2 := rfl
  exact Disk.bounded_of_single rfl (by rw [hcount]; decide)

set_option maxRecDepth 100000 in
/-- The file of one record is forgotten, the store ends, and another one with two frames
finds the file. -/
theorem record_file_durable_tiny :
    ∃ file t', RecordFile.openFile ⟨["f"]⟩ (.ofDisk tinyKept.store.shutdown 2 1) = .ok file t' ∧
      file.header = tinyKept.file.header := by
  have hpinned : tinyKept.store.pool.pinnedCount = 0 := rfl
  have hfiles : ∀ k, tinyKept.store.pool.isDirty k = true →
      (tinyKept.store.files.table.byHandle? k.file).isSome := by
    intro k hdirty
    obtain ⟨e, hfind, -⟩ := Option.any_eq_true _ _ |>.mp hdirty
    obtain ⟨hmem, rfl⟩ := Pool.mem_of_find? hfind
    have hentries : tinyKept.store.pool.entries = [⟨⟨1, 0⟩, 0, true, 0⟩] := rfl
    rw [hentries, List.mem_singleton] at hmem
    rw [hmem]
    rfl
  have hleft : tinyKept.LeftTo (.ofDisk tinyKept.store.shutdown 2 1) :=
    .dropped (fun k _ => Pool.pinCount_of_pinnedCount hpinned k) hfiles tinyKept_bounded 2 Nat.one_pos
  have hkept := tinyKept_run .orderly trivial (show 1 < noPage by decide)
  obtain ⟨file, t', hopen, hheader, -⟩ := record_file_durable hkept hleft
  exact ⟨file, t', hopen, hheader⟩

end Durability

end SlottedFile
