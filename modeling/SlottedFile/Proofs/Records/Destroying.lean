import Mathlib.Data.Set.Insert
import SlottedFile.Proofs.Records.Interleaving

/-!
# Files that are destroyed while others are open

A file that is destroyed is closed, if it is open, and its entry is removed from the disk, but
the pool is not told. Its pages stay buffered under a handle that is gone. Whoever closes a file
takes its pages out of the pool first; whoever destroys one does not.

Pages that are not dirty do no harm there. They keep their frames until they are evicted, and
no path leads to the file any more. So as long as files are destroyed only while none of their
pages is dirty, every other file is what its own tasks make of it, and none of its tasks fails
because of the pool (`destroyed_files_are_not_missed`).

A page that is dirty can never be written back. It stays in the pool until it is the oldest,
and from then on whoever needs a frame fails, in whatever file
(`destroyed_dirty_file_fails_another`).
-/

namespace SlottedFile

section Destroying

/-! ## The files behind the pool -/

/-- **A file is removed from the disk**, and from the table if it was open. -/
theorem Files.ends_removeFile {fs : Files} {path : Path} {place : Place}
    (hplace : fs.disk.canonical path = .ok place) :
    Ends (removeFile path) fs
      (fun _ fs' => (∃ i, fs.disk.node? place = some (.file i)) ∧
        fs' = ⟨fs.disk.removeEntry place, fs.table.without place⟩)
      (fun _ _ => True) := by
  have hremove : ∀ t, Ends (onDisk (Disk.removeFile path)) { fs with table := t }
      (fun _ fs' => (∃ i, fs.disk.node? place = some (.file i)) ∧
        fs' = ⟨fs.disk.removeEntry place, t⟩) (fun _ _ => True) := by
    intro t
    rw [ends_onDisk]
    refine (Disk.ends_removeFile path).imp ?_ fun _ _ _ => trivial
    rintro _ _ ⟨place', i, htarget, hnode, rfl⟩
    obtain rfl := Disk.canonical_of_target (fun _ _ h => h) htarget hplace
    exact ⟨⟨i, hnode⟩, rfl⟩
  unfold removeFile FileTable.without
  rw [ends_bind, ends_get, hplace]
  dsimp only
  rw [ends_bind, ends_get]
  cases fs.table.handleAt? place with
  | none => exact hremove fs.table
  | some h =>
    dsimp only [Option.elim]
    rw [ends_bind, ends_closeFile]
    exact ⟨fun _ => hremove _, fun _ => trivial⟩

/-- The files that are left after one was removed. -/
theorem Files.Sound.remove {fs : Files} (hs : fs.Sound) (place : Place) :
    Files.Sound ⟨fs.disk.removeEntry place, fs.table.without place⟩ where
  toSound := hs.toSound.without place
  placed := fun o ho => by
    obtain ⟨hmem, hne⟩ := hs.mem_opened_without.mp ho
    exact (Disk.node?_removeEntry hne).trans (hs.placed o hmem)

variable {imageOf : Nat → ImageId} {gone : Set Nat} {s s' : Store} {place : Place} {path : Path}

/-- **A store in which a file was destroyed**: the pool is as it was. -/
structure Store.Destroyed (place : Place) (s s' : Store) : Prop where
  aside : s.Aside s'
  file : ∃ i, s.files.disk.node? place = some (.file i)
  disk_eq : s'.files.disk = s.files.disk.removeEntry place
  table_eq : s'.files.table = s.files.table.without place

theorem ends_destroy (hs : s.files.Sound) (hplace : s.files.disk.canonical path = .ok place) :
    Ends (RecordFile.destroy path) s (fun _ s' => s.Destroyed place s') (fun _ _ => True) := by
  unfold RecordFile.destroy RecordFile.passing
  rw [ends_bind, ends_widenError, Store.ends_onFiles]
  refine (Files.ends_removeFile hplace).imp ?_ fun _ _ _ => trivial
  rintro _ _ ⟨hfile, rfl⟩
  rw [Store.ends_report]
  have haside : s.Aside { s with
      files := ⟨s.files.disk.removeEntry place, s.files.table.without place⟩ } :=
    ⟨hs.remove place, rfl, rfl, rfl, rfl, fun _ _ h => h⟩
  exact ⟨haside.report _ fun _ _ => nofun, hfile, rfl, rfl⟩

namespace Store.Destroyed

theorem image_eq (h : s.Destroyed place s') (i : ImageId) :
    s'.files.disk.image i = s.files.disk.image i := by
  rw [h.disk_eq]
  rfl

/-- The pool agrees with the files as it did. -/
theorem coherent {holds : List Hold} (h : s.Destroyed place s') (hs : Coherent imageOf holds s) :
    Coherent imageOf holds s' :=
  hs.elsewhere h.aside.pool_eq h.aside.frames_eq h.aside.files
    (fun _ ho => (hs.files.mem_opened_without.mp (h.table_eq ▸ ho)).1)
    (h.table_eq ▸ (FileTable.next_without place).ge) fun _ => h.image_eq _

/-- **The files are still open that were opened at other places.** -/
theorem byHandle?_iff (h : s.Destroyed place s') (hs : s.files.Sound) {handle : Nat}
    {o : OpenFile} :
    s'.files.table.byHandle? handle = some o ↔
      s.files.table.byHandle? handle = some o ∧ o.place ≠ place := by
  have hmem : o ∈ s'.files.table.opened ↔ o ∈ s.files.table.opened ∧ o.place ≠ place := by
    rw [h.table_eq]
    exact hs.mem_opened_without
  constructor
  · intro ho
    obtain ⟨hin, rfl⟩ := FileTable.mem_of_byHandle? ho
    obtain ⟨hin, hne⟩ := hmem.mp hin
    exact ⟨hs.byHandle?_of_mem hin, hne⟩
  · rintro ⟨ho, hne⟩
    obtain ⟨hin, rfl⟩ := FileTable.mem_of_byHandle? ho
    exact h.aside.files.byHandle?_of_mem (hmem.mpr ⟨hin, hne⟩)

/-- **A file that is still open is shown as it was.** -/
theorem shows (h : s.Destroyed place s') (hs : s.files.Sound) {f : RecordFile} {p : PlainFile}
    (hopen : (s'.files.table.byHandle? f.handle).isSome)
    (hshows : (⟨s, f⟩ : Session).Shows imageOf path p) :
    (⟨s', f⟩ : Session).Shows imageOf path p := by
  obtain ⟨o, ho, hfound⟩ := hshows.place
  obtain ⟨o', ho'⟩ := Option.isSome_iff_exists.mp hopen
  have hboth := (h.byHandle?_iff hs).mp ho'
  obtain rfl : o = o' := Option.some.inj (ho.symm.trans hboth.1)
  refine ⟨⟨o, ho', ?_⟩, (h.aside.plain_eq (h.image_eq _)).trans hshows.plain_eq, hshows.proper,
    h.image_eq _ ▸ hshows.paged⟩
  obtain ⟨i, hnode⟩ := h.file
  rw [h.disk_eq]
  exact Disk.canonical_removeEntry hnode hfound hboth.2

end Store.Destroyed

/-! ## A store at rest without the file -/

/-- **A store is still at rest after a file was destroyed** of which no page is dirty. If it
was open, its handle is one of those that are gone. -/
theorem Store.AtRest.destroyed (hrest : s.AtRest imageOf gone) (h : s.Destroyed place s')
    (hclean : ∀ o ∈ s.files.table.opened, o.place = place → s.CleanOf o.handle) :
    s'.AtRest imageOf
      (gone ∪ {handle | ∃ o ∈ s.files.table.opened, o.place = place ∧ o.handle = handle}) := by
  have hfiles := hrest.tidy.files
  have hsound := h.aside.sound hrest.sound (h.coherent hrest.sound.coherent)
  refine hrest.aside h.aside hsound Set.subset_union_left
    (fun handle o ho => ?_) ?_
  · by_cases hplace : o.place = place
    · obtain ⟨hmem, rfl⟩ := FileTable.mem_of_byHandle? ho
      exact .inr ⟨.inr ⟨o, hmem, hplace, rfl⟩, hclean o hmem hplace⟩
    · exact .inl ((h.byHandle?_iff hfiles).mpr ⟨ho, hplace⟩)
  · rw [h.table_eq]
    exact FileTable.Within.without hrest.within place

/-! ## The run -/

/-- **A run of record files that share a store, in which files are destroyed**, open or not.
A file that is open may be destroyed only if `may` says so. Each file that is created is a new
one, links can name the pages of each, and nobody holds a pin between two tasks. -/
inductive DestroyingRun (may : Store → Nat → Prop) (disk : Disk) (capacity limit : Nat) :
    List DeskEvent → Desk → Prop
  | start : DestroyingRun may disk capacity limit [] (.empty (.ofDisk disk capacity limit))
  | made {log : List DeskEvent} {d : Desk} {path : Path} {options : FileOptions}
      {store store' : Store} {file : RecordFile} (h : DestroyingRun may disk capacity limit log d)
      (hcreate : RecordFile.create path options d.store = .ok () store)
      (hnew : ∀ i, store.files.disk.Leads path i → d.store.files.disk.images.size ≤ i)
      (hopen : RecordFile.openFile path store = .ok file store') :
      DestroyingRun may disk capacity limit (log ++ [.made file.handle path options])
        (d.put ⟨store', file⟩)
  | returned {log : List DeskEvent} {d : Desk} {file : RecordFile} {s' : Session}
      {task : RecordTask} {r : TaskReply} (h : DestroyingRun may disk capacity limit log d)
      (hfile : d.header? file.handle = some file.header) (hfree : task.PinFree)
      (hrun : task.run ⟨d.store, file⟩ = .ok r s') (hpages : s'.file.header.pages < noPage) :
      DestroyingRun may disk capacity limit (log ++ [.done file.handle task (.ok r)]) (d.put s')
  | failed {log : List DeskEvent} {d : Desk} {file : RecordFile} {s' : Session}
      {task : RecordTask} {e : Fault RecordError} (h : DestroyingRun may disk capacity limit log d)
      (hfile : d.header? file.handle = some file.header) (hfree : task.PinFree)
      (hrun : task.run ⟨d.store, file⟩ = .error e s') :
      DestroyingRun may disk capacity limit (log ++ [.done file.handle task (.error e)]) (d.put s')
  | closed {log : List DeskEvent} {d : Desk} {file : RecordFile} {store : Store}
      (h : DestroyingRun may disk capacity limit log d)
      (hfile : d.header? file.handle = some file.header)
      (hclose : file.close d.store = .ok () store) :
      DestroyingRun may disk capacity limit (log ++ [.closed file.handle])
        (d.clear store file.handle)
  | destroyed {log : List DeskEvent} {d : Desk} {path : Path} {place : Place} {store : Store}
      (h : DestroyingRun may disk capacity limit log d)
      (hplace : d.store.files.disk.canonical path = .ok place)
      (hmay : ∀ o ∈ d.store.files.table.opened, o.place = place → may d.store o.handle)
      (hdestroy : RecordFile.destroy path d.store = .ok () store) :
      DestroyingRun may disk capacity limit log (d.keep store)

variable {disk : Disk} {capacity limit : Nat} {log : List DeskEvent} {d : Desk} {handle : Nat}
  {options : FileOptions} {store : Store}

/-- **A file was destroyed**, and no other one notices. -/
theorem Desk.Holds.destroyed (hd : d.Holds imageOf gone log)
    (hplace : d.store.files.disk.canonical path = .ok place)
    (hclean : ∀ o ∈ d.store.files.table.opened, o.place = place → d.store.CleanOf o.handle)
    (hdestroy : RecordFile.destroy path d.store = .ok () store) :
    ∃ gone', (d.keep store).Holds imageOf gone' log := by
  have hfiles := hd.rest.tidy.files
  have h := (ends_destroy hfiles hplace).of_ok hdestroy
  have hnext : store.files.table.next = d.store.files.table.next := by
    rw [h.table_eq]
    exact FileTable.next_without place
  have himages : store.files.disk.images.size = d.store.files.disk.images.size := by
    rw [h.disk_eq]
    rfl
  refine ⟨_, hd.rest.destroyed h hclean, ?_, fun hheader => hd.of_open (Desk.of_keep hheader).2,
    fun hmade => Nat.lt_of_lt_of_eq (hd.issued hmade) hnext.symm, ?_,
    fun hle => hd.own_eq_nil (Nat.le_trans (Nat.le_of_eq hnext.symm) hle)⟩
  · show ∀ {handle}, _ → handle < store.files.table.next ∧
      imageOf handle < store.files.disk.images.size
    rw [hnext, himages]
    rintro handle (hmem | ⟨o, ho, -, rfl⟩)
    · exact hd.gone_lt hmem
    · refine ⟨hfiles.handle_lt o ho, ?_⟩
      rw [← hd.rest.sound.coherent.stands o ho]
      exact hfiles.lt_images (hfiles.byHandle?_of_mem ho)
  · intro handle path options hmade
    obtain ⟨header, p, hcreate, hplain, hshows⟩ := hd.plain hmade
    refine ⟨header, p, hcreate, hplain, fun header' hheader' => ?_⟩
    obtain ⟨hopen, hheader'⟩ := Desk.of_keep hheader'
    obtain ⟨hheader, hshows⟩ := hshows header' hheader'
    exact ⟨hheader, h.shows hfiles hopen hshows⟩

/-- **The run lemma**: at every point, each file is what its own events make of the plain
file, whatever is gone. -/
theorem DestroyingRun.holds (h : DestroyingRun Store.CleanOf disk capacity limit log d)
    (hcapacity : 2 ≤ capacity) : ∃ imageOf gone, d.Holds imageOf gone log := by
  induction h with
  | start =>
    exact ⟨id, ∅, Store.atRest_ofDisk disk hcapacity, nofun, nofun, nofun, nofun, fun _ => rfl⟩
  | made _ hcreate hnew hopen ih =>
    obtain ⟨imageOf, gone, hd⟩ := ih
    obtain ⟨imageOf', hd'⟩ := hd.made hcreate
      (fun i hleads o ho => Nat.ne_of_lt (Nat.lt_of_lt_of_le
        (hd.rest.tidy.files.lt_images (hd.rest.tidy.files.byHandle?_of_mem ho)) (hnew i hleads)))
      (fun i hleads h hmem => Nat.lt_of_lt_of_le (hd.gone_lt hmem).2 (hnew i hleads)) hopen
    exact ⟨imageOf', gone, hd'⟩
  | returned _ hfile hfree hrun hpages ih =>
    obtain ⟨imageOf, gone, hd⟩ := ih
    exact ⟨imageOf, gone, hd.returned hfile hfree hrun hpages⟩
  | failed _ hfile hfree hrun ih =>
    obtain ⟨imageOf, gone, hd⟩ := ih
    exact ⟨imageOf, gone, hd.failed hfile hfree hrun⟩
  | closed _ hfile hclose ih =>
    obtain ⟨imageOf, gone, hd⟩ := ih
    exact ⟨imageOf, gone, hd.closed hfile hclose⟩
  | destroyed _ hplace hclean hdestroy ih =>
    obtain ⟨imageOf, gone, hd⟩ := ih
    exact ⟨imageOf, hd.destroyed hplace hclean hdestroy⟩

/-- **A destroyed file is not missed** if none of its pages was dirty. Whatever has been
destroyed, the answers and the errors that the tasks of another file came to are those of the
same tasks in a store of its own; what the file contains is the same in both, and so are its
bytes after it is closed. And no task that is done next fails because of the pool. -/
theorem destroyed_files_are_not_missed (hcapacity : 2 ≤ capacity)
    (h : DestroyingRun Store.CleanOf disk capacity limit log d)
    (hmade : .made handle path options ∈ log) {path' : Path} {capacity' : Nat} {s₀ : Session}
    (hcapacity' : 2 ≤ capacity') (hfresh : s₀.Fresh path' options capacity') :
    (∃ s', SoloRun path' s₀ (DeskEvent.own handle log) s' ∧
      ∀ header, d.header? handle = some header →
        s'.contents = (⟨d.store, ⟨handle, header⟩⟩ : Session).contents ∧
        ∃ bytes, (⟨d.store, ⟨handle, header⟩⟩ : Session).ClosesAs path bytes ∧
          s'.ClosesAs path' bytes) ∧
    ∀ (header : FileHeader) (task : RecordTask), d.header? handle = some header → task.PinFree →
      Ends task.run ⟨d.store, ⟨handle, header⟩⟩ (fun r _ => r.Unbroken)
        (fun e _ => ¬FromPool e) := by
  obtain ⟨imageOf, gone, hd⟩ := h.holds hcapacity
  refine ⟨hd.alike hmade hcapacity' hfresh, fun header task hheader hfree => ?_⟩
  obtain ⟨_, p, -, -, hopen⟩ := hd.plain hmade
  have hready := (hopen header hheader).2.ready hd.rest
  refine Ends.imp (task.exact_run hready hfree) ?_ fun _ _ h => h.1
  rintro r _ ⟨_, hplain, -⟩
  exact RecordTask.unbroken_of_plain hplain

/-! ## Two files, of which one is destroyed -/

/-- Two files that are open in two frames. -/
def tinyBoth : Desk := ((Desk.empty (.ofDisk .empty 2 2)).put (tinyFresh 2)).put tinyOther

/-- The first file after a record was put into it, -/
@[irreducible] def firstFilled : Session :=
  stateAfter (Session.insert [7]) ⟨tinyOther.store, (tinyFresh 2).file⟩

/-- and after its page was written back. -/
@[irreducible] def firstFlushed : Session :=
  stateAfter (Session.onStore (·.flush)) ⟨firstFilled.store, firstFilled.file⟩

/-- What is left after the first file was destroyed behind that, -/
def cleanGone : Desk :=
  ((tinyBoth.put firstFilled).put firstFlushed).keep
    (stateAfter (RecordFile.destroy ⟨["f"]⟩) firstFlushed.store)

/-- and what is left if it was destroyed before. -/
def dirtyGone : Desk :=
  (tinyBoth.put firstFilled).keep (stateAfter (RecordFile.destroy ⟨["f"]⟩) firstFilled.store)

/-- The second file after a record was put into it. -/
@[irreducible] def secondFilled : Session :=
  stateAfter (Session.insert [7]) ⟨dirtyGone.store, tinyOther.file⟩

theorem tinyTask_run {s : Session} {id : RecordId} (h : answer (Session.insert [7]) s = .ok id) :
    tinyTask.run s = .ok (.reply (.inserted id)) (stateAfter (Session.insert [7]) s) :=
  bind_of_ok (bind_of_ok (eq_of_answer h))

/-- What happens before the first file is destroyed. -/
def tinyLog : List DeskEvent :=
  [.made 1 ⟨["f"]⟩ ⟨1, some 1⟩, .made 3 ⟨["g"]⟩ ⟨1, some 1⟩,
    .done 1 tinyTask (.ok (.reply (.inserted ⟨0, 0⟩)))]

set_option maxRecDepth 100000 in
theorem firstFilled_run (may : Store → Nat → Prop) :
    DestroyingRun may .empty 2 2 tinyLog (tinyBoth.put firstFilled) := by
  have hcreate : RecordFile.create ⟨["g"]⟩ ⟨1, some 1⟩ (tinyFresh 2).store = .ok () tinyMore := rfl
  have hopen : RecordFile.openFile ⟨["g"]⟩ tinyMore = .ok tinyOther.file tinyOther.store := rfl
  have hleads : tinyMore.files.disk.Leads ⟨["g"]⟩ 1 := ⟨_, rfl, rfl⟩
  have hsize : (tinyFresh 2).store.files.disk.images.size = 1 := rfl
  obtain ⟨hanswer, hpages⟩ :
      answer (Session.insert [7]) ⟨tinyOther.store, (tinyFresh 2).file⟩ = .ok ⟨0, 0⟩ ∧
      firstFilled.file.header.pages < noPage := by decide +kernel
  have hinsert : tinyTask.run ⟨tinyOther.store, (tinyFresh 2).file⟩ =
      .ok (.reply (.inserted ⟨0, 0⟩)) firstFilled := by
    unfold firstFilled
    exact tinyTask_run hanswer
  have hfree : tinyTask.PinFree := trivial
  have hstart : DestroyingRun may .empty 2 2 [] (.empty (.ofDisk .empty 2 2)) := .start
  have hfirst := hstart.made tinyFresh_two.1 (fun _ _ => Nat.zero_le _) tinyFresh_two.2
  have hnew : ∀ i, tinyMore.files.disk.Leads ⟨["g"]⟩ i →
      (tinyFresh 2).store.files.disk.images.size ≤ i := by
    intro i hi
    rw [hleads.eq hi]
    exact Nat.le_of_eq hsize
  have hfile : tinyBoth.header? (tinyFresh 2).file.handle = some (tinyFresh 2).file.header := rfl
  exact (hfirst.made hcreate hnew hopen).returned hfile hfree hinsert hpages

set_option maxRecDepth 100000 in
theorem cleanGone_run : DestroyingRun Store.CleanOf .empty 2 2
    (tinyLog ++ [.done 1 (.call .flush) (.ok (.reply .done))]) cleanGone := by
  obtain ⟨hhandle, hanswer⟩ : firstFilled.file.handle = 1 ∧
      answer (Session.onStore (·.flush)) ⟨firstFilled.store, firstFilled.file⟩ = .ok () := by
    decide +kernel
  have hflush : (RecordTask.call .flush).run ⟨firstFilled.store, firstFilled.file⟩ =
      .ok (.reply .done) firstFlushed := by
    unfold firstFlushed
    exact bind_of_ok (bind_of_ok (eq_of_answer hanswer))
  obtain ⟨hpages, hplace, hdestroy, hentries⟩ :
      firstFlushed.file.header.pages < noPage ∧
      firstFlushed.store.files.disk.canonical ⟨["f"]⟩ = .ok (Disk.home ++ ["f"]) ∧
      answer (RecordFile.destroy ⟨["f"]⟩) firstFlushed.store = .ok () ∧
      ∀ e ∈ firstFlushed.store.pool.entries, e.dirty = false := by decide +kernel
  have hclean : ∀ handle, firstFlushed.store.CleanOf handle := by
    intro handle k _
    cases hfind : firstFlushed.store.pool.find? k with
    | none => rw [Pool.isDirty, hfind, Option.any_none]
    | some e => rw [Pool.isDirty_of_find? hfind, hentries e (Pool.mem_of_find? hfind).1]
  have hfile : (tinyBoth.put firstFilled).header? firstFilled.file.handle =
      some firstFilled.file.header := by
    rw [Desk.header?_put, if_pos rfl]
  have hfree : (RecordTask.call .flush).PinFree := trivial
  have hflushed := (firstFilled_run Store.CleanOf).returned hfile hfree hflush hpages
  rw [hhandle] at hflushed
  exact hflushed.destroyed hplace (fun o _ _ => hclean o.handle) (eq_of_answer hdestroy)

/-- A page of the first file is still buffered after the file was destroyed. It is not dirty,
and a record can be put into the second file. -/
theorem destroyed_files_are_not_missed_tiny :
    (cleanGone.store.pool.frame? ⟨1, 0⟩).isSome ∧
      ∃ header, cleanGone.header? 3 = some header ∧
        Ends tinyTask.run ⟨cleanGone.store, ⟨3, header⟩⟩ (fun r _ => r.Unbroken)
          (fun e _ => ¬FromPool e) ∧
        ∃ s', SoloRun ⟨["f"]⟩ (tinyFresh 3) [] s' ∧
          s'.contents = (⟨cleanGone.store, ⟨3, header⟩⟩ : Session).contents := by
  obtain ⟨hbuffered, hheader⟩ : (cleanGone.store.pool.frame? ⟨1, 0⟩).isSome ∧
      cleanGone.header? 3 = some tinyOther.file.header := by decide +kernel
  have hfree : tinyTask.PinFree := trivial
  have hmade : .made 3 ⟨["g"]⟩ ⟨1, some 1⟩ ∈
      tinyLog ++ [.done 1 (.call .flush) (.ok (.reply .done))] :=
    List.mem_cons_of_mem _ List.mem_cons_self
  obtain ⟨⟨s', hsolo, hopen⟩, hnext⟩ := destroyed_files_are_not_missed (Nat.le_refl 2)
    cleanGone_run hmade (Nat.le_succ 2) ⟨_, _, _, tinyFresh_three⟩
  exact ⟨hbuffered, _, hheader, hnext _ tinyTask hheader hfree, s', hsolo, (hopen _ hheader).1⟩

/-- **A dirty page of a destroyed file fails another file.** A record is put into the first file,
which is then destroyed. A first record finds room in the second file. A second one would have
to take the frame of the page that cannot be written back, and fails, though the same record can
be put into a file that is alone in its store. -/
theorem destroyed_dirty_file_fails_another :
    DestroyingRun (fun _ _ => True) .empty 2 2
        (tinyLog ++ [.done 3 tinyTask (.ok (.reply (.inserted ⟨0, 0⟩)))])
        (dirtyGone.put secondFilled) ∧
      answer (Session.insert [7]) ⟨secondFilled.store, secondFilled.file⟩ =
        .error (.error (.internal (.allocate (.invalidHandle 1)))) ∧
      ∃ s, SoloRun ⟨["f"]⟩ (tinyFresh 2) [.done tinyTask (.ok (.reply (.inserted ⟨0, 0⟩)))] s ∧
        answer (Session.insert [7]) s = .ok ⟨1, 0⟩ := by
  obtain ⟨hplace, hdestroy, hfile, hanswer⟩ :
      firstFilled.store.files.disk.canonical ⟨["f"]⟩ = .ok (Disk.home ++ ["f"]) ∧
      answer (RecordFile.destroy ⟨["f"]⟩) firstFilled.store = .ok () ∧
      dirtyGone.header? tinyOther.file.handle = some tinyOther.file.header ∧
      answer (Session.insert [7]) ⟨dirtyGone.store, tinyOther.file⟩ = .ok ⟨0, 0⟩ := by
    decide +kernel
  have hinsert : tinyTask.run ⟨dirtyGone.store, tinyOther.file⟩ =
      .ok (.reply (.inserted ⟨0, 0⟩)) secondFilled := by
    unfold secondFilled
    exact tinyTask_run hanswer
  obtain ⟨hpages, hfails⟩ : secondFilled.file.header.pages < noPage ∧
      answer (Session.insert [7]) ⟨secondFilled.store, secondFilled.file⟩ =
        .error (.error (.internal (.allocate (.invalidHandle 1)))) := by decide +kernel
  have hfree : tinyTask.PinFree := trivial
  have hgone := (firstFilled_run fun _ _ => True).destroyed hplace (fun _ _ _ => trivial)
    (eq_of_answer hdestroy)
  refine ⟨hgone.returned hfile hfree hinsert hpages, hfails, _, tinyFresh_two_solo, ?_⟩
  decide +kernel

end Destroying

end SlottedFile
