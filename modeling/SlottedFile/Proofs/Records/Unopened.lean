import SlottedFile.Proofs.Records.Opening
import SlottedFile.Proofs.Records.Unaware

/-!
# Record files that could not be opened

A record file is opened by taking a handle for it and loading its header. If the header
cannot be loaded the handle is closed again, and so nothing is left of the attempt but a
handle that will not be given out again. Nobody who works on another file notices
(`failed_opening_goes_unnoticed`).

But the handle need not have been taken by this attempt. A file that is open already keeps
its handle, and then it is that one which is closed: whoever had the file open has lost it
(`failed_opening_closes_open_file`).

Of the store it is only asked that its handles were given out. What is on the disk, whether
the open files are still there, and what is buffered of them, does not matter.
-/

namespace SlottedFile

variable {s s' : Store} {path : Path} {o : OpenFile}

/-- **Whether a path leads to a file that is open**: its place has a handle, and the handle
stands for the file. -/
def Files.OpenAt (fs : Files) (path : Path) (o : OpenFile) : Prop :=
  ∃ place, fs.disk.canonical path = .ok place ∧ fs.table.handleAt? place = some o.handle ∧
    fs.table.byHandle? o.handle = some o

/-- Whoever opens a file that is open gets the handle that it has. -/
theorem Files.openFile_of_openAt {fs : Files} (h : fs.OpenAt path o) :
    openFile path fs = .ok o.handle fs := by
  obtain ⟨place, hplace, ho, -⟩ := h
  refine Ends.eq_ok ?_
  unfold openFile
  rw [ends_bind, ends_get, hplace]
  dsimp only
  rw [ends_bind, ends_get, ho]
  exact ⟨rfl, rfl⟩

/-! ## What a failed opening leaves behind -/

/-- **A handle whose header cannot be loaded is closed**, whoever it was given out to. -/
theorem ends_openFile_of_handle {h : Nat} {s₁ : Store}
    (hopen : Store.onFiles (Files.openFile path) s = .ok h s₁)
    (hissued : (s₁.files.table.byHandle? h).isSome) :
    Ends (RecordFile.openFile path) s (fun _ _ => True)
      (fun e s' => s' = s₁.withTable (s₁.files.table.erase h) ∧ e.IsError) := by
  unfold RecordFile.openFile RecordFile.passing
  obtain ⟨o, ho⟩ := Option.isSome_iff_exists.mp hissued
  rw [ends_bind, ends_widenError, ends_of_ok hopen, ends_bind, ends_attempt]
  refine (ends_loadHeader_cut ho).imp (fun _ _ _ => trivial) ?_
  rintro _ _ ⟨rfl, ⟨e, rfl⟩, -⟩
  show Ends _ _ _ _
  rw [ends_bind, ends_widenError, Store.ends_closeFile]
  exact ⟨fun _ => ⟨rfl, trivial⟩, fun hnone => absurd (ho.symm.trans hnone) nofun⟩

/-- **A file that is open is closed** if it cannot be opened again. -/
theorem ends_openFile_of_openAt (h : s.files.OpenAt path o) :
    Ends (RecordFile.openFile path) s (fun _ _ => True)
      (fun e s' => s' = s.withTable (s.files.table.erase o.handle) ∧ e.IsError) := by
  have hopen : Store.onFiles (Files.openFile path) s = .ok o.handle s := by
    unfold Store.onFiles onPart
    rw [Files.openFile_of_openAt h]
  obtain ⟨-, -, -, ho⟩ := h
  exact ends_openFile_of_handle hopen (Option.isSome_of_eq_some ho)

/-- A handle that is not open loads no header, and is not closed either. -/
theorem ends_openFile_of_stale {h : Nat} (hopen : Store.onFiles (Files.openFile path) s = .ok h s)
    (hstale : s.files.table.byHandle? h = none) :
    Ends (RecordFile.openFile path) s (fun _ _ => False) (fun e s' => s' = s ∧ e.IsError) := by
  have hread : Ends (Store.onFiles (Files.readHeader h)) s (fun _ _ => False)
      (fun e s' => s' = s ∧ e.IsError) := by
    unfold Files.readHeader
    rw [Store.ends_onFiles]
    refine (Files.ends_readBlock s.files h 0).imp ?_ ?_
    · rintro _ _ ⟨-, -, o, ho, -⟩
      exact absurd (ho.symm.trans hstale) nofun
    · rintro (e | w) _ ⟨rfl, hfar⟩
      · exact ⟨rfl, trivial⟩
      · exact absurd (show wordLimit ≤ (0 + 1) * blockSize from hfar) (by decide)
  unfold RecordFile.openFile RecordFile.passing
  rw [ends_bind, ends_widenError, ends_of_ok hopen, ends_bind, ends_attempt]
  unfold RecordFile.loadHeader RecordFile.passing
  rw [ends_bind, ends_widenError]
  refine hread.imp (fun _ _ h => h.elim) ?_
  rintro (e | w) _ ⟨rfl, herror⟩
  · show Ends _ _ _ _
    rw [ends_bind, ends_widenError, Store.ends_closeFile]
    refine ⟨fun hsome => ?_, fun _ => ⟨rfl, trivial⟩⟩
    rw [hstale] at hsome
    cases hsome
  · exact herror.elim

/-- **A file that is not open is not open afterwards** if it cannot be opened. At most one
handle was used up. -/
theorem ends_openFile_of_not_openAt
    (hissued : ∀ o ∈ s.files.table.opened, o.handle < s.files.table.next)
    (hclosed : ∀ o, ¬s.files.OpenAt path o) :
    Ends (RecordFile.openFile path) s (fun _ _ => True)
      (fun e s' => (∃ n, s.files.table.next ≤ n ∧ s' = s.renext n) ∧ e.IsError) := by
  cases hopen : Store.onFiles (Files.openFile path) s with
  | error e s₁ =>
    obtain ⟨rfl, ⟨fe, rfl⟩, -⟩ := (Store.ends_openFile s path).of_error hopen
    unfold RecordFile.openFile RecordFile.passing
    rw [ends_bind, ends_widenError, ends_of_error hopen]
    exact ⟨⟨_, Nat.le_refl _, rfl⟩, trivial⟩
  | ok h s₁ =>
    obtain ⟨place, hplace, ⟨hfound, rfl⟩ | ⟨i, hfree, -, -, rfl, rfl⟩⟩ :=
      (Store.ends_openFile s path).of_ok hopen
    · -- the place has a handle, and nothing stands behind it
      have hstale : s₁.files.table.byHandle? h = none := by
        refine Option.eq_none_iff_forall_ne_some.mpr fun o ho => ?_
        obtain rfl := (FileTable.mem_of_byHandle? ho).2
        exact hclosed o ⟨place, hplace, hfound, ho⟩
      refine (ends_openFile_of_stale hopen hstale).imp (fun _ _ h => h.elim) ?_
      rintro e _ ⟨rfl, herror⟩
      exact ⟨⟨_, Nat.le_refl _, rfl⟩, herror⟩
    · have hnew : (s.files.table.add place i).byHandle? s.files.table.next = some ⟨_, place, i⟩ :=
        FileTable.byHandle?_add.trans (if_pos rfl)
      refine (ends_openFile_of_handle hopen (Option.isSome_of_eq_some hnew)).imp
        (fun _ _ _ => trivial) ?_
      rintro e _ ⟨rfl, herror⟩
      refine ⟨⟨s.files.table.next + 1, Nat.le_succ _, ?_⟩, herror⟩
      -- the handle that was taken is the one that was given back
      show s.withTable ((s.files.table.add place i).erase s.files.table.next) = _
      rw [FileTable.erase_add hissued hfree]
      rfl

/-- **A failed opening goes unnoticed** by everybody who has a file open, unless it is that
file. If the path leads to no open file, then the same files are open under the same handles,
and every task for a record file, and its closing, comes to what it would have come to
without the attempt, and leaves behind what it would have left. If the path leads to an open
file, that one is closed and nothing else has changed. -/
theorem failed_opening_goes_unnoticed
    (hissued : ∀ o ∈ s.files.table.opened, o.handle < s.files.table.next) (path : Path) :
    Ends (RecordFile.openFile path) s (fun _ _ => True)
      (fun e s' => e.IsError ∧
        ((∀ o, ¬s.files.OpenAt path o) → ∃ n, s.files.table.next ≤ n ∧ s' = s.renext n ∧
          ∀ file : RecordFile,
            (∀ task : RecordTask, task.run ⟨s', file⟩ =
              mapState (Session.renext n) (task.run ⟨s, file⟩)) ∧
            file.close s' = mapState (Store.renext n) (file.close s)) ∧
        ∀ o, s.files.OpenAt path o → s' = s.withTable (s.files.table.erase o.handle)) := by
  refine ends_iff.mpr ⟨fun _ _ _ => trivial, fun e s' hfailed => ?_⟩
  by_cases hopen : ∃ o, s.files.OpenAt path o
  · obtain ⟨o, ho⟩ := hopen
    have herror := ((ends_openFile_of_openAt ho).of_error hfailed).2
    refine ⟨herror, fun hclosed => absurd ho (hclosed o), fun o' ho' => ?_⟩
    exact ((ends_openFile_of_openAt ho').of_error hfailed).1
  · have hclosed := not_exists.mp hopen
    obtain ⟨⟨n, hn, rfl⟩, herror⟩ :=
      (ends_openFile_of_not_openAt hissued hclosed).of_error hfailed
    refine ⟨herror, fun _ => ⟨n, hn, rfl, fun file => ⟨fun task => ?_, ?_⟩⟩,
      fun o ho => absurd ho (hclosed o)⟩
    · exact task.unaware ⟨s, file⟩
    · exact file.unaware_close s

/-! ## A record file beside one that is none -/

/-- A disk with a record file that has no pages, and an empty file. -/
def mixedDisk : Disk :=
  ((Disk.empty.addFile (Disk.home ++ ["f"])).addFile (Disk.home ++ ["g"])).setImage 0
    (Image.empty.setBlock 0 (Buffer.ofList blockSize (FileHeader.encode ⟨1, 1, 0, 1, none⟩)))

/-- The record file after it was opened. -/
def mixedOpened : Session where
  store := stateAfter (RecordFile.openFile ⟨["f"]⟩) (.ofDisk mixedDisk 1 2)
  file := ⟨0, ⟨1, 1, 0, 1, none⟩⟩

/-- The store after the empty file could not be opened. -/
def mixedRefused : Store := stateAfter (RecordFile.openFile ⟨["g"]⟩) mixedOpened.store

set_option maxRecDepth 100000 in
/-- The record file passes its check as it did before. -/
theorem failed_opening_goes_unnoticed_mixed :
    answer RecordTask.check.run ⟨mixedRefused, mixedOpened.file⟩ =
      answer RecordTask.check.run mixedOpened := by
  have hissued : ∀ o ∈ mixedOpened.store.files.table.opened,
      o.handle < mixedOpened.store.files.table.next := by decide
  have hrefused : RecordFile.openFile ⟨["g"]⟩ mixedOpened.store =
      .error (.error (.invalidHeader (.badMagic 0))) mixedRefused := rfl
  have hclosed : ∀ o, ¬mixedOpened.store.files.OpenAt ⟨["g"]⟩ o := by
    rintro o ⟨place, hplace, hfound, -⟩
    obtain rfl : Disk.home ++ ["g"] = place := Except.ok.inj hplace
    have hfree : mixedOpened.store.files.table.handleAt? (Disk.home ++ ["g"]) = none := rfl
    exact absurd (hfound.symm.trans hfree) nofun
  obtain ⟨-, hunnoticed, -⟩ := (failed_opening_goes_unnoticed hissued _).of_error hrefused
  obtain ⟨n, -, -, htasks⟩ := hunnoticed hclosed
  have hcheck := (htasks mixedOpened.file).1 .check
  unfold answer
  rw [hcheck]
  cases RecordTask.check.run mixedOpened <;> rfl

/-- The record file after somebody has written over its header block. -/
def mixedDamaged : Store :=
  { mixedOpened.store with files := { mixedOpened.store.files with
      disk := stateAfter (Disk.writeFile ⟨["f"]⟩ 0 [0, 0, 0, 0]) mixedOpened.store.files.disk } }

set_option maxRecDepth 100000 in
/-- **A file that is open is closed by a failed opening.** It had one handle, and its header
could be written down, which would have mended the file; after the failure no file is open,
and the header cannot be written any more. -/
theorem failed_opening_closes_open_file :
    ∃ s', RecordFile.openFile ⟨["f"]⟩ mixedDamaged =
        .error (.error (.invalidHeader (.badMagic 0))) s' ∧
      mixedDamaged.files.table.opened.length = 1 ∧ s'.files.table.opened = [] ∧
      answer mixedOpened.file.persistHeader mixedDamaged = .ok () ∧
      answer mixedOpened.file.persistHeader s' = .error (.error (.file (.invalidHandle 0))) :=
  ⟨_, rfl, rfl, rfl, rfl, rfl⟩

end SlottedFile
