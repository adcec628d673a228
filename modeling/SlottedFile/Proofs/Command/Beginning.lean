import SlottedFile.Proofs.Command.Serving

/-!
# How a command comes by its file

Every command begins with a store on the disk in which no file is open. If the disk carries
a proper file where the path leads, a session opens that serves the command
(`Disk.Carries.ends_open`). If the path leads to no file, there is none to open, and the disk
stays what it was (`ends_open_nowhere`).

A file is created only where there is none. If that fails there is none afterwards
(`ends_create_missing`), not even if the failure comes late. A file that was made is opened
next, and that fails only if the place is so far down that nothing can ever be opened there.
If no file was made, all there is are directories, and those that are still missing keep the
path from leading to a file that is somewhere already.
-/

namespace SlottedFile

/-- **A path that leads to no file.** -/
def Disk.Nowhere (d : Disk) (path : Path) : Prop := ∀ i, ¬d.Leads path i

/-- Where a path leads to no file, there are no bytes. -/
theorem Disk.Nowhere.not_bytesAt {d : Disk} {path : Path} (h : d.Nowhere path)
    (bytes : List UInt8) : ¬d.BytesAt path bytes := fun ⟨i, hleads, _⟩ => h i hleads

section Beginning

variable {disk : Disk} {path : Path} {image : ImageId} {frames limit : Nat} {p : PlainFile}
  {s : Store}

/-- A disk without files has none anywhere. -/
theorem Disk.Unfiled.nowhere {d : Disk} (h : d.Unfiled) (path : Path) : d.Nowhere path :=
  fun i ⟨place, _, hnode⟩ => h place i hnode

/-- **A path at which there is no file**, and at which there is none unless one is created
there. If the path is too long, that takes a disk without files: directories that are made
could complete a way to another one. -/
def Disk.Missing (d : Disk) (path : Path) : Prop :=
  d.Unfiled ∨ d.Nowhere path ∧ path.byteSize < pathLimit

theorem Disk.Missing.nowhere {d : Disk} {path : Path} (h : d.Missing path) : d.Nowhere path :=
  h.elim (fun h => h.nowhere path) And.left

/-- What handles can stand for besides a file. -/
def besides (image : ImageId) (handle : Nat) : ImageId := image + 1 + handle

theorem injective_besides (image : ImageId) : Function.Injective (besides image) :=
  fun _ _ h => Nat.add_left_cancel h

theorem besides_ne (image : ImageId) (handle : Nat) : besides image handle ≠ image :=
  Nat.ne_of_gt (Nat.lt_of_lt_of_le (Nat.lt_succ_self image) (Nat.le_add_right _ _))

/-- A store with nothing in its pool leaves the disk as it is at its end. -/
theorem Store.shutdown_of_empty (h : s.pool.entries = []) : s.shutdown = s.files.disk := by
  have hkeys : s.pool.keysWhere (·.dirty) = [] := by
    unfold Pool.keysWhere
    rw [h]
    rfl
  refine Store.shutdown_of_ends (fun d => d = s.files.disk) ?_
  unfold Store.flushAll
  rw [ends_bind, ends_get, hkeys]
  exact rfl

/-! ## Files that are there -/

/-- **A file that the disk carries is opened** for a command. -/
theorem Disk.Carries.ends_open (h : disk.Carries path image p) (hproper : p.Proper)
    (hlimit : 0 < limit) :
    Ends (RecordFile.openFile path) (.ofDisk disk frames limit)
      (fun file store => (⟨store, file⟩ : Session).Serves (besides image) image path frames p)
      (fun _ _ => False) := by
  have hsound := Store.sound_ofDisk (injective_besides image) disk frames limit
  obtain ⟨file, store, hok, hopened, hwork, hown⟩ :=
    AtWork.exists_opened hsound (besides_ne image) h.leads h.keeps hproper.whole hproper.written
      hlimit
  refine (ends_of_ok hok).mpr ?_
  have hpool : store.pool = .ofCapacity frames := hopened.aside.pool_eq
  have himage : store.files.disk.image image = disk.image image := by
    refine hopened.image_eq ?_
    rw [show (⟨store, file⟩ : Session).file.header = p.header from congrArg PlainFile.header hown,
      ← hproper.whole.count]
    exact h.keeps.count_eq
  have hentire : (⟨store, file⟩ : Session).Entire (standFor (besides image) image file.handle) [] p :=
    ⟨hwork.good, hown, hproper.whole, hproper.pages_lt⟩
  constructor
  case work => exact hwork
  case own_eq => exact hown
  case fit => exact hentire.fit
  case held_eq => exact hopened.aside.held_eq
  case capacity_eq => exact congrArg Pool.capacity hpool
  case writable =>
    intro k hdirty
    rw [show (⟨store, file⟩ : Session).store.pool = .ofCapacity frames from hpool] at hdirty
    cases hdirty
  case paged => exact himage ▸ h.paged

/-- **No file is created over one that is there.** -/
theorem create_of_leads {i : ImageId} (hleads : s.files.disk.Leads path i)
    (hshort : path.byteSize < Disk.pathLimit) (options : FileOptions) :
    ∃ e, RecordFile.create path options s = .error (.error e) s := by
  obtain ⟨place, hplace, hnode⟩ := hleads
  have hthere : s.files.disk.exists? path = true := by
    unfold Disk.exists? Disk.find?
    rw [Disk.resolve_eq_of_canonical hplace hshort]
    dsimp only
    rw [hnode]
    rfl
  have hends : Ends (RecordFile.create path options) s (fun _ _ => False)
      (fun e s' => e.IsError ∧ s' = s) := by
    unfold RecordFile.create RecordFile.passing
    cases FileHeader.create options with
    | error e => exact ⟨trivial, rfl⟩
    | ok header =>
      dsimp only
      rw [ends_bind, ends_widenError, ends_bind, Store.ends_onFiles]
      unfold Files.createFile
      rw [ends_bind, ends_get, if_pos hthere]
      exact ⟨trivial, rfl⟩
  obtain ⟨e | o, _, hok, herror, rfl⟩ := hends.exists_error
  · exact ⟨e, hok⟩
  · exact herror.elim

/-! ## Files that are not there -/

/-- **There is nothing to open** where a path leads to no file. -/
theorem ends_open_nowhere (hs : s.files.Sound) (h : s.files.disk.Nowhere path)
    (hclosed : s.files.table.opened = []) :
    Ends (RecordFile.openFile path) s (fun _ _ => False) (fun e s' => e.IsError ∧ s' = s) := by
  unfold RecordFile.openFile
  rw [ends_bind]
  refine ends_widenError.mpr ((Store.ends_openFile s path).imp ?_ ?_)
  · rintro _ _ ⟨place, hplace, ⟨hopen, -⟩ | ⟨i, -, hnode, -⟩⟩
    · obtain ⟨o, hmem, -⟩ := hs.handleAt?_eq_some_iff.mp hopen
      rw [hclosed] at hmem
      cases hmem
    · exact (h i ⟨place, hplace, hnode⟩).elim
  · rintro _ _ ⟨rfl, ⟨fe, rfl⟩, -⟩
    exact ⟨trivial, rfl⟩

/-- **A file that cannot be created is not there.** -/
theorem ends_createFile_nowhere (fs : Files) (h : fs.disk.Nowhere path)
    (hshort : path.byteSize < Disk.pathLimit) :
    Ends (Files.createFile path) fs (fun _ _ => True)
      (fun e fs' => e.IsError ∧ fs'.disk.Nowhere path) := by
  by_cases hthere : fs.disk.exists? path = true
  · -- a file to which no short way leads keeps its place
    unfold Files.createFile
    rw [ends_bind, ends_get, if_pos hthere]
    exact ⟨trivial, h⟩
  · refine (Files.ends_createFile_failed fs path fun place i hplace hnode => hthere ?_).imp
      (fun _ _ _ => trivial) ?_
    · unfold Disk.exists? Disk.find?
      rw [hplace]
      dsimp only
      rw [hnode]
      rfl
    · rintro e fs' ⟨herror, hnone⟩
      refine ⟨herror, fun i ⟨place, hplace, hnode⟩ => ?_⟩
      exact hnone place i (Disk.resolve_eq_of_canonical hplace hshort) hnode

/-- **A record file that cannot be created is not there**, and the failure is an answer. -/
theorem ends_create_nowhere (hs : s.files.Sound) (h : s.files.disk.Nowhere path)
    (hshort : path.byteSize < Disk.pathLimit) (hclosed : s.files.table.opened = [])
    (hlimit : 0 < s.files.table.limit) (options : FileOptions) :
    Ends (RecordFile.create path options) s (fun _ _ => True)
      (fun e s' => e.IsError ∧ s'.files.disk.Nowhere path) := by
  unfold RecordFile.create RecordFile.passing
  cases FileHeader.create options with
  | error e => exact ⟨trivial, h⟩
  | ok header =>
    have hlength := header.length_encode_le
    dsimp only
    rw [ends_bind, ends_widenError, ends_bind, Store.ends_onFiles]
    refine ((Files.ends_createFile s.files path).and
      (ends_createFile_nowhere s.files h hshort)).imp ?_ ?_
    swap
    · rintro e fs ⟨-, herror, hnone⟩
      cases e with
      | error e => exact ⟨trivial, hnone⟩
      | overrun o => exact herror.elim
    rintro _ fs ⟨⟨htable, i, hmade⟩, -⟩
    have hfs := hs.of_stands htable hmade.stands
    have hopened : fs.table.opened = [] := by
      rw [htable]
      exact hclosed
    rw [ends_bind, Store.ends_onFiles]
    refine (Files.ends_openFile fs path).imp ?_ ?_
    · -- it was opened, so that its header is written
      rintro handle fs' ⟨place, -, ⟨ho, -⟩ | ⟨j, hfree, hnode, -, rfl, rfl⟩⟩
      · obtain ⟨o, hmem, -⟩ := hfs.handleAt?_eq_some_iff.mp ho
        rw [hopened] at hmem
        cases hmem
      · have hopen : (fs.table.add place j).byHandle? fs.table.next = some ⟨_, place, j⟩ :=
          FileTable.byHandle?_add.trans (if_pos rfl)
        exact (ends_writeAndClose (hfs.add hfree hnode) hopen hlength).imp (fun _ _ _ => trivial)
          fun _ _ h => h.elim
    · -- it could not be opened, so that the path does not lead there
      rintro _ fs' ⟨rfl, ⟨fe, rfl⟩, hfull⟩
      refine ⟨trivial, fun j ⟨place, hplace, hnode⟩ => ?_⟩
      have hle := (hfull place hplace).2 j hnode
      rw [hopened, htable] at hle
      exact absurd hlimit (Nat.not_lt.2 hle)

/-- **No record file is created at a path that is too long.** -/
theorem ends_create_tooLong (h : s.files.disk.Unfiled) (hlong : Disk.pathLimit ≤ path.byteSize)
    (options : FileOptions) :
    Ends (RecordFile.create path options) s (fun _ _ => False)
      (fun e s' => e.IsError ∧ s'.files.disk.Unfiled) := by
  unfold RecordFile.create RecordFile.passing
  cases FileHeader.create options with
  | error e => exact ⟨trivial, h⟩
  | ok header =>
    dsimp only
    rw [ends_bind, ends_widenError, ends_bind, Store.ends_onFiles]
    refine (Files.ends_createFile_tooLong s.files h hlong).imp (fun _ _ h => h.elim) ?_
    rintro e fs ⟨herror, hunfiled⟩
    cases e with
    | error e => exact ⟨trivial, hunfiled⟩
    | overrun o => exact herror.elim

/-- **Where there is no file, one is created or there is still none.** -/
theorem ends_create_missing (hs : s.files.Sound) (h : s.files.disk.Missing path)
    (hclosed : s.files.table.opened = []) (hlimit : 0 < s.files.table.limit)
    (options : FileOptions) :
    Ends (RecordFile.create path options) s
      (fun _ s' => path.byteSize < Disk.pathLimit ∧ ∃ header i,
        FileHeader.create options = .ok header ∧ s.Made path i header s')
      (fun e s' => e.IsError ∧ s.Aside s' ∧ s'.files.disk.Missing path) := by
  rcases Nat.lt_or_ge path.byteSize Disk.pathLimit with hshort | hlong
  · refine ((ends_create hs path options).and
      (ends_create_nowhere hs h.nowhere hshort hclosed hlimit options)).imp ?_ ?_
    · rintro _ s' ⟨hmade, -⟩
      exact ⟨hshort, hmade⟩
    · rintro e s' ⟨⟨haside, -⟩, herror, hnowhere⟩
      exact ⟨herror, haside, .inr ⟨hnowhere, hshort⟩⟩
  · have hunfiled := h.resolve_right fun hboth => Nat.not_lt.2 hlong hboth.2
    refine ((ends_create hs path options).and
      (ends_create_tooLong hunfiled hlong options)).imp (fun _ _ h => h.2.elim) ?_
    rintro e s' ⟨⟨haside, -⟩, herror, hunfiled'⟩
    exact ⟨herror, haside, .inl hunfiled'⟩

end Beginning

end SlottedFile
