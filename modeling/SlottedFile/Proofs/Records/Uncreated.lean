import SlottedFile.Proofs.Paths
import SlottedFile.Proofs.Records.Creating

/-!
# Record files that could not be created

A record file is created in steps: its header is made from the options, an empty file is
made on the disk, the file is opened, and its header is written to it. What is left of it if
one of them fails is told by `Files.Uncreated`. Up to the second step there is no file, or
the one that was there before. The third step needs a handle, and if there is none the file
has been made already: it stays on the disk, without a header. From then on nothing can be
created at that path, because there is a file (`ends_create_occupied`). The last step cannot
fail.

Nothing is asked of the store. Its open files may long have been removed, and the pool may
buffer whatever it likes.
-/

namespace SlottedFile

/-! ## The file that a path leads to -/

namespace Disk

variable {d d' : Disk} {path : Path} {place : Place}

/-- The contents of the file that a path leads to, if it leads to one. -/
def fileAt (d : Disk) (path : Path) : Option Image :=
  match d.find? path with
  | some (.file i) => some (d.image i)
  | some .directory => none
  | none => none

theorem fileAt_eq_none_iff : d.fileAt path = none ↔
    ∀ place i, d.resolve path = .ok place → d.node? place ≠ some (.file i) := by
  unfold fileAt find?
  cases d.resolve path with
  | error e => exact iff_of_true rfl nofun
  | ok found =>
    dsimp only
    constructor
    · rintro hnone _ i ⟨⟩ hnode
      rw [hnode] at hnone
      cases hnone
    · intro hnone
      cases hnode : d.node? found with
      | none => rfl
      | some n =>
        cases n with
        | directory => rfl
        | file i => exact absurd hnode (hnone found i rfl)

/-- Where nothing is, there is no file. -/
theorem fileAt_of_not_exists (h : ¬d.exists? path = true) : d.fileAt path = none := by
  unfold exists? at h
  rw [Bool.not_eq_true, Option.isSome_eq_false_iff, Option.isNone_iff_eq_none] at h
  unfold fileAt
  rw [h]

/-- **A path leads to the entry that it names**, once there is one. -/
theorem resolve_of_target {n : Node} (h : Stands d d')
    (htarget : d.target path = .ok (.entry place false))
    (hshort : (place.getLastD "").utf8ByteSize ≤ maxSegment) (hnode : d'.node? place = some n) :
    d'.resolve path = .ok place := by
  obtain ⟨hflaw, before, last, up, hsegments, hup, hdir, hidle, hdots, rfl⟩ := of_target htarget
  rw [List.getLastD_concat] at hshort
  have hstep : d'.step up last = .ok (up ++ [last]) := by
    unfold step
    rw [h up _ hdir]
    dsimp only
    rw [if_neg hidle, if_neg (by simpa using hdots), if_neg (Nat.not_lt.2 hshort), hnode]
  rw [resolve_eq_ok_iff, hsegments, walk_append_eq_ok_iff]
  exact ⟨hflaw, up, walk_of_stands h hup, walk_cons_eq_ok_iff.mpr ⟨_, hstep, rfl⟩⟩

/-- **A file that was made is found**, and is empty. -/
theorem ends_createFile_found (d : Disk) (path : Path) :
    Ends (createFile path) d (fun _ d' => d'.fileAt path = some Image.empty) (fun _ _ => True) := by
  refine (ends_createFile_at path).imp ?_ fun _ _ _ => trivial
  rintro _ d' ⟨place, i, htarget, hshort, hstands, hnode, -, hself, -⟩
  unfold fileAt find?
  rw [resolve_of_target hstands htarget hshort hnode]
  dsimp only
  rw [hnode]
  dsimp only
  rw [hself]

end Disk

namespace Files

variable {fs : Files} {path : Path}

/-- **A file is made where there was none**, or nothing is there that was not there before:
the failure says that there is a file already, or comes from the disk. -/
theorem ends_createFile_fileAt (fs : Files) (path : Path) :
    Ends (createFile path) fs
      (fun _ fs' => fs.disk.fileAt path = none ∧ fs'.disk.fileAt path = some Image.empty)
      (fun e fs' => fs'.disk.fileAt path = fs.disk.fileAt path ∧
        (e = .error (.fileAlreadyExists path) ∨ ∃ io, e = .error (.io io))) := by
  by_cases hthere : fs.disk.exists? path = true
  · unfold createFile
    rw [ends_bind, ends_get, if_pos hthere]
    exact ⟨rfl, .inl rfl⟩
  · have hnone := Disk.fileAt_of_not_exists hthere
    have hmake : ∀ fs : Files, Ends (onDisk (Disk.createFile path)) fs
        (fun _ fs' => fs'.disk.fileAt path = some Image.empty)
        (fun e _ => ∃ io, e = .error (.io io)) := by
      intro fs
      rw [ends_onDisk]
      exact (Disk.ends_createFile_found fs.disk path).imp (fun _ _ h => h) fun io _ _ => ⟨io, rfl⟩
    have hends : Ends (createFile path) fs (fun _ fs' => fs'.disk.fileAt path = some Image.empty)
        (fun e _ => ∃ io, e = .error (.io io)) := by
      unfold createFile
      rw [ends_bind, ends_get, if_neg hthere]
      dsimp only
      cases path.parent with
      | none => exact hmake fs
      | some up =>
        dsimp only
        rw [ends_bind, ends_onDisk, ends_iff]
        exact ⟨fun _ d' _ => hmake { fs with disk := d' }, fun io _ _ => ⟨io, rfl⟩⟩
    refine (hends.and (ends_createFile_failed fs path (Disk.fileAt_eq_none_iff.mp hnone))).imp ?_ ?_
    · exact fun _ _ h => ⟨hnone, h.1⟩
    · rintro e fs' ⟨hio, -, hstill⟩
      exact ⟨(Disk.fileAt_eq_none_iff.mpr hstill).trans hnone.symm, .inr hio⟩

/-! ## Writing a header to a file that is open -/

/-- A header that fits is written to any file that is open, and no file is closed. -/
theorem ends_writeHeader_of_open {h : Nat} (hopen : (fs.table.byHandle? h).isSome)
    {bytes : List UInt8} (hlength : bytes.length ≤ blockSize) :
    Ends (writeHeader h bytes) fs (fun _ fs' => fs'.table = fs.table) (fun _ _ => False) := by
  obtain ⟨o, ho⟩ := Option.isSome_iff_exists.mp hopen
  have hblock : Ends (writeBlock h 0 (Buffer.ofList blockSize bytes)) fs
      (fun _ fs' => fs'.table = fs.table) (fun _ _ => False) := by
    have hword : 0 * blockSize + blockSize < wordLimit := by decide
    unfold writeBlock blockOffset
    rw [dif_pos rfl, ends_bind, ends_opened]
    refine ⟨fun o _ => ?_, fun hnone => absurd (ho.symm.trans hnone) nofun⟩
    rw [ends_bind, ends_checkWord]
    refine ⟨fun _ => ?_, fun hfar => absurd hfar (by decide)⟩
    rw [ends_bind, ends_checkWord]
    refine ⟨fun _ => ?_, fun hfar => absurd hword (Nat.not_lt.2 hfar)⟩
    rw [ends_bind, ends_image]
    refine ends_ite.mpr ⟨fun _ => ?_, fun _ => ?_⟩
    · rw [ends_bind, ends_setSize]
      refine ⟨fun _ => ?_, fun hfar => absurd hfar (by decide)⟩
      exact ends_ite.mpr ⟨fun hfar => absurd hfar (by decide), fun _ => rfl⟩
    · exact ends_ite.mpr ⟨fun hfar => absurd hfar (by decide), fun _ => rfl⟩
  unfold writeHeader
  refine ends_ite.mpr ⟨fun hlong => absurd hlength (Nat.not_le.2 hlong), fun _ => ?_⟩
  rw [ends_bind]
  refine hblock.imp (fun _ fs' htable => ?_) fun _ _ h => h
  rw [ends_syncFile]
  refine ⟨fun _ => htable, fun hnone => ?_⟩
  rw [htable, ho] at hnone
  cases hnone

/-- **Why a file that stands at a path cannot be opened**: there is no handle left for it, or
the way to it is too long. In a table whose maps are not inverse to each other, its place may
also have a handle that is not open. -/
def NoHandle (fs : Files) (path : Path) (d : Disk) : FileError → Prop
  | .tooManyOpenFiles => fs.table.limit ≤ fs.table.opened.length
  | .fileNotFound p => p = path ∧ ∀ place, d.canonical path ≠ .ok place
  | .invalidHandle h => fs.table.byHandle? h = none ∧
      ∃ place, d.canonical path = .ok place ∧ fs.table.handleAt? place = some h
  | _ => False

/-- A file that was made is opened unless there is no handle for it, or the handle that it is
given is not open. -/
theorem ends_openFile_of_made {i : ImageId}
    (hmade : ∀ place, fs.disk.canonical path = .ok place → fs.disk.node? place = some (.file i)) :
    Ends (openFile path) fs
      (fun h fs' => (fs'.table.byHandle? h).isSome ∨
        fs' = fs ∧ fs.NoHandle path fs.disk (.invalidHandle h))
      (fun e fs' => fs' = fs ∧ ∃ fe, e = .error fe ∧ fs.NoHandle path fs.disk fe) := by
  unfold openFile
  rw [ends_bind, ends_get]
  cases hplace : fs.disk.canonical path with
  | error e =>
    refine ⟨rfl, _, rfl, rfl, fun place heq => ?_⟩
    rw [hplace] at heq
    cases heq
  | ok place =>
    rw [ends_bind, ends_get]
    dsimp only
    cases hopen : fs.table.handleAt? place with
    | some h =>
      cases ho : fs.table.byHandle? h with
      | none => exact .inr ⟨rfl, ho, place, hplace, hopen⟩
      | some o => exact .inl (Option.isSome_of_eq_some ho)
    | none =>
      refine ends_ite.mpr ⟨fun hfull => ⟨rfl, _, rfl, hfull⟩, fun _ => ?_⟩
      rw [ends_bind, ends_get, hmade place hplace]
      exact .inl (Option.isSome_of_eq_some (FileTable.byHandle?_add.trans (if_pos rfl)))

/-! ## What is left -/

/-- **What is left of a record file that could not be created**, by how far it came.

The options were `refused`, and nothing was done. The file was `unmade`: where a file stood
it still stands, and where none stood there is none, though directories may have been made
on the way. Or the file was `unopened`: there was none before, and now there is an empty
one, beside the directories above it. -/
inductive Uncreated (fs : Files) (path : Path) (options : FileOptions) :
    Fault RecordError → Disk → Prop
  | refused {e : RecordError} (hoptions : FileHeader.create options = .error e) :
      Uncreated fs path options (.error e) fs.disk
  | unmade {fe : FileError} {d : Disk}
      (hcause : fe = .fileAlreadyExists path ∨ ∃ io, fe = .io io)
      (hextended : fs.disk.Extended d) (hsame : d.fileAt path = fs.disk.fileAt path) :
      Uncreated fs path options (.error (.file fe)) d
  | unopened {fe : FileError} {d : Disk} {i : ImageId} (hcause : fs.NoHandle path d fe)
      (hmade : fs.disk.Made d path i) (hbefore : fs.disk.fileAt path = none)
      (hafter : d.fileAt path = some Image.empty) :
      Uncreated fs path options (.error (.file fe)) d

end Files

/-- **Nothing is created where there is a file**, whatever the store. -/
theorem ends_create_occupied {s : Store} {path : Path}
    (hthere : s.files.disk.fileAt path ≠ none) (options : FileOptions) :
    Ends (RecordFile.create path options) s (fun _ _ => False)
      (fun e s' => s' = s ∧ e.IsError) := by
  unfold RecordFile.create RecordFile.passing
  cases FileHeader.create options with
  | error e => exact ⟨rfl, trivial⟩
  | ok header =>
    dsimp only
    rw [ends_bind, ends_widenError, ends_bind, Store.ends_onFiles]
    unfold Files.createFile
    rw [ends_bind, ends_get,
      if_pos (not_not.mp fun hnone => hthere (Disk.fileAt_of_not_exists hnone))]
    exact ⟨rfl, trivial⟩

/-- **What is left of a creation that failed.** No file was opened or closed, and of the store
only the disk may have changed. -/
theorem ends_create_uncreated (s : Store) (path : Path) (options : FileOptions) :
    Ends (RecordFile.create path options) s (fun _ _ => True)
      (fun e s' => s' = { s with files := { s.files with disk := s'.files.disk } } ∧
        s.files.Uncreated path options e s'.files.disk) := by
  have hrest : ∀ {fs : Files}, fs.table = s.files.table →
      ({ s with files := fs } : Store) = { s with files := { s.files with disk := fs.disk } } := by
    rintro ⟨disk, table⟩ rfl
    rfl
  unfold RecordFile.create RecordFile.passing
  cases hoptions : FileHeader.create options with
  | error e => exact ⟨rfl, .refused hoptions⟩
  | ok header =>
    have hlength := header.length_encode_le
    dsimp only
    rw [ends_bind, ends_widenError, ends_bind, Store.ends_onFiles]
    refine ((Files.ends_createFile s.files path).and
      (Files.ends_createFile_fileAt s.files path)).imp ?_ ?_
    swap
    · rintro e fs ⟨⟨htable, hextended⟩, hsame, rfl | ⟨io, rfl⟩⟩
      · exact ⟨hrest htable, .unmade (.inl rfl) hextended hsame⟩
      · exact ⟨hrest htable, .unmade (.inr ⟨io, rfl⟩) hextended hsame⟩
    rintro _ fs ⟨⟨htable, i, hmade⟩, hbefore, hafter⟩
    rw [ends_bind, Store.ends_onFiles]
    have hunopened : ∀ {fe}, fs.NoHandle path fs.disk fe →
        s.files.Uncreated path options (.error (.file fe)) fs.disk := by
      intro fe hcause
      refine .unopened ?_ hmade hbefore hafter
      unfold Files.NoHandle at hcause ⊢
      rwa [htable] at hcause
    refine (Files.ends_openFile_of_made hmade.found).imp ?_ ?_
    · rintro h fs' (hopen | ⟨rfl, hcause⟩)
      · -- a file that is open takes a header and can be closed
        rw [ends_bind, ends_attempt, Store.ends_onFiles]
        refine (Files.ends_writeHeader_of_open hopen hlength).imp ?_ fun _ _ h => h.elim
        intro _ fs'' htable''
        rw [ends_bind, Store.ends_closeFile]
        refine ⟨fun _ => trivial, fun hnone => ?_⟩
        have hnone : fs''.table.byHandle? h = none := hnone
        rw [htable''] at hnone
        rw [hnone] at hopen
        cases hopen
      · -- under a handle that is not open nothing is written, and nothing is closed
        rw [ends_bind, ends_attempt, Store.ends_onFiles]
        refine (Files.ends_writeHeader_of_closed hcause.1 hlength).imp (fun _ _ h => h.elim) ?_
        rintro _ _ ⟨rfl, rfl⟩
        dsimp only
        rw [ends_bind, Store.ends_closeFile]
        refine ⟨fun hsome => ?_, fun _ => ⟨hrest htable, hunopened hcause⟩⟩
        rw [show _ = none from hcause.1] at hsome
        cases hsome
    · rintro _ fs' ⟨rfl, fe, rfl, hcause⟩
      exact ⟨hrest htable, hunopened hcause⟩

/-- **A record file that could not be created leaves no file behind**, unless it was made and
there was no handle for it. Then it is left empty, and stands in the way of creating it in
any store. Whatever the failure, it is an error, the same files are open as before, and the
store is what it was apart from its disk. -/
theorem failed_creation_leaves_unopened_file_only (s : Store) (path : Path) (options : FileOptions) :
    Ends (RecordFile.create path options) s (fun _ _ => True)
      (fun e s' => s' = { s with files := { s.files with disk := s'.files.disk } } ∧
        s.files.Uncreated path options e s'.files.disk ∧
        (s'.files.disk.fileAt path ≠ none → ∀ t : Store, t.files.disk = s'.files.disk →
          ∀ options', Ends (RecordFile.create path options') t (fun _ _ => False)
            (fun e t' => t' = t ∧ e.IsError))) := by
  refine (ends_create_uncreated s path options).imp (fun _ _ h => h) ?_
  rintro e s' ⟨hrest, huncreated⟩
  refine ⟨hrest, huncreated, fun hthere t hdisk options' => ends_create_occupied ?_ options'⟩
  rw [hdisk]
  exact hthere

/-! ## A store without handles -/

/-- A store in which no file may be open. -/
def crowdedStore : Store := .ofDisk .empty 1 0

/-- That store after a record file could not be created in it. -/
def leftStore : Store := stateAfter (RecordFile.create ⟨["f"]⟩ ⟨1, some 1⟩) crowdedStore

/-- **A file that was made and not opened is left behind**: there was none at the path before,
there is an empty one after the failure, and the file cannot be created in a store that has a
handle for it, though it could have been created there before. -/
theorem failed_creation_leaves_file :
    RecordFile.create ⟨["f"]⟩ ⟨1, some 1⟩ crowdedStore =
        .error (.error (.file .tooManyOpenFiles)) leftStore ∧
      crowdedStore.files.disk.fileAt ⟨["f"]⟩ = none ∧
      leftStore.files.disk.fileAt ⟨["f"]⟩ = some Image.empty ∧
      answer (RecordFile.create ⟨["f"]⟩ ⟨1, some 1⟩) (.ofDisk crowdedStore.files.disk 1 1) = .ok () ∧
      answer (RecordFile.create ⟨["f"]⟩ ⟨1, some 1⟩) (.ofDisk leftStore.files.disk 1 1) =
        .error (.error (.file (.fileAlreadyExists ⟨["f"]⟩))) :=
  ⟨rfl, rfl, rfl, rfl, rfl⟩

end SlottedFile
