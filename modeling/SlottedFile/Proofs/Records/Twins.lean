import SlottedFile.Proofs.Records.Undisturbed

/-!
# Two handles of one record file

A path that is open can be opened again. Whoever does so gets the handle that the file has,
and a copy of its header of their own (`Twins`). The pages are shared, and so is the header
block, but each copy is only changed by the calls that are made through it, and is written
over the header block whenever it changes and when the file is closed.

So what is called through a copy that has become stale undoes what was called through the
other one (`stale_handle_loses_record`). As long as each call is made through a copy that is
the header of the file (`Twins.Current`), the two are as good as one
(`current_handles_lose_no_record`): both stay current as long as the header does not change,
and one that has become stale is made current by opening the path once more.
-/

namespace SlottedFile

/-- **A store in which a file has two handles**, each with its copy of the header. -/
structure Twins where
  store : Store
  handles : Bool → RecordFile

namespace Twins

/-- The session of one of the handles. -/
def session (t : Twins) (which : Bool) : Session := ⟨t.store, t.handles which⟩

/-- The handles after something was done through one of them. -/
def put (t : Twins) (which : Bool) (s : Session) : Twins where
  store := s.store
  handles := Function.update t.handles which s.file

/-- **Whether a handle is current**: whoever opens the path gets the same one. -/
def Current (path : Path) (t : Twins) (which : Bool) : Prop :=
  ∃ store, RecordFile.openFile path t.store = .ok (t.handles which) store

end Twins

/-- **A run of a record file that has two handles**, in a store of its own. Each call is
made through a handle that is current, the other one may be opened anew at any time, and
links can name the pages of the file. -/
inductive TwinRun (path : Path) (options : FileOptions) (disk : Disk) (capacity limit : Nat) :
    List RecordEvent → Twins → Prop
  | opened {s₁ s₂ s₃ : Store} {first second : RecordFile}
      (hcreate : RecordFile.create path options (.ofDisk disk capacity limit) = .ok () s₁)
      (hfirst : RecordFile.openFile path s₁ = .ok first s₂)
      (hsecond : RecordFile.openFile path s₂ = .ok second s₃) :
      TwinRun path options disk capacity limit [] ⟨s₃, fun which => if which then second else first⟩
  | returned {history : List RecordEvent} {t : Twins} {which : Bool} {call : RecordCall}
      {r : RecordReply} {s' : Session} (h : TwinRun path options disk capacity limit history t)
      (hcurrent : t.Current path which) (hfree : call.PinFree)
      (hrun : call.run (t.session which) = .ok r s') (hpages : s'.file.header.pages < noPage) :
      TwinRun path options disk capacity limit (history ++ [⟨call, .ok r⟩]) (t.put which s')
  | failed {history : List RecordEvent} {t : Twins} {which : Bool} {call : RecordCall}
      {e : Fault RecordError} {s' : Session}
      (h : TwinRun path options disk capacity limit history t)
      (hcurrent : t.Current path which) (hfree : call.PinFree)
      (hrun : call.run (t.session which) = .error e s') :
      TwinRun path options disk capacity limit (history ++ [⟨call, .error e⟩]) (t.put which s')
  | renewed {history : List RecordEvent} {t : Twins} (which : Bool) {file : RecordFile}
      {store : Store} (h : TwinRun path options disk capacity limit history t)
      (hopen : RecordFile.openFile path t.store = .ok file store) :
      TwinRun path options disk capacity limit history (t.put which ⟨store, file⟩)

/-! ## What every point of a run has in common -/

/-- **Twins of an undisturbed file**: the file that whoever opens the path gets, under the
handle that both have. -/
structure Twins.Undisturbed (other : Nat → ImageId) (image : ImageId) (path : Path) (k : KeyedStore)
    (file : RecordFile) (t : Twins) : Prop where
  session : (⟨t.store, file⟩ : Session).Undisturbed other image path k
  handle_eq : ∀ which, (t.handles which).handle = file.handle

section Twins

variable {other : Nat → ImageId} {image : ImageId} {path : Path} {options : FileOptions}
  {disk : Disk} {capacity limit : Nat} {history : List RecordEvent} {k : KeyedStore}
  {file : RecordFile} {t : Twins} {which : Bool}

namespace Twins.Undisturbed

/-- A handle that is current is the one that whoever opens the path gets. -/
theorem eq_of_current (h : t.Undisturbed other image path k file) (hcurrent : t.Current path which) :
    t.handles which = file := by
  obtain ⟨store, hopen⟩ := hcurrent
  exact (h.session.ends_openFile.of_ok hopen).1

theorem session_eq (h : t.Undisturbed other image path k file) (hcurrent : t.Current path which) :
    t.session which = ⟨t.store, file⟩ := by
  rw [Twins.session, h.eq_of_current hcurrent]

/-- What is done through a handle leaves both with the same one. -/
theorem put {s' : Session} {k' : KeyedStore} (h : t.Undisturbed other image path k file)
    (hsession : s'.Undisturbed other image path k') (hhandle : s'.file.handle = file.handle) :
    (t.put which s').Undisturbed other image path k' s'.file where
  session := hsession
  handle_eq := by
    intro which'
    show (Function.update t.handles which s'.file which').handle = _
    rw [Function.update_apply]
    split
    · rfl
    · rw [h.handle_eq, hhandle]

end Twins.Undisturbed

/-- **The run lemma**: at every point the file is undisturbed, and represents the keyed
store on which the history was replayed. -/
theorem TwinRun.undisturbed (h : TwinRun path options disk capacity limit history t) :
    ∃ other image header k file, FileHeader.create options = .ok header ∧
      Replays (.empty header.recordSize header.recordsPerPage) history k ∧
      t.Undisturbed other image path k file := by
  induction h with
  | @opened s₁ s₂ s₃ first second hcreate hfirst hsecond =>
    obtain ⟨other, image, header, hheader, hsession⟩ :=
      Session.Undisturbed.of_created hcreate hfirst
    obtain ⟨rfl, hsession'⟩ := hsession.ends_openFile.of_ok hsecond
    refine ⟨other, image, header, _, _, hheader, .start, hsession', fun which => ?_⟩
    cases which <;> rfl
  | returned _ hcurrent hfree hrun hpages ih =>
    obtain ⟨other, image, header, k, file, hheader, hreplays, h⟩ := ih
    rw [h.session_eq hcurrent] at hrun
    obtain ⟨hhandle, hstep⟩ := (h.session.ends_call hfree).of_ok hrun
    obtain ⟨k', hstep, hsession⟩ := hstep hpages
    exact ⟨other, image, header, k', _, hheader, hreplays.step hstep, h.put hsession hhandle⟩
  | failed _ hcurrent hfree hrun ih =>
    obtain ⟨other, image, header, k, file, hheader, hreplays, h⟩ := ih
    rw [h.session_eq hcurrent] at hrun
    obtain ⟨hfile, hstep, hsession⟩ := (h.session.ends_call hfree).of_error hrun
    exact ⟨other, image, header, k, _, hheader, hreplays.step hstep,
      h.put hsession (congrArg RecordFile.handle hfile)⟩
  | renewed which _ hopen ih =>
    obtain ⟨other, image, header, k, file, hheader, hreplays, h⟩ := ih
    obtain ⟨rfl, hsession⟩ := h.session.ends_openFile.of_ok hopen
    exact ⟨other, image, header, k, _, hheader, hreplays, h.put hsession rfl⟩

/-- **Handles that are current lose no record.** If each call was made through a handle that
was current, the file can be closed through one that still is. Closing the other one finds
the handle closed and changes nothing. Whoever then opens the path finds a file that passes
its check, and each record that was acknowledged and not deleted. -/
theorem current_handles_lose_no_record (h : TwinRun path options disk capacity limit history t)
    (hcurrent : t.Current path which) :
    ∃ store, (t.handles which).close t.store = .ok () store ∧
      (t.handles !which).close store =
        .error (.error (.file (.invalidHandle (t.handles which).handle))) store ∧
      ∃ file store', RecordFile.openFile path store = .ok file store' ∧
        (∃ store'', file.check store' = .ok () store'') ∧
        ∀ id record, acknowledged history id = some record →
          ∃ store'', file.get id store' = .ok record store'' := by
  obtain ⟨other, image, header, k, file, -, hreplays, h⟩ := h.undisturbed
  obtain rfl := h.eq_of_current hcurrent
  obtain ⟨_, store, hclose, hclosed, hopens⟩ := h.session.ends_close.exists_ok
  obtain ⟨file, store', hopen, hsession⟩ := hopens.exists_ok
  refine ⟨store, hclose, ?_, file, store', hopen, hsession.check_eq, fun id record hrecord => ?_⟩
  · have hhandle := h.handle_eq !which
    have htable : store.files.table = t.store.files.table.erase (t.handles which).handle :=
      congrArg Picture.table hclosed.picture
    have hnone : store.files.table.byHandle? (t.handles !which).handle = none := by
      rw [htable, FileTable.byHandle?_erase, if_pos hhandle]
    obtain ⟨_, _, herror, rfl, rfl⟩ := (ends_close_of_closed hclosed.sound.coherent.distinct
      (t.handles !which) hnone fun key hkey => hclosed.out key (hkey.trans hhandle)).exists_error
    rw [herror, hhandle]
  · refine hsession.get_eq ?_
    rw [hreplays.records_eq rfl]
    exact hrecord

/-! ## A file with two handles -/

/-- A file of one slot in every page that was opened twice. -/
def tinyTwins : Twins where
  store := stateAfter (RecordFile.openFile ⟨["f"]⟩) tinyOpened.store
  handles := fun which => if which then tinyOpened.file else tinyOpened.file

/-- The twins after a record was inserted through the first handle. -/
def tinyTwinsFilled : Twins :=
  tinyTwins.put false (stateAfter (RecordCall.insert [7]).run (tinyTwins.session false))

set_option maxRecDepth 100000 in
theorem tinyTwinsFilled_run :
    TwinRun ⟨["f"]⟩ ⟨1, some 1⟩ .empty 1 1 [⟨.insert [7], .ok (.inserted ⟨0, 0⟩)⟩] tinyTwinsFilled := by
  have hcreate : RecordFile.create ⟨["f"]⟩ ⟨1, some 1⟩ (.ofDisk .empty 1 1) = .ok () tinyCreated := rfl
  have hfirst : RecordFile.openFile ⟨["f"]⟩ tinyCreated = .ok tinyOpened.file tinyOpened.store := rfl
  have hsecond : RecordFile.openFile ⟨["f"]⟩ tinyOpened.store =
      .ok tinyOpened.file tinyTwins.store := rfl
  have hcurrent : tinyTwins.Current ⟨["f"]⟩ false := ⟨_, rfl⟩
  have hinsert : (RecordCall.insert [7]).run (tinyTwins.session false) = .ok (.inserted ⟨0, 0⟩)
      (stateAfter (RecordCall.insert [7]).run (tinyTwins.session false)) := rfl
  exact (TwinRun.opened hcreate hfirst hsecond).returned hcurrent trivial hinsert
    (show 1 < noPage by decide)

/-- The file is closed through the handle through which the record was inserted, and the
record is found. -/
theorem current_handles_lose_no_record_tiny :
    ∃ store, (tinyTwinsFilled.handles false).close tinyTwinsFilled.store = .ok () store ∧
      ∃ file store', RecordFile.openFile ⟨["f"]⟩ store = .ok file store' ∧
        ∃ store'', file.get ⟨0, 0⟩ store' = .ok [7] store'' := by
  have hopens : answer (RecordFile.openFile ⟨["f"]⟩) tinyTwinsFilled.store =
      .ok (tinyTwinsFilled.handles false) := by decide +kernel
  have hcurrent : tinyTwinsFilled.Current ⟨["f"]⟩ false := ⟨_, eq_of_answer hopens⟩
  obtain ⟨store, hclose, -, file, store', hopen, -, hget⟩ :=
    current_handles_lose_no_record tinyTwinsFilled_run hcurrent
  exact ⟨store, hclose, file, store', hopen, hget ⟨0, 0⟩ [7] rfl⟩

/-- The store after the file was closed through the handle that is stale. -/
def tinyTwinsClosed : Store :=
  stateAfter (tinyTwinsFilled.handles true).close tinyTwinsFilled.store

/-- The file after it was opened again. -/
def tinyTwinsReopened : Session where
  store := stateAfter (RecordFile.openFile ⟨["f"]⟩) tinyTwinsClosed
  file := ⟨2, ⟨1, 1, 0, 1, none⟩⟩

/-- **A stale handle loses a record.** The second handle has not learnt of the page in which
the record is. It is closed first, and writes its copy over the header block: the page is
cut off as soon as the file is opened again, and the record that was acknowledged is gone. -/
theorem stale_handle_loses_record :
    acknowledged [⟨.insert [7], .ok (.inserted ⟨0, 0⟩)⟩] ⟨0, 0⟩ = some [7] ∧
      TwinRun ⟨["f"]⟩ ⟨1, some 1⟩ .empty 1 1 [⟨.insert [7], .ok (.inserted ⟨0, 0⟩)⟩]
        tinyTwinsFilled ∧
      answer (tinyTwinsFilled.handles true).close tinyTwinsFilled.store = .ok () ∧
      answer (tinyTwinsFilled.handles false).close tinyTwinsClosed =
        .error (.error (.file (.invalidHandle 1))) ∧
      answer (RecordFile.openFile ⟨["f"]⟩) tinyTwinsClosed = .ok tinyTwinsReopened.file ∧
      answer (tinyTwinsReopened.file.get ⟨0, 0⟩) tinyTwinsReopened.store =
        .error (.error (.pageNotExist 0)) := by
  refine ⟨rfl, tinyTwinsFilled_run, ?_, ?_, ?_, ?_⟩
  all_goals decide +kernel

end Twins

end SlottedFile
