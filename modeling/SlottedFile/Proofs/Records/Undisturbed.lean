import SlottedFile.Proofs.Records.Acknowledged
import SlottedFile.Proofs.Records.Durability
import SlottedFile.Proofs.Records.Inspection
import SlottedFile.Proofs.Records.Tasks

/-!
# A record file that nobody else works on

A session is undisturbed (`Session.Undisturbed`) if its file is all there, nobody holds a
pin, and no page of another file is dirty. Then one frame is enough to read a record and to
check the file (`get_eq`, `check_eq`), calls leave the session undisturbed (`ends_call`),
and the file can be closed and opened again (`ends_close`). Whoever opens it while it is
open gets the same handle with the header that it has (`ends_openFile`).
-/

namespace SlottedFile

/-! ## Handles that are open, and handles that are not -/

/-- **The header of an open file is read** and nothing is cut off, if it counts the pages
that the file has. -/
theorem ends_loadHeader_same {s : Store} {h : Nat} {o : OpenFile}
    (ho : s.files.table.byHandle? h = some o) {header : FileHeader}
    (hdecode : FileHeader.decode ((s.files.disk.image o.image).block 0).toList = .ok header)
    (hpages : (s.files.disk.image o.image).pages = header.pages) :
    Ends (RecordFile.loadHeader h) s (fun header' s' => header' = header ∧ s' = s)
      (fun _ _ => False) := by
  refine (ends_loadHeader_cut ho).imp ?_ ?_
  · rintro header' _ ⟨hcommits, rfl⟩
    obtain rfl := hcommits.unique hdecode
    exact ⟨rfl, if_neg (Nat.not_lt.2 (Nat.le_of_eq hpages))⟩
  · rintro _ _ ⟨-, -, hnone⟩
    exact hnone header ⟨hdecode, Nat.le_of_eq hpages.symm⟩

/-- **Opening a file that is open** gives the handle that it has, and the header that its
header block holds. -/
theorem ends_openFile_again {s : Store} (hs : s.files.Sound) {path : Path} {h : Nat} {o : OpenFile}
    (ho : s.files.table.byHandle? h = some o) (hplace : s.files.disk.canonical path = .ok o.place)
    {header : FileHeader}
    (hdecode : FileHeader.decode ((s.files.disk.image o.image).block 0).toList = .ok header)
    (hpages : (s.files.disk.image o.image).pages = header.pages) :
    Ends (RecordFile.openFile path) s
      (fun file s' => file = ⟨h, header⟩ ∧
        s' = { s with events := .fileOpened path header.pages :: s.events })
      (fun _ _ => False) := by
  obtain ⟨hmem, rfl⟩ := FileTable.mem_of_byHandle? ho
  have hfound := hs.handleAt?_eq_some_iff.mpr ⟨o, hmem, rfl, rfl⟩
  have hfind : Ends (Store.onFiles (Files.openFile path)) s (fun h' s' => h' = o.handle ∧ s' = s)
      (fun _ _ => False) := by
    unfold Files.openFile
    rw [Store.ends_onFiles, ends_bind, ends_get, hplace]
    dsimp only
    rw [ends_bind, ends_get, hfound]
    exact ⟨rfl, rfl⟩
  unfold RecordFile.openFile RecordFile.passing
  rw [ends_bind, ends_widenError]
  refine hfind.imp ?_ fun _ _ h => h
  rintro _ _ ⟨rfl, rfl⟩
  rw [ends_bind, ends_attempt]
  refine (ends_loadHeader_same ho hdecode hpages).imp ?_ fun _ _ h => h.elim
  rintro _ _ ⟨rfl, rfl⟩
  exact ⟨rfl, rfl⟩

/-- A header is not written under a handle that is not open. -/
theorem ends_persistHeader_of_closed {s : Store} (f : RecordFile)
    (hclosed : s.files.table.byHandle? f.handle = none) :
    Ends f.persistHeader s (fun _ _ => False)
      (fun e s' => e = .error (.file (.invalidHandle f.handle)) ∧ s' = s) := by
  unfold RecordFile.persistHeader RecordFile.passing
  rw [ends_widenError, Store.ends_onFiles]
  refine (Files.ends_writeHeader_of_closed hclosed (FileHeader.length_encode_le _)).imp
    (fun _ _ h => h) ?_
  rintro _ _ ⟨rfl, rfl⟩
  exact ⟨rfl, rfl⟩

/-- **A file of which nothing is buffered** has nothing to be discarded. -/
theorem Store.ends_discardFile_of_out {s : Store} {h : Nat}
    (hout : ∀ e ∈ s.pool.entries, e.key.file ≠ h) {good : Unit → Store → Prop}
    {bad : Fault FileError → Store → Prop} :
    Ends (discardFile h) s good bad ↔ Ends (onFiles (Files.syncFile h)) s good bad := by
  have hkeys : s.pool.keysWhere (·.key.file == h) = [] := by
    refine List.map_eq_nil_iff.mpr (List.filter_eq_nil_iff.mpr fun e he => ?_)
    rw [beq_iff_eq]
    exact hout e he
  unfold discardFile
  rw [ends_bind, ends_get, hkeys]
  rfl

/-- **Closing a handle that is not open** fails, and changes nothing if no page is buffered
under it. -/
theorem ends_close_of_closed {s : Store} (hs : s.pool.Distinct) (f : RecordFile)
    (hclosed : s.files.table.byHandle? f.handle = none)
    (hout : ∀ k, k.file = f.handle → s.pool.frame? k = none) :
    Ends f.close s (fun _ _ => False)
      (fun e s' => e = .error (.file (.invalidHandle f.handle)) ∧ s' = s) := by
  have hnone : ∀ e ∈ s.pool.entries, e.key.file ≠ f.handle := fun e he hfile =>
    absurd ((Pool.frame?_of_find? (Pool.find?_of_mem hs he)).symm.trans (hout e.key hfile)) nofun
  unfold RecordFile.close RecordFile.passing
  rw [ends_bind, ends_attempt]
  refine (ends_persistHeader_of_closed f hclosed).imp (fun _ _ h => h.elim) ?_
  rintro _ s ⟨rfl, rfl⟩
  dsimp only
  rw [ends_bind, ends_widenError, Store.ends_discardFile_of_out hnone, Store.ends_onFiles,
    Files.ends_syncFile]
  refine ⟨fun hopen => ?_, fun _ => ⟨rfl, rfl⟩⟩
  rw [hclosed] at hopen
  cases hopen

/-! ## Undisturbed sessions -/

/-- **A session whose file nobody else works on**, and the keyed store that the file
represents. -/
structure Session.Undisturbed (other : Nat → ImageId) (image : ImageId) (path : Path)
    (k : KeyedStore) (s : Session) : Prop where
  work : AtWork other image path [] s
  represents : Represents (s.own other image) k
  pages_lt : s.file.header.pages < noPage
  within : s.store.files.table.Within
  held_eq : s.store.held = []
  one_le : 1 ≤ s.store.pool.capacity
  dirty : ∀ key, s.store.pool.isDirty key = true → PageOf s.file.handle key

namespace Session.Undisturbed

variable {other : Nat → ImageId} {image : ImageId} {path : Path} {k k' : KeyedStore} {s s' : Session}

theorem entire (h : s.Undisturbed other image path k) :
    s.Entire (standFor other image s.file.handle) [] (s.own other image) :=
  ⟨h.work.good, rfl, h.work.whole, h.pages_lt⟩

theorem written (h : s.Undisturbed other image path k) :
    FileHeader.decode (s.own other image).stored.toList = .ok s.file.header :=
  (h.represents.inOrder h.pages_lt).written

theorem pinCount_eq (h : s.Undisturbed other image path k) (key : PageKey) :
    s.store.pool.pinCount key = 0 := by
  rw [h.work.good.sound.coherent.pins_eq, h.held_eq]
  rfl

/-- There is room for a pin. -/
theorem roomy (h : s.Undisturbed other image path k) : s.store.Roomy 1 where
  room := by
    rw [Pool.pinnedCount_eq_zero h.work.good.sound.coherent.distinct h.pinCount_eq, Nat.zero_add]
    exact h.one_le
  writable := fun key hdirty =>
    Session.Open.writable h.work.good.opened (h.dirty key hdirty)

/-! ## Reading -/

/-- **A record that there is is read.** -/
theorem get_eq (h : s.Undisturbed other image path k) {id : RecordId} {record : List UInt8}
    (hrecord : k.records id = some record) :
    ∃ store, s.file.get id s.store = .ok record store := by
  have hread : PlainFile.get id (s.own other image) = .ok record (s.own other image) := by
    have hpage : id.page < k.pages := h.represents.page_lt (by rw [KeyedStore.isLive, hrecord]; rfl)
    have hspec := KeyedStore.get_eq hpage hrecord
    obtain ⟨p', hget, -⟩ := (agrees_get h.represents id).exists_ok hspec
    rwa [(PlainFile.reads_get id).eq hget] at hget
  have hexact := h.entire.exact_of_does (does_getRecord h.work.good rfl h.work.whole.toSized id) h.roomy
    (balanced_get id)
  have hends : Ends (s.file.get id) s.store (fun r _ => r = record) (fun _ _ => False) := by
    refine (ends_onStore.mp hexact).imp ?_ ?_
    · rintro r _ ⟨p', hplain, -⟩
      rw [hread] at hplain
      cases hplain
      rfl
    · rintro _ _ ⟨-, p', hplain, -⟩
      rw [hread] at hplain
      cases hplain
  obtain ⟨_, store, hok, rfl⟩ := hends.exists_ok
  exact ⟨store, hok⟩

/-- **The file passes its check.** -/
theorem check_eq (h : s.Undisturbed other image path k) :
    ∃ store, s.file.check s.store = .ok () store := by
  have hplain := (h.represents.inOrder h.pages_lt).check_eq h.work.whole.toSized
  have hexact := h.entire.exact_of_does (does_check h.work.good rfl h.work.whole.toSized) h.roomy
    balanced_check
  have hends : Ends s.file.check s.store (fun _ _ => True) (fun _ _ => False) := by
    refine (ends_onStore.mp hexact).imp (fun _ _ _ => trivial) ?_
    rintro _ _ ⟨-, p', hfails, -⟩
    rw [hplain] at hfails
    cases hfails
  obtain ⟨_, store, hok, -⟩ := hends.exists_ok
  exact ⟨store, hok⟩

/-! ## Calls -/

/-- What goes on with its file leaves a session undisturbed. -/
theorem steady (h : s.Undisturbed other image path k) (hsteady : s.Steady s')
    (hwork : AtWork other image path [] s') (hrep : Represents (s'.own other image) k')
    (hpages : s'.file.header.pages < noPage) : s'.Undisturbed other image path k' where
  work := hwork
  represents := hrep
  pages_lt := hpages
  within := by
    rw [hsteady.onward.files.table_eq]
    exact h.within
  held_eq := by
    have hpins := hsteady.onward.pins_eq
    rw [h.held_eq] at hpins
    exact List.map_eq_nil_iff.mp hpins
  one_le := by
    rw [hsteady.onward.capacity_eq]
    exact h.one_le
  dirty := by
    intro key hdirty
    rw [hsteady.handle_eq]
    exact (hsteady.onward.dirty key hdirty).elim (h.dirty key) id

/-- **The step lemma**: a call that is answered does to the keyed store what its answer
says, and one that fails does nothing. -/
theorem ends_call (h : s.Undisturbed other image path k) {call : RecordCall} (hfree : call.PinFree) :
    Ends call.run s
      (fun r s' => s'.file.handle = s.file.handle ∧ (s'.file.header.pages < noPage →
        ∃ k', KeyedStep k ⟨call, .ok r⟩ k' ∧ s'.Undisturbed other image path k'))
      (fun e s' => s'.file = s.file ∧ KeyedStep k ⟨call, .error e⟩ k ∧
        s'.Undisturbed other image path k) := by
  have hallowed : call.Allowed s := by cases call <;> first | exact hfree.elim | trivial
  have hmoves : ¬call.MovesPin := by cases call <;> first | exact hfree.elim | exact id
  have hbalanced : Balanced False 2 call.run := RecordCall.balanced hmoves
  refine ((RecordCall.ends_replayed h.work.good rfl h.represents h.pages_lt hfree.readOnly
    hallowed).and (hbalanced s h.entire.fit False.elim)).imp ?_ ?_
  · rintro r s' ⟨⟨p', hbecame, hgrown, k', hstep, hfollows⟩, hsteady⟩
    obtain ⟨hwork, rfl⟩ := h.work.became hbecame (hgrown.whole h.work.whole)
    exact ⟨hbecame.handle_eq, fun hpages =>
      ⟨k', hstep, h.steady hsteady hwork hfollows.represents hpages⟩⟩
  · rintro e s' ⟨⟨hbecame, hstep⟩, hfails⟩
    obtain ⟨hwork, hown⟩ := h.work.became hbecame h.work.whole
    have hfile := hbecame.file_eq rfl
    refine ⟨hfile, hstep, h.steady hfails.steady hwork (hown ▸ h.represents) ?_⟩
    rw [hfile]
    exact h.pages_lt

/-- **Whoever opens the file gets the handle that it has**, and the same header. -/
theorem ends_openFile (h : s.Undisturbed other image path k) :
    Ends (RecordFile.openFile path) s.store
      (fun file store => file = s.file ∧ Undisturbed other image path k ⟨store, s.file⟩)
      (fun _ _ => False) := by
  obtain ⟨o, ho, hplace⟩ := h.work.place
  have hgood := h.work.good
  have himage : o.image = image := by
    rw [hgood.sound.coherent.stands_of_byHandle? ho, standFor_self]
  have hstored : (s.own other image).stored = (s.store.files.disk.image o.image).block 0 := by
    rw [himage]
    exact congrArg (s.store.files.disk.image · |>.block 0) standFor_self
  have hcount : (s.own other image).count = (s.store.files.disk.image o.image).pages := by
    rw [himage]
    exact congrArg (s.store.files.disk.image · |>.pages) standFor_self
  refine (ends_openFile_again hgood.sound.coherent.files ho hplace (hstored ▸ h.written)
    (hcount.symm.trans h.work.whole.count)).imp ?_ fun _ _ h => h
  rintro _ _ ⟨rfl, rfl⟩
  refine ⟨rfl, ?_⟩
  have hevent : ∀ page e, Event.fileOpened path s.file.header.pages ≠ .unpinFailed page e := nofun
  have hsteady := h.entire.fit.onStore (.report h.entire.fit.tidy _ hevent)
  have hreport := Store.Settled.report hgood.sound.coherent (.fileOpened path s.file.header.pages)
  have hstill := Store.Still.of_settled hgood.sound hreport
  have hbecame := Session.Became.of_store hgood hstill.sound hstill.picture
  obtain ⟨hwork, hown⟩ := h.work.became hbecame h.work.whole
  exact h.steady hsteady hwork (hown ▸ h.represents) h.pages_lt

/-! ## Closing and opening -/

/-- **The file can be closed and opened again.** -/
theorem ends_close (h : s.Undisturbed other image path k) :
    Ends s.file.close s.store
      (fun _ t => s.Closed (standFor other image s.file.handle) [] t ∧
        Ends (RecordFile.openFile path) t
          (fun file t' => Undisturbed other image path k ⟨t', file⟩) (fun _ _ => False))
      (fun _ _ => False) := by
  have hpins : ∀ key, key.file = s.file.handle → s.store.pool.pinCount key = 0 := fun key _ =>
    h.pinCount_eq key
  refine ((SlottedFile.ends_close h.work.good rfl h.work.whole hpins).and
    (h.entire.fit.ends_close hpins)).imp ?_ ?_
  · rintro _ t ⟨hclosed, s₁, honward, ht⟩
    obtain ⟨hsound, hleads, hkeeps⟩ := h.work.closed hclosed
    obtain ⟨o, ho, -⟩ := h.work.place
    have hroom : t.files.table.opened.length < t.files.table.limit := by
      rw [ht]
      exact h.within.erase_lt ho
    obtain ⟨file, t', hopen, hopened, hwork, hown⟩ := AtWork.exists_opened hsound h.work.other_ne
      hleads hkeeps h.work.whole h.written hroom
    refine ⟨hclosed, (ends_of_ok hopen).mpr ⟨hwork, hown ▸ h.represents, ?_, ?_, ?_, ?_, ?_⟩⟩
    · have hheader : file.header = s.file.header := congrArg PlainFile.header hown
      rw [hheader]
      exact h.pages_lt
    · exact hopened.within
    · refine hopened.aside.held_eq.trans ?_
      have hheld := honward.pins_eq
      rw [h.held_eq] at hheld
      rw [ht]
      exact List.map_eq_nil_iff.mp hheld
    · rw [hopened.aside.pool_eq, ht]
      exact Nat.le_trans h.one_le (Nat.le_of_eq honward.capacity_eq.symm)
    · -- what is dirty has been dirty, and the pages of the file are out
      intro key hdirty
      rw [show (⟨t', file⟩ : Session).store.pool = t.pool from hopened.aside.pool_eq] at hdirty
      have hbefore := honward.dirty key (by rwa [ht] at hdirty)
      have hpage : PageOf s.file.handle key := hbefore.elim (h.dirty key) id
      rw [Pool.isDirty_of_frame?_none (hclosed.out key hpage.1)] at hdirty
      cases hdirty
  · -- it fails only if the file is too long, and links can name its pages
    rintro e t ⟨hfar, -⟩
    exact h.entire.not_too_long hfar

/-- **A file that was just created** in a store of its own is undisturbed. -/
theorem of_created {options : FileOptions} {disk : Disk} {capacity limit : Nat} {s₁ s₂ : Store}
    {file : RecordFile}
    (hcreate : RecordFile.create path options (.ofDisk disk capacity limit) = .ok () s₁)
    (hopen : RecordFile.openFile path s₁ = .ok file s₂) :
    ∃ other image header, FileHeader.create options = .ok header ∧
      Undisturbed other image path (.empty header.recordSize header.recordsPerPage) ⟨s₂, file⟩ := by
  obtain ⟨_, image, -, hmade⟩ :=
    (ends_create (Store.sound_ofDisk (fun _ _ h => h) disk capacity limit).coherent.files path
      options).of_ok hcreate
  -- handles stand for files that are not on the disk yet
  have hinj : Function.Injective fun h : Nat => image + 1 + h := fun _ _ h => Nat.add_left_cancel h
  have hother : ∀ h : Nat, image + 1 + h ≠ image := fun h =>
    Nat.ne_of_gt (Nat.lt_of_lt_of_le (Nat.lt_succ_self image) (Nat.le_add_right _ h))
  have hsound := Store.sound_ofDisk hinj disk capacity limit
  obtain ⟨header, hheader, hcreated⟩ :=
    (ends_createRecordFile hsound hother path options).of_ok hcreate hmade.leads
  have hopened := (ends_openRecordFile hcreated.sound hother hmade.leads).of_ok hopen
  have hwork : AtWork _ image path [] ⟨s₂, file⟩ :=
    .of_opened hinj hother hcreated.made.stored_eq hopened
  obtain ⟨hpages, hrep⟩ := hopened.represents hheader hcreated hwork
  refine ⟨_, image, header, hheader, hwork, hrep, hpages, hopened.within, ?_, ?_, ?_⟩
  · exact hopened.aside.held_eq.trans hcreated.made.aside.held_eq
  · rw [hopened.aside.pool_eq, hcreated.made.aside.pool_eq]
    exact Nat.le_max_right _ _
  · intro key hdirty
    rw [hopened.aside.pool_eq, hcreated.made.aside.pool_eq] at hdirty
    cases hdirty

end Session.Undisturbed

end SlottedFile
